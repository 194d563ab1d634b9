import RemovableMedia.Proofs.Host.Calls
import RemovableMedia.Proofs.Notification.Schedule

/-!
# The turns of an office

The record that an office keeps of its turns is complete.  Nothing else happens
to the host: each turn finds it as the turn before left it.  On a host that
keeps a record of its calls, these are the calls made in the turns, in order.
-/

namespace RemovableMedia

section Turns

variable {σ : Type}

/-- The turns lead from one host to the next, with nothing in between. -/
def Leads : σ → List (HostTurn σ) → σ → Prop
  | host, [], next => host = next
  | host, turn :: turns, next => turn.before = host ∧ Leads turn.after turns next

theorem leads_append_iff {first second : List (HostTurn σ)} {host next : σ} :
    Leads host (first ++ second) next ↔
      ∃ middle, Leads host first middle ∧ Leads middle second next := by
  induction first generalizing host with
  | nil =>
      constructor
      · intro leads
        exact ⟨host, rfl, leads⟩
      · rintro ⟨_, rfl, leads⟩
        exact leads
  | cons turn first induction =>
      constructor
      · rintro ⟨met, leads⟩
        obtain ⟨middle, before, after⟩ := induction.mp leads
        exact ⟨middle, ⟨met, before⟩, after⟩
      · rintro ⟨middle, ⟨met, before⟩, after⟩
        exact ⟨met, induction.mpr ⟨middle, before, after⟩⟩

variable [NotificationHost σ]

namespace Office

theorem host_step_turn (office : Office σ) (family : Family) :
    (office.step (.turn family)).desk.host =
      ((office.center.queues.get family).turn office.desk).2.2.host :=
  Desk.host_elim_record _ _

theorem queue_step_turn (office : Office σ) (family : Family) :
    (office.step (.turn family)).center.queues.get family =
      ((office.center.queues.get family).turn office.desk).2.1 :=
  PerFamily.get_set_self _ _ _

theorem leads_step {start : σ} {office : Office σ}
    (leads : Leads start office.turns office.desk.host) (step : CenterStep) :
    Leads start (office.step step).turns (office.step step).desk.host := by
  cases step with
  | call call => exact leads
  | turn family =>
      exact leads_append_iff.mpr ⟨office.desk.host, leads, rfl, rfl⟩

theorem leads_run (config : HandlerConfig) (host : σ)
    (steps : List CenterStep) :
    Leads host ((opened config host).run steps).turns
      ((opened config host).run steps).desk.host := by
  induction steps using List.reverseRecOn with
  | nil => rfl
  | append_singleton steps step induction =>
      rw [run_concat]
      exact leads_step induction step

end Office

end Turns

/-! ## Calls on record -/

/-- The call that the turn makes, unless it asks what is visible. -/
def Order.call? : Order → Option HostCall
  | create id content => some (.create id content)
  | createOnce _ _ => none
  | clear id => some (.clear id)

/-- The call to the host that the call to the center is made for. -/
def CenterCall.hostCall (contents : Contents) : CenterCall → HostCall
  | .show kind path message =>
      .create (kind.idFor path).text (contents kind message)
  | .showOnce kind path =>
      .create (kind.idFor path).text (contents kind none)
  | .hide kind path => .clear (kind.idFor path).text

section Recorded

open RecordingHost

variable {σ : Type} [NotificationHost σ] [RecordingHost σ]

theorem Order.calls_afterCall (order : Order) (host : σ) :
    calls (order.afterCall host) = calls host ++ order.call?.toList := by
  cases order with
  | create id content => exact calls_create id content host
  | clear id => exact calls_clear id host
  | createOnce id content =>
      exact (calls_visibleIds host).trans (List.append_nil _).symm

theorem Queue.calls_turn (queue : Queue Order) (desk : Desk σ) :
    calls desk.host <+: calls (queue.turn desk).2.2.host := by
  rcases entries : queue.entries with _ | ⟨order | waiter, behind⟩
  · rw [turn_of_nil entries]
  · rw [(turn_of_order entries desk).2, order.calls_afterCall]
    exact List.prefix_append _ _
  · rw [turn_of_mark entries]

/-- The calls that the host got in the turn. -/
def HostTurn.made (turn : HostTurn σ) : List HostCall :=
  (calls turn.after).drop (calls turn.before).length

theorem RecordingHost.calls_of_leads {turns : List (HostTurn σ)}
    {host next : σ} (leads : Leads host turns next)
    (kept : ∀ turn ∈ turns, calls turn.before <+: calls turn.after) :
    calls next = calls host ++ turns.flatMap HostTurn.made := by
  induction turns generalizing host with
  | nil =>
      cases leads
      simp
  | cons turn turns induction =>
      obtain ⟨rfl, later⟩ := leads
      rw [List.forall_mem_cons] at kept
      have own : calls turn.before ++ turn.made = calls turn.after :=
        List.prefix_iff_eq_append.mp kept.1
      rw [induction later kept.2, List.flatMap_cons, ← List.append_assoc, own]

namespace Office

theorem calls_of_turn (config : HandlerConfig) (host : σ)
    (steps : List CenterStep) :
    ∀ turn ∈ ((opened config host).run steps).turns,
      calls turn.before <+: calls turn.after := by
  induction steps using List.reverseRecOn with
  | nil => exact fun turn member => absurd member List.not_mem_nil
  | append_singleton steps step induction =>
      rw [run_concat]
      cases step with
      | call call => exact induction
      | turn family =>
          intro turn member
          rcases List.mem_append.mp member with earlier | new
          · exact induction turn earlier
          · obtain rfl := List.mem_singleton.mp new
            change calls _ <+: calls (step _ (.turn family)).desk.host
            rw [host_step_turn]
            exact Queue.calls_turn _ _

/-- The recorded turns account for every call that a host got. -/
theorem calls_run (config : HandlerConfig) (host : σ)
    (steps : List CenterStep) :
    let office := (opened config host).run steps
    calls office.desk.host =
      calls host ++ office.turns.flatMap HostTurn.made :=
  calls_of_leads (leads_run config host steps)
    (calls_of_turn config host steps)

end Office

end Recorded

end RemovableMedia
