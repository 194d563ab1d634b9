import RemovableMedia.Proofs.Notification.Outlook

/-!
# The outlook of a center

Each family has a queue of its own, and the identities of two families differ.
So what will be visible for a device in one family depends on the queue of
that family alone: the worker of another changes nothing of it.  A flush makes
the outlook visible.
-/

namespace RemovableMedia

open ReliableHost

namespace Desk

variable {σ : Type}

theorem host_elim_record (desk : Desk σ) (entry : Option LogEntry) :
    (entry.elim desk desk.record).host = desk.host := by
  cases entry <;> rfl

theorem host_foldl_record (entries : List LogEntry) (desk : Desk σ) :
    (entries.foldl record desk).host = desk.host := by
  rw [foldl_record]

end Desk

namespace Center

/-- No queue holds an order about an identity of another family. -/
def Addressed (center : Center) : Prop :=
  ∀ family other devicePath, family ≠ other →
    Untouched (center.queues.get family).entries (other.identity devicePath)

/-! ## Queues -/

theorem entries_submit (center : Center) (family other : Family)
    (order : Order) :
    ((center.submit family order).queues.get other).entries =
      if other = family then (center.queues.get other).entries ++ [.job order]
      else (center.queues.get other).entries := by
  unfold submit
  split
  · next same =>
      subst other
      simp [Queue.entries, Queue.submit]
  · next different => rw [PerFamily.get_set_of_ne _ _ different]

theorem addressed_submit {center : Center} (addressed : center.Addressed)
    {family : Family} {order : Order}
    (own : ∃ devicePath, order.id = family.identity devicePath) :
    (center.submit family order).Addressed := by
  intro queue other devicePath different job member
  rw [entries_submit] at member
  split at member
  · next same =>
      rcases List.mem_append.mp member with earlier | new
      · exact addressed queue other devicePath different job earlier
      · obtain ⟨ownPath, id⟩ := own
        cases List.mem_singleton.mp new
        rw [id, ← same]
        exact fun collision =>
          different (Family.identity_eq_iff.mp collision).1
  · exact addressed queue other devicePath different job member

theorem addressed_ofConfig (config : HandlerConfig) :
    (ofConfig config).Addressed := by
  intro family other devicePath different order member
  simp [ofConfig, Queue.entries] at member

variable {σ : Type} [NotificationHost σ]

/-- A flush of one family empties its queue and lets the others be. -/
theorem entries_flushFamily (center : Center) (desk : Desk σ)
    (family other : Family) :
    ((center.flushFamily desk family).1.queues.get other).entries =
      if other = family then [] else (center.queues.get other).entries := by
  have flushed : (center.flushFamily desk family).1.queues =
      center.queues.set family ((center.queues.get family).flush desk).2.1 :=
    rfl
  rw [flushed]
  split
  · next same =>
      subst other
      rw [PerFamily.get_set_self]
      rfl
  · next different => rw [PerFamily.get_set_of_ne _ _ different]

def flushFamilies (center : Center) (desk : Desk σ) (families : List Family) :
    Center × Desk σ :=
  families.foldl (fun (center, desk) => center.flushFamily desk) (center, desk)

theorem entries_flushFamilies (families : List Family) (center : Center)
    (desk : Desk σ) (family : Family)
    (empties : family ∈ families ∨ (center.queues.get family).entries = []) :
    ((center.flushFamilies desk families).1.queues.get family).entries =
      [] := by
  induction families generalizing center desk with
  | nil => exact empties.resolve_left List.not_mem_nil
  | cons first families induction =>
      have left := center.entries_flushFamily desk first family
      apply induction (center.flushFamily desk first).1
        (center.flushFamily desk first).2
      rw [left]
      by_cases same : family = first
      · exact .inr (if_pos same)
      · rw [if_neg same]
        exact empties.imp_left fun member =>
          (List.mem_cons.mp member).resolve_left same

theorem entries_flush (center : Center) (desk : Desk σ) (family : Family) :
    ((center.flush desk).1.queues.get family).entries = [] :=
  entries_flushFamilies Family.all center desk family (.inl family.mem_all)

/-! ## The outlook -/

variable [ReliableHost σ]

/-- What will be visible for a device in a family once all orders are carried
out. -/
def outlook (center : Center) (host : σ) (family : Family)
    (devicePath : String) : Option NotificationContent :=
  outlookOf (center.queues.get family).entries (family.identity devicePath)
    (shown host (family.identity devicePath))

structure Advances (center next : Center) (host nextHost : σ) : Prop where
  works : Works nextHost
  addressed : next.Addressed
  outlook : ∀ family devicePath, next.outlook nextHost family devicePath =
    center.outlook host family devicePath
  content : next.content = center.content

namespace Advances

variable {center middle next : Center} {host middleHost nextHost : σ}

theorem refl (works : Works host) (addressed : center.Addressed) :
    Advances center center host host :=
  ⟨works, addressed, fun _ _ => rfl, rfl⟩

theorem trans (first : Advances center middle host middleHost)
    (second : Advances middle next middleHost nextHost) :
    Advances center next host nextHost where
  works := second.works
  addressed := second.addressed
  outlook family devicePath :=
    (second.outlook family devicePath).trans (first.outlook family devicePath)
  content := second.content.trans first.content

end Advances

theorem advances_of_queue {center : Center} (addressed : center.Addressed)
    {family : Family} {queue : Queue Order} {host nextHost : σ}
    (advances : (center.queues.get family).Advances queue host nextHost) :
    Advances center { center with queues := center.queues.set family queue }
      host nextHost := by
  refine ⟨advances.works, ?_, ?_, rfl⟩
  · intro own other devicePath different
    by_cases same : own = family
    · subst own
      rw [PerFamily.get_set_self]
      exact advances.ids _ (addressed family other devicePath different)
    · rw [PerFamily.get_set_of_ne _ _ same]
      exact addressed own other devicePath different
  · intro own devicePath
    by_cases same : own = family
    · subst own
      simp only [outlook, PerFamily.get_set_self]
      exact advances.outlook (family.identity devicePath)
    · have kept : shown nextHost (own.identity devicePath) =
          shown host (own.identity devicePath) :=
        advances.shown_of_untouched
          (addressed family own devicePath (Ne.symm same))
      simp only [outlook, PerFamily.get_set_of_ne _ _ same, kept]

theorem advances_turn {center : Center} (addressed : center.Addressed)
    (family : Family) {desk : Desk σ} (works : Works desk.host) :
    Advances center (center.turn family desk).1 desk.host
      (center.turn family desk).2.host := by
  have queueAdvances := (center.queues.get family).advances_turn works
  have host : (center.turn family desk).2.host =
      ((center.queues.get family).turn desk).2.2.host :=
    Desk.host_elim_record _ _
  rw [host]
  exact advances_of_queue addressed queueAdvances

theorem advances_flushFamily {center : Center} (addressed : center.Addressed)
    {desk : Desk σ} (works : Works desk.host) (family : Family) :
    Advances center (center.flushFamily desk family).1 desk.host
      (center.flushFamily desk family).2.host := by
  have queueAdvances := (center.queues.get family).advances_flush works
  have host : (center.flushFamily desk family).2.host =
      ((center.queues.get family).flush desk).2.2.host :=
    Desk.host_foldl_record _ _
  rw [host]
  exact advances_of_queue addressed queueAdvances

theorem advances_flushFamilies (families : List Family) {center : Center}
    (addressed : center.Addressed) {desk : Desk σ} (works : Works desk.host) :
    Advances center (center.flushFamilies desk families).1 desk.host
      (center.flushFamilies desk families).2.host := by
  induction families generalizing center desk with
  | nil => exact Advances.refl works addressed
  | cons family families induction =>
      have first := advances_flushFamily addressed works family
      exact first.trans (induction first.addressed first.works)

theorem advances_flush {center : Center} (addressed : center.Addressed)
    {desk : Desk σ} (works : Works desk.host) :
    Advances center (center.flush desk).1 desk.host
      (center.flush desk).2.host :=
  advances_flushFamilies Family.all addressed works

/-- A flush makes visible what was to be expected. -/
theorem shown_flush {center : Center} (addressed : center.Addressed)
    {desk : Desk σ} (works : Works desk.host) (family : Family)
    (devicePath : String) :
    shown (center.flush desk).2.host (family.identity devicePath) =
      center.outlook desk.host family devicePath := by
  rw [← (advances_flush addressed works).outlook family devicePath]
  unfold outlook
  rw [entries_flush]
  rfl

/-- An order about a device in its own family changes the outlook there and
nowhere else. -/
theorem outlook_submit (center : Center) (host : σ) (family : Family)
    (order : Order) {own : String} (id : order.id = family.identity own)
    (other : Family) (devicePath : String) :
    (center.submit family order).outlook host other devicePath =
      if family = other ∧ own = devicePath then
        order.amend order.id (center.outlook host other devicePath)
      else center.outlook host other devicePath := by
  unfold outlook
  rw [entries_submit]
  by_cases sameFamily : other = family
  · subst other
    rw [if_pos rfl, outlookOf, List.foldl_append]
    by_cases samePath : own = devicePath
    · subst own
      rw [if_pos ⟨rfl, rfl⟩, id]
      rfl
    · rw [if_neg fun both => samePath both.2]
      refine Order.amend_of_ne ?_ _
      rw [id]
      exact fun collision => samePath (Family.identity_eq_iff.mp collision).2
  · rw [if_neg sameFamily, if_neg fun both => sameFamily both.1.symm]

end Center

end RemovableMedia
