import RemovableMedia.Proofs.Host.Candid
import RemovableMedia.Proofs.Notification.Lane
import RemovableMedia.Proofs.Notification.Ledger

/-!
# Showing once

For a call to show a notification once, a worker asks the host in one turn and
creates the notification in another, and other workers have turns in between.
Their orders are about other headings, so what the host has told about the
identity is still true when the notification is created.
-/

namespace RemovableMedia

open CandidHost RecordingHost

variable {σ : Type}

/-- The call creates or updates the notification with the identity. -/
def HostCall.creates (id : String) : HostCall → Bool
  | .create own _ => own = id
  | .clear _ => false

def CenterCall.isOnce : CenterCall → Bool
  | .showOnce _ _ => true
  | _ => false

variable [NotificationHost σ]

/-! ## Turns on a host that keeps a record -/

namespace HostTurn

variable [RecordingHost σ]

/-- The calls that the host got in the turn for a call to show once. -/
def madeOnce (turn : HostTurn σ) : List HostCall :=
  if turn.call.any CenterCall.isOnce then turn.made else []

/-- How often the host is called in the turns to create the notification with
the identity, for calls to show it once. -/
def timesCreatedOnce (id : String) (turns : List (HostTurn σ)) : Nat :=
  (turns.flatMap HostTurn.madeOnce).countP (HostCall.creates id)

theorem timesCreatedOnce_cons (id : String) (turn : HostTurn σ)
    (turns : List (HostTurn σ)) :
    timesCreatedOnce id (turn :: turns) =
      turn.madeOnce.countP (HostCall.creates id) +
        timesCreatedOnce id turns := by
  simp [timesCreatedOnce]

/-- If the turn calls for the notification with the identity, it is created. -/
def Creates (id : String) (turn : HostTurn σ) : Prop :=
  ∀ content, .create id content ∈ turn.made →
    (NotificationHost.create id content turn.before).1 = .done ()

theorem creates_of_no_fault {turn : HostTurn Screen}
    (faultless : turn.before.faults.create = none) (id : String) :
    turn.Creates id := by
  intro content _
  change (Screen.create id content turn.before).1 = .done ()
  simp [Screen.create, faultless]

/-- The turn clears the notification with the identity, and it is gone. -/
def Clears [CandidHost σ] (id : String) (turn : HostTurn σ) : Prop :=
  .clear id ∈ turn.made ∧ ¬ Visible turn.after id

theorem made_of_same {turn : HostTurn σ} (same : turn.after = turn.before) :
    turn.made = [] := by
  rw [made, same]
  exact List.drop_length

theorem made_of_order {turn : HostTurn σ} {order : Order}
    (after : turn.after = order.afterCall turn.before) :
    turn.made = order.call?.toList := by
  rw [made, after, order.calls_afterCall]
  exact List.drop_left

end HostTurn

variable [CandidHost σ]

/-! ## One order on a candid host -/

namespace Order

theorem candid_afterCall {host : σ} (candid : Candid host) (order : Order) :
    Candid (order.afterCall host) := by
  cases order with
  | create id content => exact candid_create candid id content
  | createOnce id content => exact candid_visibleIds candid
  | clear id => exact candid_clear candid id

theorem visible_afterCall_of_ne {host : σ} (candid : Candid host)
    {order : Order} {id : String} (other : order.id ≠ id) :
    Visible (order.afterCall host) id ↔ Visible host id := by
  cases order with
  | create own content => exact visible_create_of_ne candid other content
  | createOnce own content => exact visible_visibleIds candid id
  | clear own => exact visible_clear_of_ne candid other

/-- If something is left of an order, its notification is not visible. -/
theorem hidden_of_rest {host : σ} (candid : Candid host) {id : String}
    {content : NotificationContent} {rest : Order}
    (left : (createOnce id content).restAfterCall host = some rest) :
    ¬ Visible ((createOnce id content).afterCall host) id := by
  obtain ⟨ids, answer, told⟩ := visibleIds_done candid
  change restAfterAnswer id content _ = some rest at left
  intro visible
  have member : id ∈ ids :=
    (told id).mpr ((visible_visibleIds candid id).mp visible)
  rw [answer] at left
  simp [restAfterAnswer, member] at left

end Order

/-! ## One worker -/

/-- What a turn can be: there is nothing to do, the worker begins with the order
of a call, or it goes on with one to show once, and what that is about is not
visible. -/
inductive HostTurn.Sound (contents : Contents) (turn : HostTurn σ) : Prop where
  | idle (none : turn.call = none) (after : turn.after = turn.before)
  | first {call : CenterCall} (taken : turn.call = some call)
      (after : turn.after = (call.order contents).afterCall turn.before)
  | second {kind : NotificationKind} {path : String}
      (taken : turn.call = some (.showOnce kind path))
      (after : turn.after =
        (Order.create (kind.idFor path).text (contents kind none)).afterCall
          turn.before)
      (hidden : ¬ Visible turn.before (kind.idFor path).text)

/-- The queue has the orders of the calls to do.  If the worker has begun with
the first, it is to create what was found not to be visible. -/
inductive Serves (contents : Contents) (host : σ) (queue : Queue Order) :
    List CenterCall → Prop where
  | fresh {calls : List CenterCall} (current : queue.current = none)
      (waiting : queue.waiting =
        calls.map fun call => .job (call.order contents)) :
      Serves contents host queue calls
  | begun {calls : List CenterCall} {kind : NotificationKind} {path : String}
      (current : queue.current =
        some (.create (kind.idFor path).text (contents kind none)))
      (waiting : queue.waiting =
        calls.map fun call => .job (call.order contents))
      (hidden : ¬ Visible host (kind.idFor path).text) :
      Serves contents host queue (.showOnce kind path :: calls)

section Worker

variable {contents : Contents} {calls : List CenterCall} {queue : Queue Order}

theorem Serves.submit {host : σ} (serves : Serves contents host queue calls)
    (call : CenterCall) :
    Serves contents host (queue.submit (call.order contents))
      (calls ++ [call]) := by
  cases serves with
  | fresh current waiting =>
      exact .fresh current (by simp [Queue.submit, waiting])
  | begun current waiting hidden =>
      exact .begun current (by simp [Queue.submit, waiting]) hidden

theorem Serves.turn {desk : Desk σ} (candid : Candid desk.host)
    (serves : Serves contents desk.host queue calls) :
    let next := (queue.turn desk).2.1
    let host := (queue.turn desk).2.2.host
    HostTurn.Sound contents ⟨calls.head?, desk.host, host⟩ ∧
      Serves contents host next
        (if next.current.isSome then calls else calls.tail) := by
  intro next host
  cases serves with
  | fresh current waiting =>
      cases calls with
      | nil =>
          have entries : queue.entries = [] := by
            simp [Queue.entries, current, waiting]
          have turn := Queue.turn_of_nil entries desk
          simp only [next, host, turn, current]
          exact ⟨.idle rfl rfl, .fresh current waiting⟩
      | cons call calls =>
          have entries : queue.entries = .job (call.order contents) ::
              calls.map fun call => .job (call.order contents) := by
            simp [Queue.entries, current, waiting]
          obtain ⟨queue, after⟩ := Queue.turn_of_order entries desk
          simp only [next, host, queue, after]
          refine ⟨.first rfl rfl, ?_⟩
          cases rest : (call.order contents).restAfterCall desk.host with
          | none => exact .fresh rfl rfl
          | some order =>
              obtain ⟨id, content, once, rfl⟩ :=
                Order.eq_createOnce_of_rest rest
              rw [once] at rest ⊢
              have hidden := Order.hidden_of_rest candid rest
              cases call with
              | showOnce kind path =>
                  cases once
                  exact .begun rfl rfl hidden
              | «show» kind path message => cases once
              | hide kind path => cases once
  | @begun calls kind path current waiting hidden =>
      have entries : queue.entries =
          .job (.create (kind.idFor path).text (contents kind none)) ::
            calls.map fun call => .job (call.order contents) := by
        simp [Queue.entries, current, waiting]
      obtain ⟨queue, after⟩ := Queue.turn_of_order entries desk
      simp only [next, host, queue, after]
      exact ⟨.second rfl rfl hidden, .fresh rfl rfl⟩

/-- What other workers do at the host does not matter if they do not change what
is visible under the heading of the queue. -/
theorem Serves.of_alike {heading : String} {host next : σ}
    (serves : Serves contents host queue calls)
    (under : Under heading queue.entries)
    (alike : ∀ id, headingOf id = heading →
      (Visible next id ↔ Visible host id)) :
    Serves contents next queue calls := by
  cases serves with
  | fresh current waiting => exact .fresh current waiting
  | @begun calls kind path current waiting hidden =>
      have own : headingOf (kind.idFor path).text = heading :=
        under (.create (kind.idFor path).text (contents kind none))
          (by simp [Queue.entries, current])
      rw [← alike _ own] at hidden
      exact .begun current waiting hidden

theorem Queue.visible_turn_of_ne {heading : String} {desk : Desk σ}
    (candid : Candid desk.host) (under : Under heading queue.entries)
    {id : String} (other : headingOf id ≠ heading) :
    Visible (queue.turn desk).2.2.host id ↔ Visible desk.host id := by
  rcases entries : queue.entries with _ | ⟨order | waiter, behind⟩
  · rw [turn_of_nil entries]
  · have own : headingOf order.id = heading :=
      under order (entries ▸ List.mem_cons_self)
    have different : order.id ≠ id := by
      rintro rfl
      exact other own
    rw [(turn_of_order entries desk).2]
    exact Order.visible_afterCall_of_ne candid different
  · rw [turn_of_mark entries]

end Worker

/-! ## Sound turns -/

namespace HostTurn.Sound

variable {contents : Contents} {turn : HostTurn σ}

theorem after (sound : turn.Sound contents) :
    turn.after = turn.before ∨
      ∃ order : Order, turn.after = order.afterCall turn.before := by
  cases sound with
  | idle none after => exact .inl after
  | first taken after => exact .inr ⟨_, after⟩
  | second taken after hidden => exact .inr ⟨_, after⟩

theorem candid_after (sound : turn.Sound contents)
    (candid : Candid turn.before) : Candid turn.after := by
  rcases sound.after with same | ⟨order, after⟩
  · rw [same]
    exact candid
  · rw [after]
    exact Order.candid_afterCall candid order

variable [RecordingHost σ]

/-- The host gets no call in a turn, or the one that the call to the center is
made for. -/
theorem made (sound : turn.Sound contents) :
    turn.made = [] ∨ ∃ call, turn.call = some call ∧
      turn.made = [call.hostCall contents] := by
  cases sound with
  | idle none after => exact .inl (made_of_same after)
  | @first call taken after =>
      rw [made_of_order after]
      cases call with
      | «show» kind path message => exact .inr ⟨_, taken, rfl⟩
      | showOnce kind path => exact .inl rfl
      | hide kind path => exact .inr ⟨_, taken, rfl⟩
  | second taken after hidden => exact .inr ⟨_, taken, made_of_order after⟩

/-- For a call to show once, a turn makes no call or creates one notification
that was not visible. -/
theorem madeOnce (sound : turn.Sound contents) :
    turn.madeOnce = [] ∨ ∃ id content, turn.made = [.create id content] ∧
      turn.madeOnce = [.create id content] ∧ ¬ Visible turn.before id := by
  cases sound with
  | idle none after => exact .inl (by simp [HostTurn.madeOnce, none])
  | @first call taken after =>
      left
      cases call with
      | «show» kind path message =>
          simp [HostTurn.madeOnce, taken, CenterCall.isOnce]
      | showOnce kind path =>
          have made : turn.made = [] := made_of_order after
          simp [HostTurn.madeOnce, made]
      | hide kind path => simp [HostTurn.madeOnce, taken, CenterCall.isOnce]
  | second taken after hidden =>
      have made := made_of_order after
      have isOnce : turn.call.any CenterCall.isOnce = true := by
        simp [taken, CenterCall.isOnce]
      exact .inr ⟨_, _, made, (if_pos isOnce).trans made, hidden⟩

theorem fresh (sound : turn.Sound contents) {id : String}
    {content : NotificationContent}
    (created : .create id content ∈ turn.madeOnce) :
    ¬ Visible turn.before id := by
  rcases sound.madeOnce with none | ⟨own, _, _, once, hidden⟩
  · rw [none] at created
    exact absurd created List.not_mem_nil
  · rw [once] at created
    cases List.mem_singleton.mp created
    exact hidden

variable {id : String}

theorem visible_of_create (sound : turn.Sound contents)
    (candid : Candid turn.before) (creates : turn.Creates id)
    {content : NotificationContent}
    (created : .create id content ∈ turn.made) : Visible turn.after id := by
  have answer := creates content created
  rcases sound.after with same | ⟨order, after⟩
  · rw [made_of_same same] at created
    exact absurd created List.not_mem_nil
  · rw [made_of_order after] at created
    rw [after]
    cases order with
    | create own content =>
        cases Option.mem_toList.mp created
        exact visible_create candid answer
    | createOnce own content => exact absurd created List.not_mem_nil
    | clear own => cases Option.mem_toList.mp created

/-- What is visible stays visible unless it is cleared. -/
theorem visible_after (sound : turn.Sound contents)
    (candid : Candid turn.before) (kept : ¬ turn.Clears id)
    (creates : turn.Creates id) (visible : Visible turn.before id) :
    Visible turn.after id := by
  rcases sound.after with same | ⟨order, after⟩
  · rw [same]
    exact visible
  · by_cases same : order.id = id
    · cases order with
      | create own content =>
          cases same
          have created : .create own content ∈ turn.made := by
            simp [made_of_order after, Order.call?]
          exact sound.visible_of_create candid creates created
      | createOnce own content =>
          rw [after]
          exact (visible_visibleIds candid id).mpr visible
      | clear own =>
          cases same
          have cleared : .clear own ∈ turn.made := by
            simp [made_of_order after, Order.call?]
          by_contra gone
          exact kept ⟨cleared, gone⟩
    · rw [after]
      exact (Order.visible_afterCall_of_ne candid same).mpr visible

/-- Creating the notification with the identity, for a call to show once, is the
only call of a turn to do so. -/
theorem countP_madeOnce (sound : turn.Sound contents) :
    turn.madeOnce.countP (HostCall.creates id) = 0 ∨
      turn.madeOnce.countP (HostCall.creates id) = 1 ∧
        ∃ content, .create id content ∈ turn.made ∧
          ¬ Visible turn.before id := by
  rcases sound.madeOnce with none | ⟨own, content, made, once, hidden⟩
  · exact .inl (by rw [none]; rfl)
  · rw [made, once]
    by_cases same : own = id
    · subst own
      exact .inr ⟨by simp [HostCall.creates], content, by simp, hidden⟩
    · exact .inl (by simp [HostCall.creates, same])

end HostTurn.Sound

/-! ## Some turns in a row -/

section Row

variable {contents : Contents} {turns : List (HostTurn σ)} {host next : σ}

theorem candid_of_leads (candid : Candid host) (leads : Leads host turns next)
    (sound : ∀ turn ∈ turns, turn.Sound contents) : Candid next := by
  induction turns generalizing host with
  | nil =>
      cases leads
      exact candid
  | cons turn turns induction =>
      obtain ⟨rfl, later⟩ := leads
      rw [List.forall_mem_cons] at sound
      exact induction (sound.1.candid_after candid) later sound.2

variable [RecordingHost σ] {id : String}

/-- As long as it is not cleared, what is visible is not shown once again. -/
theorem timesCreatedOnce_of_visible (candid : Candid host)
    (leads : Leads host turns next)
    (sound : ∀ turn ∈ turns, turn.Sound contents)
    (kept : ∀ turn ∈ turns, ¬ turn.Clears id)
    (creates : ∀ turn ∈ turns, turn.Creates id) (visible : Visible host id) :
    HostTurn.timesCreatedOnce id turns = 0 := by
  induction turns generalizing host with
  | nil => rfl
  | cons turn turns induction =>
      obtain ⟨rfl, later⟩ := leads
      rw [List.forall_mem_cons] at sound kept creates
      have still : Visible turn.after id :=
        sound.1.visible_after candid kept.1 creates.1 visible
      have none := induction (sound.1.candid_after candid) later sound.2 kept.2
        creates.2 still
      rw [HostTurn.timesCreatedOnce_cons, none]
      rcases sound.1.countP_madeOnce with zero | ⟨_, _, _, hidden⟩
      · exact zero
      · exact absurd visible hidden

/-- As long as it is not cleared, a notification is shown once at most. -/
theorem timesCreatedOnce_le_one (candid : Candid host)
    (leads : Leads host turns next)
    (sound : ∀ turn ∈ turns, turn.Sound contents)
    (kept : ∀ turn ∈ turns, ¬ turn.Clears id)
    (creates : ∀ turn ∈ turns, turn.Creates id) :
    HostTurn.timesCreatedOnce id turns ≤ 1 := by
  induction turns generalizing host with
  | nil => exact Nat.zero_le 1
  | cons turn turns induction =>
      obtain ⟨rfl, later⟩ := leads
      rw [List.forall_mem_cons] at sound kept creates
      have candidLater := sound.1.candid_after candid
      rw [HostTurn.timesCreatedOnce_cons]
      rcases sound.1.countP_madeOnce with zero | ⟨one, _, created, _⟩
      · rw [zero, Nat.zero_add]
        exact induction candidLater later sound.2 kept.2 creates.2
      · -- From here on it is visible, so no other turn shows it once.
        have shown : Visible turn.after id :=
          sound.1.visible_of_create candid creates.1 created
        rw [one, timesCreatedOnce_of_visible candidLater later sound.2 kept.2
          creates.2 shown]

end Row

/-! ## All workers -/

theorem Center.submit_get_of_ne (center : Center) {family other : Family}
    (different : other ≠ family) (order : Order) :
    (center.submit family order).queues.get other =
      center.queues.get other :=
  PerFamily.get_set_of_ne _ _ different

namespace Office

/-- What holds between any two steps of an office. -/
structure Careful (contents : Contents) (office : Office σ) : Prop where
  candid : Candid office.desk.host
  headed : office.center.Headed
  content : office.center.content = contents
  serves : ∀ family, Serves contents office.desk.host
    (office.center.queues.get family) (office.pending family)
  turns : ∀ turn ∈ office.turns, turn.Sound contents

variable {contents : Contents} {office : Office σ}

theorem careful_opened (config : HandlerConfig) {host : σ}
    (candid : Candid host) :
    Careful (Center.ofConfig config).content (opened config host) where
  candid := candid
  headed := Center.headed_ofConfig config
  content := rfl
  serves family := .fresh (by simp [opened, Center.ofConfig])
    (by simp [opened, Center.ofConfig])
  turns turn member := absurd member List.not_mem_nil

theorem careful_call (careful : office.Careful contents) (call : CenterCall) :
    (office.step (.call call)).Careful contents := by
  have own := call.headingOf_order contents
  have center : (office.step (.call call)).center =
      office.center.submit call.family (call.order contents) := by
    rw [← careful.content]
    exact Center.accept_eq_submit _ _
  refine ⟨careful.candid, ?_, ?_, ?_, careful.turns⟩
  · rw [center]
    exact Center.headed_submit careful.headed own
  · exact (office.content_step _).trans careful.content
  · intro family
    rw [center]
    by_cases same : family = call.family
    · subst family
      have served := (careful.serves call.family).submit call
      simpa [step, Center.submit] using served
    · have served := careful.serves family
      simpa [step, Center.submit_get_of_ne _ same, same] using served

theorem careful_turn (careful : office.Careful contents) (family : Family) :
    (office.step (.turn family)).Careful contents := by
  obtain ⟨sound, served⟩ := (careful.serves family).turn careful.candid
  rw [← host_step_turn] at sound served
  rw [← queue_step_turn] at served
  refine ⟨sound.candid_after careful.candid,
    Center.headed_turn careful.headed family office.desk,
    (office.content_step _).trans careful.content, ?_, ?_⟩
  · intro worker
    by_cases same : worker = family
    · subst worker
      have pending : (office.step (.turn family)).pending family = _ :=
        Function.update_self _ _ _
      rw [pending]
      exact served
    · -- The worker of another family is about another heading.
      have queue : (office.step (.turn family)).center.queues.get worker =
          office.center.queues.get worker :=
        PerFamily.get_set_of_ne _ _ same
      have pending : (office.step (.turn family)).pending worker =
          office.pending worker := Function.update_of_ne same _ _
      rw [queue, pending, host_step_turn]
      apply (careful.serves worker).of_alike (careful.headed worker)
      rintro id own
      apply Queue.visible_turn_of_ne careful.candid (careful.headed family)
      rw [own]
      exact fun heading => same (Family.heading_injective heading)
  · intro turn member
    rcases List.mem_append.mp member with earlier | new
    · exact careful.turns turn earlier
    · obtain rfl := List.mem_singleton.mp new
      exact sound

theorem careful_step (careful : office.Careful contents) (step : CenterStep) :
    (office.step step).Careful contents := by
  cases step with
  | call call => exact careful_call careful call
  | turn family => exact careful_turn careful family

theorem careful_run (careful : office.Careful contents)
    (steps : List CenterStep) : (office.run steps).Careful contents := by
  induction steps generalizing office with
  | nil => exact careful
  | cons step steps induction => exact induction (careful_step careful step)

/-- On a host that tells truly what is visible, a call to show a notification
once creates nothing that is visible, whatever calls are made and however the
workers take turns.  All calls that the host gets are made in turns of the
workers, each for a call to the center.  As long as notifications of an identity
are created when called for and it is not cleared, calls to show it once have it
created once at most, and never if it is visible to begin with. -/
theorem show_once_never_duplicates [RecordingHost σ] (config : HandlerConfig)
    {host : σ} (candid : Candid host) (steps : List CenterStep) :
    let office := (opened config host).run steps
    let contents := (Center.ofConfig config).content
    calls office.desk.host =
        calls host ++ office.turns.flatMap HostTurn.made ∧
      (∀ turn ∈ office.turns, turn.made = [] ∨ ∃ call,
        turn.call = some call ∧ turn.made = [call.hostCall contents]) ∧
      (∀ turn ∈ office.turns, ∀ id content,
        .create id content ∈ turn.madeOnce → ¬ Visible turn.before id) ∧
      ∀ id before between after, office.turns = before ++ between ++ after →
        (∀ turn ∈ between, ¬ turn.Clears id) →
        (∀ turn ∈ between, turn.Creates id) →
          HostTurn.timesCreatedOnce id between ≤ 1 ∧
          ∀ first ∈ between.head?, Visible first.before id →
            HostTurn.timesCreatedOnce id between = 0 := by
  intro office contents
  have careful : office.Careful contents :=
    careful_run (careful_opened config candid) steps
  have leads : Leads host office.turns office.desk.host :=
    leads_run config host steps
  refine ⟨calls_run config host steps,
    fun turn member => (careful.turns turn member).made,
    fun turn member id content => (careful.turns turn member).fresh, ?_⟩
  intro id before between after split kept creates
  rw [split] at leads
  have sound := careful.turns
  rw [split, List.forall_mem_append, List.forall_mem_append] at sound
  obtain ⟨⟨soundBefore, sound⟩, _⟩ := sound
  obtain ⟨behind, leads, _⟩ := leads_append_iff.mp leads
  obtain ⟨start, earlier, leads⟩ := leads_append_iff.mp leads
  have candidStart := candid_of_leads candid earlier soundBefore
  refine ⟨timesCreatedOnce_le_one candidStart leads sound kept creates, ?_⟩
  intro first head visible
  cases between with
  | nil => rfl
  | cons turn between =>
      cases head
      rw [leads.1] at visible
      exact timesCreatedOnce_of_visible candidStart leads sound kept creates
        visible

/-- Two kinds of a family ask to show the failure of a card, and once more after
it is hidden. -/
def failingCardSteps : List CenterStep :=
  [.call (.showOnce .deviceFail "/dev/sdb"), .turn .deviceFail,
    .call (.showOnce .deviceFailUnknown "/dev/sdb"),
    .call (.showOnce .formatFail "/dev/sdb"), .turn .formatFail,
    .turn .deviceFail, .turn .deviceFail, .turn .formatFail,
    .call (.hide .deviceFail "/dev/sdb"), .turn .deviceFail,
    .call (.showOnce .deviceFail "/dev/sdb"), .turn .deviceFail,
    .turn .deviceFail]

def failingCardTurns : List (HostTurn Screen) :=
  ((opened {} {}).run failingCardSteps).turns

theorem show_once_never_duplicates_for_failingCard :
    HostTurn.timesCreatedOnce "deviceFail:/dev/sdb" failingCardTurns = 2 ∧
      HostTurn.timesCreatedOnce "deviceFail:/dev/sdb"
        (failingCardTurns.take 5) ≤ 1 := by
  have candid : Candid ({} : Screen) := rfl
  have notCleared : ∀ turn ∈ failingCardTurns.take 5,
      HostCall.clear "deviceFail:/dev/sdb" ∉ turn.made := by decide
  have faultless : ∀ turn ∈ failingCardTurns.take 5,
      turn.before.faults.create = none := by decide
  constructor
  · decide
  · obtain ⟨_, _, _, once⟩ :=
      show_once_never_duplicates {} candid failingCardSteps
    exact (once "deviceFail:/dev/sdb" [] (failingCardTurns.take 5)
      (failingCardTurns.drop 5) (List.take_append_drop 5 failingCardTurns).symm
      (fun turn member cleared => notCleared turn member cleared.1)
      (fun turn member =>
        HostTurn.creates_of_no_fault (faultless turn member) _)).1

end Office

end RemovableMedia
