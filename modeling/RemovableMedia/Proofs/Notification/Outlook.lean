import RemovableMedia.Notification.Center
import RemovableMedia.Proofs.Host.Reliable
import RemovableMedia.Proofs.Notification.Identity

/-!
# What will be visible

The outlook of a queue is what will be visible under an identity once its
orders are carried out, seen from what is visible now.  On a host that works
the worker of a queue never changes the outlook: what a turn does to the host
it takes from the orders that are left.  So the outlook moves with new orders
only, and once a queue is empty it is what the host shows.
-/

namespace RemovableMedia

open ReliableHost

/-! ## One order -/

namespace Order

def id : Order → String
  | create id _ => id
  | createOnce id _ => id
  | clear id => id

/-- What is visible under an identity once the order is carried out. -/
def amend (order : Order) (id : String) (now : Option NotificationContent) :
    Option NotificationContent :=
  if order.id = id then
    match order with
    | create _ content => some content
    | createOnce _ content => some (now.getD content)
    | clear _ => none
  else now

theorem amend_of_ne {order : Order} {id : String} (other : order.id ≠ id)
    (now : Option NotificationContent) : order.amend id now = now :=
  if_neg other

end Order

def Progress.amend (progress : Progress Order) (id : String)
    (now : Option NotificationContent) : Option NotificationContent :=
  match progress with
  | .pending rest => rest.amend id now
  | .completed => now
  | .panicked => now

namespace Order

variable {σ : Type} [NotificationHost σ] [ReliableHost σ]

theorem resume_create {desk : Desk σ} (works : Works desk.host) (id : String)
    (content : NotificationContent) :
    (create id content).resume desk =
      (.completed,
        { desk with
          host := (NotificationHost.create id content desk.host).2 }) := by
  simp only [resume, create_done works]

theorem resume_clear {desk : Desk σ} (works : Works desk.host) (id : String) :
    ∃ log, (clear id).resume desk =
      (.completed, ⟨(NotificationHost.clear id desk.host).2, log⟩) := by
  simp only [resume, clear_done works]
  cases (shown desk.host id).isSome with
  | true => exact ⟨_, rfl⟩
  | false => exact ⟨_, rfl⟩

/-- The first turn of an order to create once: it is over if the identity is
visible, and otherwise goes on as an order to create. -/
theorem resume_createOnce {desk : Desk σ} (works : Works desk.host)
    (id : String) (content : NotificationContent) :
    ∃ log, (createOnce id content).resume desk =
      (if shown desk.host id = none then .pending (create id content)
        else .completed,
        ⟨(NotificationHost.visibleIds desk.host).2, log⟩) := by
  obtain ⟨visible, answer, lists⟩ := visibleIds_done works
  simp only [resume, answer, lists]
  by_cases hidden : shown desk.host id = none
  · exact ⟨desk.log, by simp [hidden]⟩
  · simp only [hidden, ne_eq, not_false_eq_true, if_true, if_false]
    exact ⟨_, rfl⟩

/-- A turn of an order on a host that works: the host still works, the rest is
about the same identity, and what will be visible stays the same. -/
theorem resume_keeps_amend {desk : Desk σ} (works : Works desk.host)
    (order : Order) :
    Works (order.resume desk).2.host ∧
      (∀ rest, (order.resume desk).1 = .pending rest → rest.id = order.id) ∧
      ∀ id, (order.resume desk).1.amend id
          (shown (order.resume desk).2.host id) =
        order.amend id (shown desk.host id) := by
  cases order with
  | create own content =>
      rw [resume_create works]
      refine ⟨works_create works own content, by simp, ?_⟩
      intro id
      exact shown_create works own content id
  | clear own =>
      obtain ⟨log, turn⟩ := resume_clear works own
      rw [turn]
      refine ⟨works_clear works own, by simp, ?_⟩
      intro id
      exact shown_clear works own id
  | createOnce own content =>
      -- The only order that takes two turns: what it found visible in the first
      -- decides what is left for the second.
      obtain ⟨log, turn⟩ := resume_createOnce works own content
      rw [turn]
      refine ⟨works_visibleIds works, ?_, ?_⟩
      · intro rest
        split <;> simp
        rintro rfl
        rfl
      · intro id
        simp only [shown_visibleIds works]
        split
        · next hidden =>
            by_cases same : own = id
            · subst id
              simp [Progress.amend, amend, Order.id, hidden]
            · simp [Progress.amend, amend, Order.id, same]
        · next visible =>
            by_cases same : own = id
            · subst id
              obtain ⟨content, present⟩ := Option.ne_none_iff_exists'.mp visible
              simp [Progress.amend, amend, Order.id, present]
            · simp [Progress.amend, amend, Order.id, same]

theorem shown_finish {desk : Desk σ} (works : Works desk.host)
    (order : Order) :
    Works (Routine.finish order desk).2.host ∧
      ∀ id, shown (Routine.finish order desk).2.host id =
        order.amend id (shown desk.host id) := by
  obtain ⟨stillWorks, _, amended⟩ := resume_keeps_amend works order
  fun_induction Routine.finish order desk with
  | case1 order desk next turn =>
      change order.resume desk = _ at turn
      rw [turn] at stillWorks amended
      exact ⟨stillWorks, amended⟩
  | case2 order desk next turn =>
      change order.resume desk = _ at turn
      rw [turn] at stillWorks amended
      exact ⟨stillWorks, amended⟩
  | case3 order desk rest next turn induction =>
      change order.resume desk = _ at turn
      rw [turn] at stillWorks amended
      obtain ⟨laterWorks, sameIdentity, laterAmended⟩ :=
        resume_keeps_amend stillWorks rest
      obtain ⟨finallyWorks, finallyShown⟩ :=
        induction stillWorks laterWorks sameIdentity laterAmended
      refine ⟨finallyWorks, ?_⟩
      intro id
      rw [finallyShown id]
      exact amended id

end Order

/-! ## One queue -/

namespace Entry

/-- The mark of a waiter changes nothing of what is visible. -/
def amend (entry : Entry Order) (id : String)
    (now : Option NotificationContent) : Option NotificationContent :=
  match entry with
  | .job order => order.amend id now
  | .mark _ => now

end Entry

/-- What will be visible under an identity once all entries are worked off. -/
def outlookOf (entries : List (Entry Order)) (id : String)
    (now : Option NotificationContent) : Option NotificationContent :=
  entries.foldl (fun now entry => entry.amend id now) now

/-- No order among the entries is about the identity. -/
def Untouched (entries : List (Entry Order)) (id : String) : Prop :=
  ∀ order, .job order ∈ entries → order.id ≠ id

theorem outlookOf_of_untouched {entries : List (Entry Order)} {id : String}
    (untouched : Untouched entries id) (now : Option NotificationContent) :
    outlookOf entries id now = now := by
  induction entries with
  | nil => rfl
  | cons entry entries induction =>
      have rest : Untouched entries id := fun order member =>
        untouched order (List.mem_cons_of_mem _ member)
      have head : entry.amend id now = now := by
        cases entry with
        | job order =>
            exact Order.amend_of_ne (untouched order List.mem_cons_self) now
        | mark waiter => rfl
      change outlookOf entries id (entry.amend id now) = now
      rw [head]
      exact induction rest

namespace Queue

/-- Work on a queue that leaves the outlook as it is. -/
structure Advances {σ : Type} [NotificationHost σ] [ReliableHost σ]
    (queue next : Queue Order) (host nextHost : σ) : Prop where
  works : Works nextHost
  outlook : ∀ id, outlookOf next.entries id (shown nextHost id) =
    outlookOf queue.entries id (shown host id)
  /-- What is left to do concerns no further identities. -/
  ids : ∀ id, Untouched queue.entries id → Untouched next.entries id

variable {σ : Type} [NotificationHost σ] [ReliableHost σ]

theorem Advances.shown_of_untouched {queue next : Queue Order}
    {host nextHost : σ} (advances : Advances queue next host nextHost)
    {id : String} (untouched : Untouched queue.entries id) :
    shown nextHost id = shown host id := by
  have same := advances.outlook id
  rw [outlookOf_of_untouched untouched,
    outlookOf_of_untouched (advances.ids id untouched)] at same
  exact same

theorem advances_work {whole queue : Queue Order} {order : Order}
    (first : whole.entries = .job order :: queue.waiting) {desk : Desk σ}
    (works : Works desk.host) :
    Advances whole (queue.work order desk).2.1 desk.host
      (queue.work order desk).2.2.host := by
  obtain ⟨stillWorks, sameIdentity, amended⟩ :=
    Order.resume_keeps_amend works order
  unfold work
  split
  · next rest later turn =>
      change order.resume desk = _ at turn
      rw [turn] at stillWorks sameIdentity amended
      have left : (⟨queue.name, some rest, queue.waiting⟩ :
          Queue Order).entries = .job rest :: queue.waiting := rfl
      refine ⟨stillWorks, ?_, ?_⟩
      · intro id
        rw [first, left]
        exact congrArg (outlookOf queue.waiting id) (amended id)
      · intro id untouched job member
        rw [first] at untouched
        rw [left] at member
        rcases List.mem_cons.mp member with same | waits
        · cases same
          rw [sameIdentity rest rfl]
          exact untouched order List.mem_cons_self
        · exact untouched job (List.mem_cons_of_mem _ waits)
  all_goals
    next later turn =>
      change order.resume desk = _ at turn
      rw [turn] at stillWorks amended
      have left : (⟨queue.name, none, queue.waiting⟩ :
          Queue Order).entries = queue.waiting := rfl
      refine ⟨stillWorks, ?_, ?_⟩
      · intro id
        rw [first, left]
        exact congrArg (outlookOf queue.waiting id) (amended id)
      · intro id untouched job member
        rw [first] at untouched
        rw [left] at member
        exact untouched job (List.mem_cons_of_mem _ member)

theorem advances_turn (queue : Queue Order) {desk : Desk σ}
    (works : Works desk.host) :
    Advances queue (queue.turn desk).2.1 desk.host
      (queue.turn desk).2.2.host := by
  obtain ⟨name, current, waiting⟩ := queue
  cases current with
  | some order => exact advances_work rfl works
  | none =>
      cases waiting with
      | nil => exact ⟨works, fun id => rfl, fun id untouched => untouched⟩
      | cons entry later =>
          cases entry with
          | job order => exact advances_work rfl works
          | mark waiter =>
              refine ⟨works, fun id => rfl, ?_⟩
              intro id untouched order member
              exact untouched order (List.mem_cons_of_mem _ member)

theorem shown_finishAll (entries : List (Entry Order)) {desk : Desk σ}
    (works : Works desk.host) :
    Works (finishAll entries desk).2.host ∧
      ∀ id, shown (finishAll entries desk).2.host id =
        outlookOf entries id (shown desk.host id) := by
  induction entries generalizing desk with
  | nil => exact ⟨works, fun id => rfl⟩
  | cons entry entries induction =>
      cases entry with
      | mark waiter => exact induction works
      | job order =>
          obtain ⟨stillWorks, amended⟩ := Order.shown_finish works order
          obtain ⟨finallyWorks, finallyShown⟩ := induction stillWorks
          refine ⟨finallyWorks, ?_⟩
          intro id
          rw [outlookOf, List.foldl_cons]
          change shown
              (finishAll entries (Routine.finish order desk).2).2.host id =
            outlookOf entries id (order.amend id (shown desk.host id))
          rw [finallyShown id, amended id]

theorem advances_flush (queue : Queue Order) {desk : Desk σ}
    (works : Works desk.host) :
    Advances queue (queue.flush desk).2.1 desk.host
      (queue.flush desk).2.2.host := by
  obtain ⟨stillWorks, worked⟩ := shown_finishAll queue.entries works
  refine ⟨stillWorks, worked, ?_⟩
  intro id untouched order member
  simp [flush, entries] at member

end Queue

end RemovableMedia
