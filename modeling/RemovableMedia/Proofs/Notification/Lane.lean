import RemovableMedia.Proofs.Host.Heading
import RemovableMedia.Proofs.Notification.Schedule

/-!
# What the queue of a family does to a screen

All orders about identities with the heading of a family go through one queue.
What they come to under that heading is settled by the queue and by what the
screen holds there; work on another queue changes nothing of it.
-/

namespace RemovableMedia

open Screen

theorem headingOf_identity (family : Family) (devicePath : String) :
    headingOf (family.identity devicePath) = family.heading := by
  have plain := family.colon_not_mem_heading
  have letters : (family.identity devicePath).toList =
      family.heading.toList ++ ':' :: devicePath.toList := by
    simp [Family.identity, NotificationId.text]
  unfold headingOf
  rw [letters, List.takeWhile_append_of_pos]
  · simp
  · intro letter member
    simpa using ne_of_mem_of_not_mem member plain

/-! ## One order -/

namespace Order

/-- The host after all calls that the order makes. -/
def carryOut {σ : Type} [NotificationHost σ] (order : Order) (host : σ) : σ :=
  match order.restAfterCall host with
  | some rest => rest.afterCall (order.afterCall host)
  | none => order.afterCall host

section CarryOut

variable {σ : Type} [NotificationHost σ] {order : Order} {host : σ}

theorem carryOut_of_rest {rest : Order}
    (left : order.restAfterCall host = some rest) :
    order.carryOut host = rest.afterCall (order.afterCall host) := by
  simp [carryOut, left]

theorem carryOut_of_none (ended : order.restAfterCall host = none) :
    order.carryOut host = order.afterCall host := by
  simp [carryOut, ended]

theorem host_finish (order : Order) (desk : Desk σ) :
    (Routine.finish order desk).2.host = order.carryOut desk.host := by
  have left := order.rest?_resume desk
  cases rest : order.restAfterCall desk.host with
  | none =>
      rw [rest] at left
      rw [Routine.finish_of_none left, carryOut_of_none rest]
      exact order.host_resume desk
  | some later =>
      rw [rest] at left
      obtain ⟨id, content, _, rfl⟩ := eq_createOnce_of_rest rest
      have ended : ((create id content).resume
          (order.resume desk).2).1.rest? = none := rest?_resume _ _
      rw [Routine.finish_of_rest left, carryOut_of_rest rest]
      change (Routine.finish (create id content) (order.resume desk).2).2.host
        = _
      rw [Routine.finish_of_none ended, ← order.host_resume desk]
      exact host_resume _ _

theorem id_of_rest {rest : Order}
    (left : order.restAfterCall host = some rest) : rest.id = order.id := by
  obtain ⟨id, content, rfl, rfl⟩ := eq_createOnce_of_rest left
  rfl

end CarryOut

variable {heading : String}

/-- The call of an order comes to the same on screens that agree under the
heading of its identity. -/
theorem afterCall_agree {order : Order} (own : headingOf order.id = heading)
    {left right : Screen} (agree : AgreeUnder heading left right) :
    order.restAfterCall left = order.restAfterCall right ∧
      AgreeUnder heading (order.afterCall left) (order.afterCall right) := by
  cases order with
  | create id content => exact ⟨rfl, agree.create id content⟩
  | clear id => exact ⟨rfl, agree.clear id⟩
  | createOnce id content =>
      obtain ⟨after, answers⟩ := agree.visibleIds
      refine ⟨?_, after⟩
      change restAfterAnswer id content left.visibleIds.1 =
        restAfterAnswer id content right.visibleIds.1
      rcases answers with same | ⟨leftIds, rightIds, leftTold, rightTold, told⟩
      · rw [same]
      · rw [leftTold, rightTold]
        simp only [restAfterAnswer, told id own]

theorem afterCall_of_ne {order : Order} (other : headingOf order.id ≠ heading)
    (screen : Screen) : AgreeUnder heading (order.afterCall screen) screen := by
  cases order with
  | create id content => exact AgreeUnder.create_of_ne screen other content
  | clear id => exact AgreeUnder.clear_of_ne screen other
  | createOnce id content => exact AgreeUnder.visibleIds_self heading screen

theorem carryOut_agree {order : Order} (own : headingOf order.id = heading)
    {left right : Screen} (agree : AgreeUnder heading left right) :
    AgreeUnder heading (order.carryOut left) (order.carryOut right) := by
  obtain ⟨sameRest, after⟩ := afterCall_agree own agree
  cases rest : order.restAfterCall right with
  | none =>
      rw [rest] at sameRest
      rw [carryOut_of_none sameRest, carryOut_of_none rest]
      exact after
  | some later =>
      have laterOwn : headingOf later.id = heading := by
        rw [id_of_rest rest]
        exact own
      rw [rest] at sameRest
      rw [carryOut_of_rest sameRest, carryOut_of_rest rest]
      exact (afterCall_agree laterOwn after).2

theorem carryOut_of_ne {order : Order} (other : headingOf order.id ≠ heading)
    (screen : Screen) : AgreeUnder heading (order.carryOut screen) screen := by
  have after := afterCall_of_ne other screen
  cases rest : order.restAfterCall screen with
  | none =>
      rw [carryOut_of_none rest]
      exact after
  | some later =>
      have laterOther : headingOf later.id ≠ heading := by
        rw [id_of_rest rest]
        exact other
      rw [carryOut_of_rest rest]
      exact (afterCall_of_ne laterOther _).trans after

end Order

/-! ## One queue -/

def Entry.carryOut {σ : Type} [NotificationHost σ] (entry : Entry Order)
    (host : σ) : σ :=
  match entry with
  | .job order => order.carryOut host
  | .mark _ => host

/-- The host after all entries. -/
def hostAfter {σ : Type} [NotificationHost σ] (entries : List (Entry Order))
    (host : σ) : σ :=
  entries.foldl (fun host entry => entry.carryOut host) host

theorem host_finishAll {σ : Type} [NotificationHost σ]
    (entries : List (Entry Order)) (desk : Desk σ) :
    (Queue.finishAll entries desk).2.host = hostAfter entries desk.host := by
  induction entries generalizing desk with
  | nil => rfl
  | cons entry entries induction =>
      cases entry with
      | job order =>
          have later := induction (Routine.finish order desk).2
          rw [order.host_finish] at later
          exact later
      | mark waiter => exact induction desk

/-- All orders among the entries are about identities with the heading. -/
def Under (heading : String) (entries : List (Entry Order)) : Prop :=
  ∀ order, .job order ∈ entries → headingOf order.id = heading

section Entries

variable {heading : String} {entries : List (Entry Order)}

theorem Under.of_cons {entry : Entry Order}
    (under : Under heading (entry :: entries)) : Under heading entries :=
  fun order member => under order (List.mem_cons_of_mem _ member)

theorem hostAfter_of_ne (under : Under heading entries) {other : String}
    (different : heading ≠ other) (screen : Screen) :
    AgreeUnder other (hostAfter entries screen) screen := by
  induction entries generalizing screen with
  | nil => exact AgreeUnder.refl other screen
  | cons entry entries induction =>
      cases entry with
      | job order =>
          have own : headingOf order.id = heading :=
            under order List.mem_cons_self
          have first : AgreeUnder other (order.carryOut screen) screen :=
            Order.carryOut_of_ne (own ▸ different) screen
          exact (induction under.of_cons (order.carryOut screen)).trans first
      | mark waiter => exact induction under.of_cons screen

theorem hostAfter_agree (under : Under heading entries) {left right : Screen}
    (agree : AgreeUnder heading left right) :
    AgreeUnder heading (hostAfter entries left) (hostAfter entries right) := by
  induction entries generalizing left right with
  | nil => exact agree
  | cons entry entries induction =>
      cases entry with
      | job order =>
          have own : headingOf order.id = heading :=
            under order List.mem_cons_self
          exact induction under.of_cons (Order.carryOut_agree own agree)
      | mark waiter => exact induction under.of_cons agree

end Entries

namespace Queue

/-- What of a queue and its host matters for what comes of them: all the queue
has left is about one heading, the host comes to the same in the end, and
nothing happens under another heading. -/
structure Continues (heading : String) (queue next : Queue Order)
    (screen nextScreen : Screen) : Prop where
  under : Under heading next.entries
  settled : hostAfter next.entries nextScreen = hostAfter queue.entries screen
  apart : ∀ other, heading ≠ other → AgreeUnder other nextScreen screen

variable {heading : String} {queue : Queue Order}

theorem under_turn {σ : Type} [NotificationHost σ]
    (under : Under heading queue.entries) (desk : Desk σ) :
    Under heading (queue.turn desk).2.1.entries := by
  rcases entries : queue.entries with _ | ⟨order | waiter, behind⟩
  · rw [turn_of_nil entries]
    exact under
  · rw [(turn_of_order entries desk).1]
    rw [entries] at under
    intro other member
    rcases List.mem_append.mp member with rest | later
    · have left : order.restAfterCall desk.host = some other := by
        simpa using rest
      rw [Order.id_of_rest left]
      exact under order List.mem_cons_self
    · exact under.of_cons other later
  · rw [turn_of_mark entries]
    rw [entries] at under
    exact under.of_cons

theorem turn_of_ne (under : Under heading queue.entries) {other : String}
    (different : heading ≠ other) (desk : Desk Screen) :
    AgreeUnder other (queue.turn desk).2.2.host desk.host := by
  rcases entries : queue.entries with _ | ⟨order | waiter, behind⟩
  · rw [turn_of_nil entries]
    exact AgreeUnder.refl other desk.host
  · have own : headingOf order.id = heading :=
      under order (entries ▸ List.mem_cons_self)
    rw [(turn_of_order entries desk).2]
    exact Order.afterCall_of_ne (own ▸ different) desk.host
  · rw [turn_of_mark entries]
    exact AgreeUnder.refl other desk.host

theorem continues_turn (under : Under heading queue.entries)
    (desk : Desk Screen) :
    Continues heading queue (queue.turn desk).2.1 desk.host
      (queue.turn desk).2.2.host where
  under := under_turn under desk
  settled := by
    rw [← host_finishAll, ← host_finishAll, finishAll_turn]
  apart _ different := turn_of_ne under different desk

theorem continues_flush (under : Under heading queue.entries)
    (desk : Desk Screen) :
    Continues heading queue (queue.flush desk).2.1 desk.host
      (queue.flush desk).2.2.host := by
  have flushed : (queue.flush desk).2.2.host =
      hostAfter queue.entries desk.host := host_finishAll queue.entries desk
  refine ⟨?_, flushed, ?_⟩
  · intro order member
    exact absurd member List.not_mem_nil
  · intro other different
    rw [flushed]
    exact hostAfter_of_ne under different desk.host

end Queue

/-! ## All queues -/

namespace Center

/-- All that a queue has left is about identities of its family. -/
def Headed (center : Center) : Prop :=
  ∀ family : Family, Under family.heading (center.queues.get family).entries

theorem entries_ofConfig (config : HandlerConfig) (family : Family) :
    ((ofConfig config).queues.get family).entries = [] := by
  simp [ofConfig, Queue.entries]

theorem headed_ofConfig (config : HandlerConfig) :
    (ofConfig config).Headed := by
  intro family order member
  rw [entries_ofConfig] at member
  exact absurd member List.not_mem_nil

theorem headed_submit {center : Center} (headed : center.Headed)
    {family : Family} {order : Order}
    (own : headingOf order.id = family.heading) :
    (center.submit family order).Headed := by
  intro other job member
  rw [entries_submit] at member
  split at member
  · next same =>
      rcases List.mem_append.mp member with earlier | new
      · exact headed other job earlier
      · cases List.mem_singleton.mp new
        rw [own, same]
  · exact headed other job member

theorem headed_set {center : Center} (headed : center.Headed)
    {family : Family} {queue : Queue Order}
    (under : Under family.heading queue.entries) :
    Headed { center with queues := center.queues.set family queue } := by
  intro other
  by_cases same : other = family
  · subst other
    rw [PerFamily.get_set_self]
    exact under
  · rw [PerFamily.get_set_of_ne _ _ same]
    exact headed other

theorem headed_turn {σ : Type} [NotificationHost σ] {center : Center}
    (headed : center.Headed) (family : Family) (desk : Desk σ) :
    (center.turn family desk).1.Headed :=
  headed_set headed (Queue.under_turn (headed family) desk)

end Center

theorem CenterCall.headingOf_order (contents : Contents) (call : CenterCall) :
    headingOf (call.order contents).id = call.family.heading := by
  obtain ⟨path, id⟩ := call.id_order contents
  rw [id, headingOf_identity]

end RemovableMedia
