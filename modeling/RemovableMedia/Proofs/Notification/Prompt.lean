import RemovableMedia.Proofs.Host.Calls
import RemovableMedia.Proofs.Notification.Lane
import RemovableMedia.Proofs.Notification.Ledger
import RemovableMedia.Proofs.Queue.InOrder

/-!
# Centers that are asked to show and to hide

An order to show or to hide takes one turn and makes one call.  As long as a
center gets no other orders, what its workers do to the host is a list of calls:
under the heading of each family those that have left the queue of the family,
in their order.  A flush is nothing but turns of the workers.
-/

namespace RemovableMedia

open HostCall

/-! ## Orders and queues -/

/-- The call that an entry comes to. -/
def Entry.call? : Entry Order → Option HostCall
  | .job order => order.call?
  | .mark _ => none

/-- The calls that the entries come to, in order. -/
def callsOf (entries : List (Entry Order)) : List HostCall :=
  entries.filterMap Entry.call?

theorem callsOf_append (first second : List (Entry Order)) :
    callsOf (first ++ second) = callsOf first ++ callsOf second :=
  List.filterMap_append

namespace Order

variable {order : Order} {call : HostCall}

theorem id_of_call (made : order.call? = some call) : call.id = order.id := by
  cases order with
  | create id content =>
      cases made
      rfl
  | clear id =>
      cases made
      rfl
  | createOnce id content => simp [Order.call?] at made

variable {σ : Type} [NotificationHost σ]

/-- An order that makes a call is over with it. -/
theorem after_of_call (made : order.call? = some call) (host : σ) :
    order.afterCall host = call.perform host ∧
      order.restAfterCall host = none := by
  cases order with
  | create id content =>
      cases made
      exact ⟨rfl, rfl⟩
  | clear id =>
      cases made
      exact ⟨rfl, rfl⟩
  | createOnce id content => simp [Order.call?] at made

end Order

/-- The orders among the entries each make a call, about an identity with the
heading. -/
def Prompt (heading : String) (entries : List (Entry Order)) : Prop :=
  ∀ order, .job order ∈ entries →
    ∃ call, order.call? = some call ∧ headingOf call.id = heading

namespace Prompt

variable {heading : String} {entries : List (Entry Order)}

theorem suffix {fewer : List (Entry Order)} (prompt : Prompt heading entries)
    (left : fewer <:+ entries) : Prompt heading fewer :=
  fun order member => prompt order (left.subset member)

theorem append {later : List (Entry Order)} (prompt : Prompt heading entries)
    (laterPrompt : Prompt heading later) :
    Prompt heading (entries ++ later) := by
  intro order member
  rcases List.mem_append.mp member with early | late
  · exact prompt order early
  · exact laterPrompt order late

theorem heading_of_mem (prompt : Prompt heading entries) {call : HostCall}
    (member : call ∈ callsOf entries) : headingOf call.id = heading := by
  obtain ⟨entry, present, made⟩ := List.mem_filterMap.mp member
  cases entry with
  | mark waiter => simp [Entry.call?] at made
  | job order =>
      obtain ⟨own, ownMade, under⟩ := prompt order present
      have same : own = call := by
        rw [Entry.call?, ownMade] at made
        exact Option.some.inj made
      exact same ▸ under

end Prompt

theorem Queue.name_turn {σ : Type} [NotificationHost σ] (queue : Queue Order)
    (desk : Desk σ) :
    (queue.turn desk).2.1.name = queue.name := by
  rcases entries : queue.entries with _ | ⟨order | waiter, behind⟩
  · rw [turn_of_nil entries]
  · rw [turn_of_job entries]
  · rw [turn_of_mark entries]

theorem Queue.eq_of_entries_nil {queue : Queue Order}
    (empty : queue.entries = []) :
    queue = ⟨queue.name, none, []⟩ := by
  obtain ⟨name, current, waiting⟩ := queue
  cases current with
  | some order => exact absurd empty (by simp [Queue.entries])
  | none =>
      have waits : waiting = [] := by simpa [Queue.entries] using empty
      rw [waits]

/-- Work on a queue that comes to some calls: these leave the queue at its
front, and marks may go with them. -/
structure Queue.Performs {σ : Type} [NotificationHost σ] (done : List HostCall)
    (queue next : Queue Order) (host nextHost : σ) : Prop where
  host : nextHost = performAll done host
  calls : callsOf queue.entries = done ++ callsOf next.entries
  left : next.entries <:+ queue.entries

theorem Queue.performs_turn {σ : Type} [NotificationHost σ] {heading : String}
    {queue : Queue Order} (prompt : Prompt heading queue.entries)
    (desk : Desk σ) :
    ∃ done, Performs done queue (queue.turn desk).2.1 desk.host
      (queue.turn desk).2.2.host := by
  rcases entries : queue.entries with _ | ⟨order | waiter, behind⟩
  · rw [turn_of_nil entries]
    exact ⟨[], rfl, rfl, List.suffix_refl _⟩
  · rw [turn_of_job entries]
    obtain ⟨call, made, _⟩ := prompt order (by simp [entries])
    obtain ⟨performed, ended⟩ := Order.after_of_call made desk.host
    have host : (Routine.resume order desk).2.host = call.perform desk.host :=
      (order.host_resume desk).trans performed
    have finished : (Routine.resume order desk).1.rest? = none :=
      (order.rest?_resume desk).trans ended
    have left : (⟨queue.name, none, behind⟩ : Queue Order).entries = behind :=
      rfl
    rw [finished]
    refine ⟨[call], host, ?_, ?_⟩
    · rw [entries, left]
      simp [callsOf, Entry.call?, made]
    · rw [entries, left]
      exact List.suffix_cons _ _
  · rw [turn_of_mark entries]
    refine ⟨[], rfl, ?_, ?_⟩
    · rw [entries]
      rfl
    · rw [entries]
      exact List.suffix_cons _ _

/-! ## Turns of all workers -/

namespace Center

/-- The center with another queue for a family. -/
def withQueue (center : Center) (family : Family) (queue : Queue Order) :
    Center :=
  { center with queues := center.queues.set family queue }

@[simp] theorem get_withQueue_self (center : Center) (family : Family)
    (queue : Queue Order) :
    (center.withQueue family queue).queues.get family = queue :=
  PerFamily.get_set_self _ _ _

theorem get_withQueue_of_ne (center : Center) {family other : Family}
    (queue : Queue Order) (different : other ≠ family) :
    (center.withQueue family queue).queues.get other =
      center.queues.get other :=
  PerFamily.get_set_of_ne _ _ different

theorem withQueue_get (center : Center) (family : Family) :
    center.withQueue family (center.queues.get family) = center := by
  rw [withQueue, PerFamily.set_get_self]

theorem withQueue_withQueue (center : Center) (family : Family)
    (first second : Queue Order) :
    (center.withQueue family first).withQueue family second =
      center.withQueue family second := by
  rw [withQueue, withQueue, PerFamily.set_set_self]
  rfl

section Turns

variable {σ : Type} [NotificationHost σ]

/-- Turns of the workers of some families, one after another. -/
def turns (center : Center) (desk : Desk σ) (families : List Family) :
    Center × Desk σ :=
  families.foldl (fun (center, desk) family => center.turn family desk)
    (center, desk)

theorem turns_append (center : Center) (desk : Desk σ)
    (first second : List Family) :
    center.turns desk (first ++ second) =
      (center.turns desk first).1.turns (center.turns desk first).2 second :=
  List.foldl_append

theorem center_turn (center : Center) (family : Family) (desk : Desk σ) :
    (center.turn family desk).1 = center.withQueue family
      ((center.queues.get family).turn desk).2.1 := rfl

theorem host_turn (center : Center) (family : Family) (desk : Desk σ) :
    (center.turn family desk).2.host =
      ((center.queues.get family).turn desk).2.2.host :=
  Desk.host_elim_record _ _

theorem center_flushFamily (center : Center) (desk : Desk σ)
    (family : Family) :
    (center.flushFamily desk family).1 = center.withQueue family
      ⟨(center.queues.get family).name, none, []⟩ := rfl

theorem host_flushFamily (center : Center) (desk : Desk σ)
    (family : Family) :
    (center.flushFamily desk family).2.host =
      hostAfter (center.queues.get family).entries desk.host :=
  (Desk.host_foldl_record _ _).trans
    (host_finishAll (center.queues.get family).entries desk)

/-- What a turn does to the center and to the host does not depend on the
log. -/
theorem turn_congr (center : Center) (family : Family) {left right : Desk σ}
    (same : left.host = right.host) :
    (center.turn family left).1 = (center.turn family right).1 ∧
      (center.turn family left).2.host = (center.turn family right).2.host := by
  rw [center_turn, center_turn, host_turn, host_turn]
  rcases entries : (center.queues.get family).entries with
    _ | ⟨order | waiter, behind⟩
  · rw [Queue.turn_of_nil entries, Queue.turn_of_nil entries]
    exact ⟨rfl, same⟩
  · have rest : (Routine.resume order left).1.rest? =
        (Routine.resume order right).1.rest? := by
      change (order.resume left).1.rest? = (order.resume right).1.rest?
      rw [order.rest?_resume, order.rest?_resume, same]
    have host : (Routine.resume order left).2.host =
        (Routine.resume order right).2.host := by
      change (order.resume left).2.host = (order.resume right).2.host
      rw [order.host_resume, order.host_resume, same]
    rw [Queue.turn_of_job entries, Queue.turn_of_job entries, rest]
    exact ⟨rfl, host⟩
  · rw [Queue.turn_of_mark entries, Queue.turn_of_mark entries]
    exact ⟨rfl, same⟩

theorem turns_congr (families : List Family) {left right : Center}
    {leftDesk rightDesk : Desk σ} (center : left = right)
    (host : leftDesk.host = rightDesk.host) :
    (left.turns leftDesk families).1 = (right.turns rightDesk families).1 ∧
      (left.turns leftDesk families).2.host =
        (right.turns rightDesk families).2.host := by
  induction families generalizing left right leftDesk rightDesk with
  | nil => exact ⟨center, host⟩
  | cons family families induction =>
      subst right
      obtain ⟨sameCenter, sameHost⟩ := left.turn_congr family host
      exact induction sameCenter sameHost

/-! ### A flush -/

/-- After a turn the flush that is left comes to the same. -/
theorem flushFamily_turn (center : Center) (family : Family)
    (desk : Desk σ) :
    ((center.turn family desk).1.flushFamily (center.turn family desk).2
        family).1 = (center.flushFamily desk family).1 ∧
      ((center.turn family desk).1.flushFamily (center.turn family desk).2
        family).2.host = (center.flushFamily desk family).2.host := by
  constructor
  · rw [center_flushFamily, center_flushFamily, center_turn,
      get_withQueue_self, withQueue_withQueue, Queue.name_turn]
  · rw [host_flushFamily, host_flushFamily, center_turn, get_withQueue_self,
      host_turn, ← host_finishAll, ← host_finishAll, Queue.finishAll_turn]

/-- A flush of one family is a number of turns of its worker. -/
theorem exists_turns_flushFamily (center : Center) (desk : Desk σ)
    (family : Family) {bound : Nat}
    (bounded : Entry.totalCost (Desk σ)
      (center.queues.get family).entries ≤ bound) :
    ∃ count,
      (center.turns desk (List.replicate count family)).1 =
          (center.flushFamily desk family).1 ∧
        (center.turns desk (List.replicate count family)).2.host =
          (center.flushFamily desk family).2.host := by
  induction bound generalizing center desk with
  | zero =>
      have empty : (center.queues.get family).entries = [] := by
        cases entries : (center.queues.get family).entries with
        | nil => rfl
        | cons entry behind =>
            rw [entries] at bounded
            cases entry <;> simp [Entry.totalCost, Entry.cost] at bounded
      refine ⟨0, ?_, ?_⟩
      · rw [center_flushFamily, ← Queue.eq_of_entries_nil empty, withQueue_get]
        rfl
      · rw [host_flushFamily, empty]
        rfl
  | succ bound induction =>
      have cheaper : Entry.totalCost (Desk σ)
          ((center.turn family desk).1.queues.get family).entries ≤ bound := by
        obtain ⟨left, later, entries, cost, length⟩ :=
          (center.queues.get family).entries_turn_append
            (List.append_nil _).symm desk
        rw [List.length_nil, Nat.le_zero, List.length_eq_zero_iff] at length
        rw [center_turn, get_withQueue_self, entries, length,
          List.append_nil]
        omega
      obtain ⟨count, sameCenter, sameHost⟩ := induction _ _ cheaper
      obtain ⟨leftCenter, leftHost⟩ := center.flushFamily_turn family desk
      refine ⟨count + 1, ?_, ?_⟩
      · exact sameCenter.trans leftCenter
      · exact sameHost.trans leftHost

theorem exists_turns_flushFamilies (families : List Family) (center : Center)
    (desk : Desk σ) :
    ∃ turned,
      (center.turns desk turned).1 = (center.flushFamilies desk families).1 ∧
        (center.turns desk turned).2.host =
          (center.flushFamilies desk families).2.host := by
  induction families generalizing center desk with
  | nil => exact ⟨[], rfl, rfl⟩
  | cons family families induction =>
      obtain ⟨count, sameCenter, sameHost⟩ :=
        center.exists_turns_flushFamily desk family (Nat.le_refl _)
      obtain ⟨turned, laterCenter, laterHost⟩ :=
        induction (center.flushFamily desk family).1
          (center.flushFamily desk family).2
      obtain ⟨congrCenter, congrHost⟩ :=
        turns_congr turned sameCenter sameHost
      refine ⟨List.replicate count family ++ turned, ?_, ?_⟩
      · rw [turns_append, congrCenter]
        exact laterCenter
      · rw [turns_append, congrHost]
        exact laterHost

/-- A flush is a list of turns. -/
theorem exists_turns_flush (center : Center) (desk : Desk σ) :
    ∃ turned,
      (center.turns desk turned).1 = (center.flush desk).1 ∧
        (center.turns desk turned).2.host = (center.flush desk).2.host :=
  exists_turns_flushFamilies Family.all center desk

end Turns

/-! ## What the workers do -/

/-- Each queue holds orders of its own family that make a call each. -/
def Orderly (center : Center) : Prop :=
  ∀ family : Family, Prompt family.heading (center.queues.get family).entries

/-- Work of a center that comes to some calls: under each heading of a family
they are those that leave the queue of the family. -/
structure Performs {σ : Type} [NotificationHost σ] (done : List HostCall)
    (center next : Center) (host nextHost : σ) : Prop where
  host : nextHost = performAll done host
  calls : ∀ family : Family, callsOf (center.queues.get family).entries =
    under family.heading done ++ callsOf (next.queues.get family).entries
  headed : ∀ call ∈ done, ∃ family : Family, headingOf call.id = family.heading
  left : ∀ family : Family,
    (next.queues.get family).entries <:+ (center.queues.get family).entries
  content : next.content = center.content

namespace Performs

variable {σ : Type} [NotificationHost σ] {done later : List HostCall}
  {center middle next : Center} {host middleHost nextHost : σ}

theorem refl (center : Center) (host : σ) :
    Performs [] center center host host :=
  ⟨rfl, fun _ => rfl, fun _ member => absurd member List.not_mem_nil,
    fun _ => List.suffix_refl _, rfl⟩

theorem trans (first : Performs done center middle host middleHost)
    (second : Performs later middle next middleHost nextHost) :
    Performs (done ++ later) center next host nextHost := by
  constructor
  · rw [performAll_append, ← first.host]
    exact second.host
  · intro family
    rw [under_append, List.append_assoc, ← second.calls family]
    exact first.calls family
  · intro call member
    rcases List.mem_append.mp member with early | late
    · exact first.headed call early
    · exact second.headed call late
  · intro family
    exact (second.left family).trans (first.left family)
  · exact second.content.trans first.content

theorem orderly (performs : Performs done center next host nextHost)
    (orderly : center.Orderly) : next.Orderly :=
  fun family => (orderly family).suffix (performs.left family)

end Performs

section Perform

variable {σ : Type} [NotificationHost σ] {center : Center}

theorem performs_turn (orderly : center.Orderly) (family : Family)
    (desk : Desk σ) :
    ∃ done, Performs done center (center.turn family desk).1 desk.host
      (center.turn family desk).2.host := by
  obtain ⟨done, host, calls, left⟩ :=
    Queue.performs_turn (orderly family) desk
  have own : ∀ call ∈ done, headingOf call.id = family.heading := by
    intro call member
    apply (orderly family).heading_of_mem
    rw [calls]
    exact List.mem_append_left _ member
  refine ⟨done, ?_, ?_, ?_, ?_, rfl⟩
  · rw [host_turn]
    exact host
  · intro other
    rw [center_turn]
    by_cases same : other = family
    · subst other
      rw [under_of_all own, get_withQueue_self]
      exact calls
    · have apart : ∀ call ∈ done, headingOf call.id ≠ other.heading := by
        intro call member equal
        rw [own call member] at equal
        exact same (Family.heading_injective equal.symm)
      rw [under_of_none apart, get_withQueue_of_ne _ _ same]
      rfl
  · intro call member
    exact ⟨family, own call member⟩
  · intro other
    rw [center_turn]
    by_cases same : other = family
    · subst other
      rw [get_withQueue_self]
      exact left
    · rw [get_withQueue_of_ne _ _ same]

theorem performs_turns (families : List Family) {center : Center}
    (orderly : center.Orderly) (desk : Desk σ) :
    ∃ done, Performs done center (center.turns desk families).1 desk.host
      (center.turns desk families).2.host := by
  induction families generalizing center desk with
  | nil => exact ⟨[], Performs.refl center desk.host⟩
  | cons family families induction =>
      obtain ⟨done, first⟩ := performs_turn orderly family desk
      obtain ⟨later, rest⟩ :=
        induction (first.orderly orderly) (center.turn family desk).2
      exact ⟨done ++ later, first.trans rest⟩

theorem performs_flush (orderly : center.Orderly) (desk : Desk σ) :
    ∃ done, Performs done center (center.flush desk).1 desk.host
      (center.flush desk).2.host := by
  obtain ⟨turned, sameCenter, sameHost⟩ := center.exists_turns_flush desk
  rw [← sameCenter, ← sameHost]
  exact performs_turns turned orderly desk

end Perform

/-! ## Requests -/

theorem orderly_ofConfig (config : HandlerConfig) :
    (ofConfig config).Orderly := by
  intro family order member
  rw [entries_ofConfig] at member
  exact absurd member List.not_mem_nil

end Center

/-- The call that a request comes to. -/
def Request.call (contents : Contents) : Request → HostCall
  | .show kind path message =>
      .create (kind.idFor path).text (contents kind message)
  | .hide kind path => .clear (kind.idFor path).text

namespace Request

theorem id_call (contents : Contents) (request : Request) :
    (request.call contents).id =
      request.kind.family.identity request.devicePath := by
  rcases request with ⟨kind, path, message⟩ | ⟨kind, path⟩
  · rfl
  · rfl

theorem headingOf_call (contents : Contents) (request : Request) :
    headingOf (request.call contents).id = request.kind.family.heading := by
  rw [id_call, headingOf_identity]

end Request

namespace Center

theorem exists_order_request (center : Center) (request : Request) :
    ∃ order, order.call? = some (request.call center.content) ∧
      center.request request = center.submit request.kind.family order := by
  rcases request with ⟨kind, path, message⟩ | ⟨kind, path⟩
  · exact ⟨.create (kind.idFor path).text (center.content kind message), rfl,
      rfl⟩
  · exact ⟨.clear (kind.idFor path).text, rfl, rfl⟩

/-- The calls of requests are added to the queues of their families. -/
theorem orderly_requestAll {center : Center} (orderly : center.Orderly)
    (requests : List Request) :
    (center.requestAll requests).Orderly ∧
      ∀ family : Family,
        callsOf ((center.requestAll requests).queues.get family).entries =
          callsOf (center.queues.get family).entries ++
            under family.heading
              (requests.map (Request.call center.content)) := by
  induction requests generalizing center with
  | nil => exact ⟨orderly, fun family => (List.append_nil _).symm⟩
  | cons request requests induction =>
      obtain ⟨order, made, submitted⟩ := center.exists_order_request request
      have heading := request.headingOf_call center.content
      have entries : ∀ family : Family,
          ((center.request request).queues.get family).entries =
            if family = request.kind.family then
              (center.queues.get family).entries ++ [.job order]
            else (center.queues.get family).entries := by
        rw [submitted]
        exact fun family => center.entries_submit _ family order
      have content : (center.request request).content = center.content :=
        center.content_requestAll [request]
      have nextOrderly : (center.request request).Orderly := by
        intro family
        rw [entries]
        split
        · next same =>
            subst family
            apply (orderly _).append
            intro other member
            cases List.mem_singleton.mp member
            exact ⟨_, made, heading⟩
        · exact orderly family
      obtain ⟨laterOrderly, laterCalls⟩ := induction nextOrderly
      refine ⟨laterOrderly, ?_⟩
      intro family
      change callsOf (((center.request request).requestAll
        requests).queues.get family).entries = _
      have first : callsOf
          ((center.request request).queues.get family).entries =
          callsOf (center.queues.get family).entries ++
            under family.heading [request.call center.content] := by
        rw [entries]
        split
        · next same =>
            subst family
            rw [callsOf_append, under_of_all (by simpa using heading)]
            simp [callsOf, Entry.call?, made]
        · next different =>
            rw [under_of_none, List.append_nil]
            intro call member equal
            rw [List.mem_singleton.mp member, heading] at equal
            exact different (Family.heading_injective equal).symm
      rw [laterCalls, content, first, List.append_assoc, ← under_append]
      rfl

end Center

end RemovableMedia
