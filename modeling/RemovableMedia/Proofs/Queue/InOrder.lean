import Mathlib.Algebra.GroupWithZero.Nat
import Mathlib.Data.List.Basic
import RemovableMedia.Proofs.Queue.Visits
import RemovableMedia.Queue.Errand

/-!
# Jobs run once, in order, one at a time

The account of a run says which entries of the queue are over.  Two things are
added to it here: whoever waits is told only after everything handed over
before, and enough turns of the worker bring everything handed over to its end,
whatever is handed over later.
-/

namespace RemovableMedia

namespace Workshop

variable {Job σ : Type} [Routine Job σ]

theorem name_step (shop : Workshop Job σ) (step : QueueStep Job σ) :
    (shop.step step).queue.name = shop.queue.name := by
  cases step with
  | submit job => rfl
  | flush => rfl
  | meanwhile change => rfl
  | turn =>
      change (shop.queue.turn shop.state).2.1.name = shop.queue.name
      rcases entries : shop.queue.entries with _ | ⟨job | waiter, behind⟩
      · rw [Queue.turn_of_nil entries]
      · rw [Queue.turn_of_job entries]
      · rw [Queue.turn_of_mark entries]

theorem name_run (shop : Workshop Job σ) (steps : List (QueueStep Job σ)) :
    (shop.run steps).queue.name = shop.queue.name := by
  induction steps generalizing shop with
  | nil => rfl
  | cons step steps induction =>
      rw [run_cons, induction, name_step]

/-! ## Who waits for what -/

/-- Each mark bears the number of entries handed over before it. -/
def Numbered (shop : Workshop Job σ) : Prop :=
  ∀ place waiter : Nat, shop.submitted[place]? = some (.mark waiter) →
    waiter = place

theorem numbered_step {shop : Workshop Job σ} (numbered : shop.Numbered)
    (step : QueueStep Job σ) : (shop.step step).Numbered := by
  intro place waiter found
  cases step with
  | turn => exact numbered place waiter found
  | meanwhile change => exact numbered place waiter found
  | submit job =>
      change (shop.submitted ++ [.job job])[place]? = _ at found
      rw [List.getElem?_append] at found
      split at found
      · exact numbered place waiter found
      · simp [List.getElem?_singleton] at found
  | flush =>
      change (shop.submitted ++ [.mark shop.waiter])[place]? = _ at found
      rw [List.getElem?_append] at found
      split at found
      · exact numbered place waiter found
      · next behind =>
          simp only [List.getElem?_singleton, Option.ite_none_right_eq_some,
            Option.some.injEq, Entry.mark.injEq] at found
          unfold Workshop.waiter at found
          omega

theorem numbered_run {shop : Workshop Job σ} (numbered : shop.Numbered)
    (steps : List (QueueStep Job σ)) : (shop.run steps).Numbered := by
  induction steps generalizing shop with
  | nil => exact numbered
  | cons step steps induction => exact induction (numbered_step numbered step)

/-- Whoever waits for a number of entries is told when these are over. -/
theorem Account.waiter_le {shop : Workshop Job σ} {past : List (Visit Job σ)}
    {now : Option (Visit Job σ)} (account : shop.Account past now)
    (numbered : shop.Numbered) {shift : Shift Job σ}
    (seen : shift ∈ shop.shifts) {waiter : Nat}
    (reached : shift.report = .reached waiter) : waiter ≤ past.length := by
  rw [account.shifts] at seen
  obtain ⟨visit, member, own⟩ := List.mem_flatMap.mp seen
  -- Only the visit to a mark comes to such a report, and it is over.
  have isOver : visit ∈ past := by
    rcases List.mem_append.mp member with isOver | underWay
    · exact isOver
    · obtain ⟨rest, _, job, _, comes⟩ :=
        account.isUnderWay visit (by simpa using underWay)
      exact absurd reached (comes.report_ne_reached own waiter)
  have mark : visit.entry = .mark waiter := by
    have ends := account.isOver visit isOver
    unfold Visit.IsOver at ends
    split at ends
    · obtain ⟨progress, comes, _⟩ := ends
      exact absurd reached (comes.report_ne_reached own waiter)
    · next other entry =>
        obtain ⟨state, shifts⟩ := ends
        rw [shifts, List.mem_singleton] at own
        rw [own] at reached
        rw [entry, Report.reached.inj reached]
  obtain ⟨place, bound, found⟩ := List.mem_iff_getElem.mp isOver
  have handedOver : shop.submitted[place]? = some (.mark waiter) := by
    rw [account.submitted, List.getElem?_append_left (by simp; omega),
      List.getElem?_map, List.getElem?_append_left bound,
      List.getElem?_eq_getElem bound, found, Option.map_some, mark]
  rw [numbered place waiter handedOver]
  exact Nat.le_of_lt bound

/-! ## How far the worker gets -/

end Workshop

namespace Entry

variable {Job : Type} (σ : Type) [Routine Job σ]

/-- A number of turns in which the worker is done with the entry. -/
def cost : Entry Job → Nat
  | .job own => Routine.turns σ own + 1
  | .mark _ => 1

def totalCost (entries : List (Entry Job)) : Nat :=
  (entries.map (cost σ)).sum

end Entry

namespace Queue

variable {Job σ : Type} [Routine Job σ]

/-- A turn is done with the first entry or leaves a cheaper one of it. -/
theorem entries_turn {queue : Queue Job} {entry : Entry Job}
    {behind : List (Entry Job)} (entries : queue.entries = entry :: behind)
    (state : σ) :
    (queue.turn state).2.1.entries = behind ∨
      ∃ cheaper, cheaper.cost σ < entry.cost σ ∧
        (queue.turn state).2.1.entries = cheaper :: behind := by
  cases entry with
  | mark waiter =>
      rw [turn_of_mark entries]
      exact .inl rfl
  | job job =>
      rw [turn_of_job entries]
      cases progress : (Routine.resume job state).1 with
      | completed => exact .inl rfl
      | panicked => exact .inl rfl
      | pending rest =>
          have fewer := Routine.turns_decrease job rest state progress
          exact .inr ⟨.job rest, by simpa [Entry.cost] using fewer, rfl⟩

/-- A turn makes what stands first cheaper, and what stands behind no longer. -/
theorem entries_turn_append {queue : Queue Job} {left later : List (Entry Job)}
    (entries : queue.entries = left ++ later) (state : σ) :
    ∃ nextLeft nextLater,
      (queue.turn state).2.1.entries = nextLeft ++ nextLater ∧
        Entry.totalCost σ nextLeft ≤ Entry.totalCost σ left - 1 ∧
        nextLater.length ≤ later.length := by
  cases left with
  | cons entry left =>
      rcases entries_turn entries state with ended | ⟨cheaper, fewer, kept⟩
      · refine ⟨left, later, ended, ?_, Nat.le_refl _⟩
        have positive : 0 < entry.cost σ := by
          cases entry <;> simp [Entry.cost]
        simp only [Entry.totalCost, List.map_cons, List.sum_cons]
        omega
      · refine ⟨cheaper :: left, later, kept, ?_, Nat.le_refl _⟩
        simp only [Entry.totalCost, List.map_cons, List.sum_cons]
        omega
  | nil =>
      refine ⟨[], (queue.turn state).2.1.entries, rfl, Nat.zero_le _, ?_⟩
      rw [List.nil_append] at entries
      cases later with
      | nil => simp [turn_of_nil entries, entries]
      | cons entry behind =>
          rcases entries_turn entries state with ended | ⟨cheaper, _, kept⟩
          · simp [ended]
          · simp [kept]

end Queue

namespace Workshop

variable {Job σ : Type} [Routine Job σ]

/-- As many turns as the first entries cost bring these to their end: no more
is left than came behind them. -/
theorem length_entries_run (left later : List (Entry Job))
    (steps : List (QueueStep Job σ)) {shop : Workshop Job σ}
    (entries : shop.queue.entries = left ++ later)
    (enough : Entry.totalCost σ left ≤ steps.countP QueueStep.isTurn) :
    (shop.run steps).queue.entries.length + shop.submitted.length ≤
      later.length + (shop.run steps).submitted.length := by
  induction steps generalizing shop left later with
  | nil =>
      have none : left = [] := by
        cases left with
        | nil => rfl
        | cons entry left =>
            cases entry <;> simp [Entry.totalCost, Entry.cost] at enough
      simp [entries, none]
  | cons step steps induction =>
      rw [run_cons]
      rw [List.countP_cons] at enough
      cases step with
      | submit job =>
          have grown : (shop.step (.submit job)).queue.entries =
              left ++ (later ++ [.job job]) := by
            rw [← List.append_assoc, ← entries]
            simp [Workshop.step, Queue.entries, Queue.submit]
          have rest := induction left _ grown enough
          simp [Workshop.step] at rest ⊢
          omega
      | flush =>
          have grown : (shop.step .flush).queue.entries =
              left ++ (later ++ [.mark shop.waiter]) := by
            rw [← List.append_assoc, ← entries]
            simp [Workshop.step, Queue.entries, Queue.mark]
          have rest := induction left _ grown enough
          simp [Workshop.step] at rest ⊢
          omega
      | meanwhile change => exact induction left later entries enough
      | turn =>
          obtain ⟨nextLeft, nextLater, next, cheaper, noLonger⟩ :=
            Queue.entries_turn_append entries shop.state
          simp only [QueueStep.isTurn, if_true] at enough
          have entries :
              (shop.step .turn).queue.entries = nextLeft ++ nextLater := next
          have rest := induction nextLeft nextLater entries (by omega)
          exact Nat.le_trans rest (Nat.add_le_add_right noLonger _)

theorem Account.length_submitted {shop : Workshop Job σ}
    {past : List (Visit Job σ)} {now : Option (Visit Job σ)}
    (account : shop.Account past now) :
    shop.submitted.length = past.length + shop.queue.entries.length := by
  cases now with
  | none =>
      have free := account.free rfl
      simp [account.submitted, Queue.entries, free]
  | some visit =>
      obtain ⟨rest, current, _⟩ := account.isUnderWay visit rfl
      simp [account.submitted, Queue.entries, current, Nat.add_assoc,
        Nat.add_comm]

/-- Whoever hands over jobs to a queue or waits for it, in whatever order, and
whatever else happens between the turns of the worker: the turns split into
visits to the first entries handed over, one after another, each of which but
the last is over; the log tells of the panics and of nothing else; whoever is
told that the waiting is over is told after everything handed over before; and
enough turns bring all that was handed over to its end. -/
theorem jobs_run_once_in_order (name : String) (state : σ)
    (steps : List (QueueStep Job σ)) :
    ∃ past now,
      ((opened name state).run steps).Account past now ∧
      ((opened name state).run steps).queue.name = name ∧
      (∀ before after, steps = before ++ .flush :: after →
        (∃ shift ∈ ((opened name state).run steps).shifts, shift.report =
          .reached ((opened name state).run before).waiter) →
        ((opened name state).run before).submitted <+:
          past.map Visit.entry) ∧
      (∀ before after, steps = before ++ after →
        Entry.totalCost σ ((opened name state).run before).queue.entries ≤
          after.countP QueueStep.isTurn →
        ((opened name state).run before).submitted <+:
          past.map Visit.entry) := by
  obtain ⟨past, now, account⟩ :=
    account_run (account_opened name state) steps
  have numbered : ((opened name state).run steps).Numbered :=
    numbered_run (by simp [Numbered, opened]) steps
  have overFirst : past.map Visit.entry <+:
      ((opened name state).run steps).submitted := by
    rw [account.submitted, List.map_append, List.append_assoc]
    exact List.prefix_append _ _
  have prefixed : ∀ before after, steps = before ++ after →
      ((opened name state).run before).submitted.length ≤ past.length →
      ((opened name state).run before).submitted <+: past.map Visit.entry := by
    intro before after split bound
    have submitted : ((opened name state).run before).submitted <+:
        ((opened name state).run steps).submitted := by
      rw [split, run_append]
      exact submitted_run _ after
    exact List.prefix_of_prefix_length_le submitted overFirst (by simpa)
  refine ⟨past, now, account, name_run _ steps, ?_, ?_⟩
  · rintro before after split ⟨shift, seen, reached⟩
    exact prefixed before _ split (account.waiter_le numbered seen reached)
  · intro before after split enough
    apply prefixed before after split
    have entries := length_entries_run _ [] after
      (List.append_nil _).symm enough
    rw [← run_append, ← split] at entries
    have length := account.length_submitted
    simp only [List.length_nil] at entries
    omega

/-- The second of three errands panics, and those around it do not. -/
example :
    ((opened "errands" [] : Workshop Errand Errand.Diary).run
      [.submit { number := 1, pauses := 2 },
        .submit { number := 2, panics := true }, .turn,
        .submit { number := 3 }, .turn, .turn, .turn, .turn]).state =
      [.start 1, .finish 1, .start 2, .start 3, .finish 3] := by
  decide

end Workshop

end RemovableMedia
