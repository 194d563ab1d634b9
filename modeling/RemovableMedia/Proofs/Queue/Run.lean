import Mathlib.Data.List.Induction
import RemovableMedia.Queue.Basic

/-!
# A queue at work

Any number of submitters hand over jobs or wait for those handed over so far,
the worker takes turns, and in between anything else may change the state that
jobs run on.  The queue does not ask who hands over a job, so a list of such
steps is an interleaving of the doings of all submitters, and every
interleaving is such a list.
-/

namespace RemovableMedia

namespace Progress

variable {Job : Type}

def report : Progress Job → Report
  | pending _ => .worked
  | completed => .completed
  | panicked => .panicked

/-- What is left of the job, if anything. -/
def rest? : Progress Job → Option Job
  | pending rest => some rest
  | completed => none
  | panicked => none

end Progress

/-! ## One turn -/

/-- A turn of the worker that was not idle. -/
structure Shift (Job σ : Type) where
  /-- The job that the worker took from the queue in this turn. -/
  began : Option Job
  met : σ
  report : Report
  left : σ

namespace Queue

variable {Job σ : Type} [Routine Job σ]

/-- The job that the worker takes from the queue in its next turn. -/
def next? (queue : Queue Job) : Option Job :=
  match queue.current, queue.waiting with
  | none, .job job :: _ => some job
  | _, _ => none

/-- What is seen of a turn. -/
def shift? (queue : Queue Job) (state : σ) : Option (Shift Job σ) :=
  match queue.turn state with
  | (.idle, _, _) => none
  | (report, _, left) => some ⟨queue.next?, state, report, left⟩

theorem work_eq (queue : Queue Job) (job : Job) (state : σ) :
    queue.work job state =
      ((Routine.resume job state).1.report,
        { queue with current := (Routine.resume job state).1.rest? },
        (Routine.resume job state).2) := by
  unfold work
  split
  · next equal => simp [equal, Progress.report, Progress.rest?]
  · next equal => simp [equal, Progress.report, Progress.rest?]
  · next equal => simp [equal, Progress.report, Progress.rest?]

/-! What stands first in a queue settles what comes of a turn. -/

theorem turn_of_job {queue : Queue Job} {job : Job} {behind : List (Entry Job)}
    (entries : queue.entries = .job job :: behind) (state : σ) :
    queue.turn state =
      ((Routine.resume job state).1.report,
        ⟨queue.name, (Routine.resume job state).1.rest?, behind⟩,
        (Routine.resume job state).2) := by
  obtain ⟨name, current, waiting⟩ := queue
  cases current with
  | some own =>
      obtain ⟨same, rfl⟩ := List.cons.inj entries
      cases same
      exact work_eq _ job state
  | none =>
      change waiting = _ at entries
      subst waiting
      exact work_eq _ job state

theorem turn_of_mark {queue : Queue Job} {waiter : Nat}
    {behind : List (Entry Job)}
    (entries : queue.entries = .mark waiter :: behind) (state : σ) :
    queue.turn state = (.reached waiter, ⟨queue.name, none, behind⟩, state) := by
  obtain ⟨name, current, waiting⟩ := queue
  cases current with
  | some own => exact absurd (List.cons.inj entries).1 (by simp)
  | none =>
      change waiting = _ at entries
      subst waiting
      rfl

theorem turn_of_nil {queue : Queue Job} (entries : queue.entries = [])
    (state : σ) : queue.turn state = (.idle, queue, state) := by
  obtain ⟨name, current, waiting⟩ := queue
  cases current with
  | some own => exact absurd entries (by simp [Queue.entries])
  | none =>
      change waiting = _ at entries
      subst waiting
      rfl

end Queue

/-! ## To the end -/

theorem Routine.finish_of_rest {Job σ : Type} [Routine Job σ] {job rest : Job}
    {state : σ} (left : (resume job state).1.rest? = some rest) :
    (finish job state).2 = (finish rest (resume job state).2).2 := by
  conv_lhs => rw [finish]
  split
  · next turn => simp [turn, Progress.rest?] at left
  · next turn => simp [turn, Progress.rest?] at left
  · next later after turn =>
      rw [turn] at left ⊢
      cases left
      rfl

theorem Routine.finish_of_none {Job σ : Type} [Routine Job σ] {job : Job}
    {state : σ} (ended : (resume job state).1.rest? = none) :
    (finish job state).2 = (resume job state).2 := by
  rw [finish]
  split
  · next turn => rw [turn]
  · next turn => rw [turn]
  · next turn => simp [turn, Progress.rest?] at ended

namespace Queue

variable {Job σ : Type} [Routine Job σ]

/-- A turn does not change what the entries come to in the end. -/
theorem finishAll_turn (queue : Queue Job) (state : σ) :
    (finishAll (queue.turn state).2.1.entries (queue.turn state).2.2).2 =
      (finishAll queue.entries state).2 := by
  rcases entries : queue.entries with _ | ⟨job | waiter, behind⟩
  · rw [turn_of_nil entries, entries]
  · rw [turn_of_job entries]
    cases left : (Routine.resume job state).1.rest? with
    | some rest =>
        have finished := Routine.finish_of_rest left
        exact congrArg (fun state => (finishAll behind state).2) finished.symm
    | none =>
        have finished := Routine.finish_of_none left
        exact congrArg (fun state => (finishAll behind state).2) finished.symm
  · rw [turn_of_mark entries]
    rfl

end Queue

/-! ## What jobs keep -/

section Keeps

variable {Job σ α : Type} [Routine Job σ] {view : σ → α}
  (keeps : ∀ (job : Job) state, view (Routine.resume job state).2 = view state)

include keeps

/-- What each turn of a job keeps as it is, the whole job does. -/
theorem Routine.finish_keeps (job : Job) (state : σ) :
    view (finish job state).2 = view state := by
  induction job, state using Routine.finish.induct with
  | case1 job state after turn =>
      rw [finish_of_none (by rw [turn]; rfl)]
      exact keeps job state
  | case2 job state after turn =>
      rw [finish_of_none (by rw [turn]; rfl)]
      exact keeps job state
  | case3 job state rest after turn induction =>
      have first := keeps job state
      rw [finish_of_rest (by rw [turn]; rfl)]
      rw [turn] at first ⊢
      exact induction.trans first

theorem Queue.turn_keeps (queue : Queue Job) (state : σ) :
    view (queue.turn state).2.2 = view state := by
  rcases entries : queue.entries with _ | ⟨job | waiter, behind⟩
  · rw [turn_of_nil entries]
  · rw [turn_of_job entries]
    exact keeps job state
  · rw [turn_of_mark entries]

theorem Queue.finishAll_keeps (entries : List (Entry Job)) (state : σ) :
    view (finishAll entries state).2 = view state := by
  induction entries generalizing state with
  | nil => rfl
  | cons entry entries induction =>
      cases entry with
      | job job =>
          exact (induction (Routine.finish job state).2).trans
            (Routine.finish_keeps keeps job state)
      | mark waiter => exact induction state

end Keeps

/-! ## Runs -/

inductive QueueStep (Job σ : Type) where
  /-- Someone hands over a job. -/
  | submit (job : Job)
  /-- Someone begins to wait for everything handed over so far. -/
  | flush
  /-- The worker has a turn. -/
  | turn
  /-- Something else happens to the state that jobs run on. -/
  | meanwhile (change : σ → σ)

def QueueStep.isTurn {Job σ : Type} : QueueStep Job σ → Bool
  | turn => true
  | _ => false

/-- A queue with the state that its jobs run on, and what came of it so far. -/
structure Workshop (Job σ : Type) where
  queue : Queue Job
  state : σ
  log : Log := []
  /-- What was handed over, in order. -/
  submitted : List (Entry Job) := []
  /-- The turns of the worker, in order. -/
  shifts : List (Shift Job σ) := []

namespace Workshop

variable {Job σ : Type}

def opened (name : String) (state : σ) : Workshop Job σ where
  queue := { name }
  state := state

/-- Whoever waits is known by the number of entries handed over before. -/
def waiter (shop : Workshop Job σ) : Nat := shop.submitted.length

variable [Routine Job σ]

def step (shop : Workshop Job σ) : QueueStep Job σ → Workshop Job σ
  | .submit job =>
      { shop with
        queue := shop.queue.submit job
        submitted := shop.submitted ++ [.job job] }
  | .flush =>
      { shop with
        queue := shop.queue.mark shop.waiter
        submitted := shop.submitted ++ [.mark shop.waiter] }
  | .turn =>
      let (report, queue, state) := shop.queue.turn shop.state
      { shop with
        queue
        state
        log := shop.log ++ (report.log? shop.queue.name).toList
        shifts := shop.shifts ++ (shop.queue.shift? shop.state).toList }
  | .meanwhile change => { shop with state := change shop.state }

def run (shop : Workshop Job σ) (steps : List (QueueStep Job σ)) :
    Workshop Job σ :=
  steps.foldl step shop

@[simp] theorem run_nil (shop : Workshop Job σ) : shop.run [] = shop := rfl

@[simp] theorem run_cons (shop : Workshop Job σ) (step : QueueStep Job σ)
    (steps : List (QueueStep Job σ)) :
    shop.run (step :: steps) = (shop.step step).run steps := rfl

theorem run_append (shop : Workshop Job σ)
    (first second : List (QueueStep Job σ)) :
    shop.run (first ++ second) = (shop.run first).run second :=
  List.foldl_append

theorem submitted_step (shop : Workshop Job σ) (step : QueueStep Job σ) :
    shop.submitted <+: (shop.step step).submitted := by
  cases step with
  | submit job => exact List.prefix_append _ _
  | flush => exact List.prefix_append _ _
  | turn => exact List.prefix_rfl
  | meanwhile change => exact List.prefix_rfl

theorem submitted_run (shop : Workshop Job σ)
    (steps : List (QueueStep Job σ)) :
    shop.submitted <+: (shop.run steps).submitted := by
  induction steps generalizing shop with
  | nil => exact List.prefix_rfl
  | cons step steps induction =>
      exact (shop.submitted_step step).trans (induction (shop.step step))

end Workshop

end RemovableMedia
