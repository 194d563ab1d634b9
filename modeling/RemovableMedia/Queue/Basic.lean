import RemovableMedia.Log

/-!
# Queues of jobs

A queue hands its jobs to one worker, which takes them in the order of
submission and starts the next only when the one before is over.  A job runs
in turns; between two turns of one queue anything else may happen.  A job
that panics is over, and nothing else comes of it.

Whoever wants to know when all jobs submitted so far are over puts a mark in
the queue: the worker reaches it after them.
-/

namespace RemovableMedia

/-- What is left of a job after a turn. -/
inductive Progress (Job : Type) where
  | pending (rest : Job)
  | completed
  | panicked

/-- How jobs run on a state.  The rest of a job takes fewer turns than the
job, so every job is over at some time. -/
class Routine (Job σ : Type) where
  resume : Job → σ → Progress Job × σ
  turns : Job → Nat
  turns_decrease : ∀ (job rest : Job) (state : σ),
    (resume job state).1 = .pending rest → turns rest < turns job

namespace Routine

variable {Job σ : Type} [Routine Job σ]

/-- Runs a job to its end.  The answer says whether it completed. -/
def finish (job : Job) (state : σ) : Bool × σ :=
  match _step : resume job state with
  | (.completed, state) => (true, state)
  | (.panicked, state) => (false, state)
  | (.pending rest, state) => finish rest state
termination_by turns σ job
decreasing_by
  exact turns_decrease _ _ _ (by rw [_step])

end Routine

/-- What stands in a queue. -/
inductive Entry (Job : Type) where
  | job (job : Job)
  /-- The mark of someone who waits for the jobs before it. -/
  | mark (waiter : Nat)

/-- What came of a turn of the worker. -/
inductive Report where
  | idle
  | worked
  | completed
  | panicked
  | reached (waiter : Nat)
  deriving DecidableEq, Repr

/-- The entry that a worker writes on a report, with the name of its queue. -/
def Report.log? (queue : String) : Report → Option LogEntry
  | panicked => some (.jobPanicked queue)
  | _ => none

/-- A queue and its worker. -/
structure Queue (Job : Type) where
  name : String
  /-- The job in progress. -/
  current : Option Job := none
  waiting : List (Entry Job) := []

namespace Queue

variable {Job σ : Type}

/-- Hands over a job. -/
def submit (queue : Queue Job) (job : Job) : Queue Job :=
  { queue with waiting := queue.waiting ++ [.job job] }

/-- Puts a mark behind all that was handed over. -/
def mark (queue : Queue Job) (waiter : Nat) : Queue Job :=
  { queue with waiting := queue.waiting ++ [.mark waiter] }

/-- Is nothing in progress and nothing waiting? -/
def isIdle (queue : Queue Job) : Bool :=
  queue.current.isNone && queue.waiting.isEmpty

variable [Routine Job σ]

/-- Gives a turn to a job that the worker has taken from the queue. -/
def work (queue : Queue Job) (job : Job) (state : σ) :
    Report × Queue Job × σ :=
  match Routine.resume job state with
  | (.pending rest, state) =>
      (.worked, { queue with current := some rest }, state)
  | (.completed, state) => (.completed, { queue with current := none }, state)
  | (.panicked, state) => (.panicked, { queue with current := none }, state)

/-- One turn of the worker. -/
def turn (queue : Queue Job) (state : σ) : Report × Queue Job × σ :=
  match queue.current, queue.waiting with
  | some job, _ => queue.work job state
  | none, .job job :: waiting => { queue with waiting }.work job state
  | none, .mark waiter :: waiting =>
      (.reached waiter, { queue with waiting }, state)
  | none, [] => (.idle, queue, state)

/-- Runs entries to the end, one after another. -/
def finishAll : List (Entry Job) → σ → List Report × σ
  | [], state => ([], state)
  | .mark waiter :: rest, state =>
      let (reports, state) := finishAll rest state
      (.reached waiter :: reports, state)
  | .job job :: rest, state =>
      let (completed, state) := Routine.finish job state
      let (reports, state) := finishAll rest state
      ((if completed then .completed else .panicked) :: reports, state)

/-- What the worker has yet to do, the job in progress first. -/
def entries (queue : Queue Job) : List (Entry Job) :=
  (queue.current.map Entry.job).toList ++ queue.waiting

/-- Lets the worker run until nothing is left. -/
def flush (queue : Queue Job) (state : σ) : List Report × Queue Job × σ :=
  let (reports, state) := finishAll queue.entries state
  (reports, ⟨queue.name, none, []⟩, state)

end Queue

end RemovableMedia
