import RemovableMedia.Router.Basic

/-!
# Turns of background work

Between events, the worker of each queue and each import take turns.  Any
order of turns is a schedule; `fairRounds` is the one in which every worker
that has something to do goes on in each round, as far as it gets without
waiting.
-/

namespace RemovableMedia

/-- Who carries on next. -/
inductive Turn where
  /-- The worker of a family carries on with its queue. -/
  | worker (family : Family)
  /-- The import with this place among the tasks carries on. -/
  | task (index : Nat)
  deriving DecidableEq, Repr

namespace Router

variable {σ : Type} [NotificationHost σ]

/-- The one whose turn it is carries on as far as the next pause. -/
def turn (setting : Setting) (router : Router σ) : Turn → Router σ
  | .worker family =>
      let (center, desk) := router.center.turn family router.desk
      { router with center, desk }
  | .task index =>
      match router.tasks[index]? with
      | none => router
      | some task =>
          let (router, task) := router.taskTurn setting task
          { router with tasks := router.tasks.set index task }

/-- Has the worker of the family anything to do? -/
def isBusy (router : Router σ) (family : Family) : Bool :=
  !(router.center.queues.get family).isIdle

/-- The families with work, those that had some before first. -/
def queueUp (router : Router σ) (before : List Family) : List Family :=
  let kept := before.filter router.isBusy
  kept ++ Family.all.filter fun family =>
    router.isBusy family && family ∉ kept

/-- Turns of one worker, until it has to wait or has nothing left to do.  It
waits where `waits` counts on. -/
def stint (setting : Setting) (waits : Router σ → Nat) (family : Family) :
    (turns : Nat) → Router σ → Router σ
  | 0, router => router
  | turns + 1, router =>
      let next := router.turn setting (.worker family)
      if waits next = waits router && next.isBusy family then
        stint setting waits family turns next
      else
        next

/-- The number of turns in which a worker is done with its queue: an order
takes two at most. -/
def turnsLeft (router : Router σ) (family : Family) : Nat :=
  2 * (router.center.queues.get family).entries.length

/-- Gives one stint to the worker of each family. -/
def fairRound (setting : Setting) (waits : Router σ → Nat)
    (families : List Family) (router : Router σ) : Router σ :=
  families.foldl
    (fun router family =>
      router.stint setting waits family (router.turnsLeft family))
    router

/-- Some rounds, after each of which families that got work join in. -/
def fairRounds (setting : Setting) (waits : Router σ → Nat) :
    (rounds : Nat) → List Family → Router σ → Router σ
  | 0, _, router => router
  | rounds + 1, families, router =>
      let router := router.fairRound setting waits families
      fairRounds setting waits rounds (router.queueUp families) router

/-- A number of rounds after which every queue is empty. -/
def enoughRounds (router : Router σ) : Nat :=
  Family.all.foldl (fun turns family => turns + router.turnsLeft family) 0

/-- Waits for the imports, then lets the workers carry out the orders in fair
rounds, which start with the families in the given order. -/
def settleFairly (setting : Setting) (waits : Router σ → Nat)
    (families : List Family) (router : Router σ) : Router σ :=
  let router := router.drain setting
  fairRounds setting waits router.enoughRounds (router.queueUp families) router

end Router

end RemovableMedia
