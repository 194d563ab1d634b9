import RemovableMedia.Proofs.Notification.Prompt
import RemovableMedia.Proofs.Router.Run

/-!
# A router in service, and how it is shut down

Whoever shuts a router down waits for the imports first: they are taken out of
the router and the end of each is noted, until there are none left.  Then come
the notifications: one queue after another gets a mark, and its worker has to
reach it.  Meanwhile everything that was started goes on in any order.

`Router.drain` and `Router.flush` do all of this in one go.  Here the waiting is
made of small steps, between which anything else may happen.
-/

namespace RemovableMedia

/-! ## Steps -/

/-- What whoever shuts a router down waits for. -/
inductive Stage where
  /-- For nothing yet. -/
  | serving
  /-- For these imports, which were taken out of the router. -/
  | imports (taken : List ImportTask)
  /-- For the mark in the queue of the family, and then for those of others. -/
  | notifications (family : Family) (families : List Family)
  | settled

/-- The order in which the queues are waited for.  None is left out. -/
structure FlushOrder where
  families : List Family
  complete : ∀ family, family ∈ families

namespace FlushOrder

def standard : FlushOrder := ⟨Family.all, Family.mem_all⟩

end FlushOrder

structure Service (σ : Type) where
  router : Router σ
  order : FlushOrder
  stage : Stage := .serving

inductive ServiceStep where
  /-- Something happens to the router. -/
  | router (step : RouterStep)
  /-- Someone begins to shut the router down. -/
  | close
  /-- An import that is waited for has a turn. -/
  | taken (collaborators : Collaborators) (index : Nat)
  /-- The end of an import that is waited for is noted. -/
  | join (index : Nat)
  /-- Whoever waits goes on to what is to be waited for next, unless it is too
  early. -/
  | proceed

def Entry.isMark {Job : Type} : Entry Job → Bool
  | job _ => false
  | mark _ => true

namespace Queue

/-- Does anyone wait for the worker? -/
def isMarked {Job : Type} (queue : Queue Job) : Bool :=
  queue.entries.any Entry.isMark

end Queue

namespace Router

/-- Puts a mark into the queue of a family. -/
def mark {σ : Type} (router : Router σ) (family : Family) : Router σ :=
  let queue := (router.center.queues.get family).mark 0
  { router with center := router.center.withQueue family queue }

end Router

namespace Service

variable {σ : Type}

def opened (setting : Setting) (host : σ) (order : FlushOrder) :
    Service σ where
  router := .ofConfig setting.config host
  order := order

/-- The imports that were taken out of the router and whose end was not noted
yet. -/
def taken (service : Service σ) : List ImportTask :=
  match service.stage with
  | .imports taken => taken
  | _ => []

/-- All imports whose end was not noted yet. -/
def imports (service : Service σ) : List ImportTask :=
  service.router.tasks ++ service.taken

def close (service : Service σ) : Service σ :=
  match service.stage with
  | .serving => { service with stage := .imports [] }
  | _ => service

def takenTurn (setting : Setting) (service : Service σ) (index : Nat) :
    Service σ :=
  match service.taken[index]? with
  | none => service
  | some task =>
      let (router, task) := service.router.taskTurn setting task
      { service with
        router
        stage := .imports (service.taken.set index task) }

def join (service : Service σ) (index : Nat) : Service σ :=
  match service.taken[index]? with
  | some .finished =>
      { service with stage := .imports (service.taken.eraseIdx index) }
  | some .crashed =>
      { service with
        router := service.router.record .importTaskFailed
        stage := .imports (service.taken.eraseIdx index) }
  | _ => service

/-- Takes the imports out of the router, to wait for them. -/
def takeOver (service : Service σ) : Service σ :=
  { service with
    router := { service.router with tasks := [] }
    stage := .imports service.router.tasks }

/-- Begins to wait for the queues of the families, one after another. -/
def await (service : Service σ) : List Family → Service σ
  | [] => { service with stage := .settled }
  | family :: families =>
      { service with
        router := service.router.mark family
        stage := .notifications family families }

def proceed (service : Service σ) : Service σ :=
  match service.stage with
  | .imports [] =>
      if service.router.tasks.isEmpty then
        service.await service.order.families
      else service.takeOver
  | .notifications family families =>
      if (service.router.center.queues.get family).isMarked then service
      else service.await families
  | _ => service

variable [NotificationHost σ]

def step (setting : Setting) (service : Service σ) :
    ServiceStep → Service σ
  | .router step => { service with router := service.router.step setting step }
  | .close => service.close
  | .taken collaborators index =>
      service.takenTurn { setting with collaborators } index
  | .join index => service.join index
  | .proceed => service.proceed

def run (setting : Setting) (service : Service σ) (steps : List ServiceStep) :
    Service σ :=
  steps.foldl (step setting) service

theorem run_append (setting : Setting) (service : Service σ)
    (first second : List ServiceStep) :
    service.run setting (first ++ second) =
      (service.run setting first).run setting second :=
  List.foldl_append

/-- While the router serves, only the router moves. -/
theorem run_map_router (setting : Setting) (service : Service σ)
    (steps : List RouterStep) :
    service.run setting (steps.map .router) =
      { service with router := service.router.run setting steps } := by
  induction steps generalizing service with
  | nil => rfl
  | cons step steps induction =>
      let router := service.router.step setting step
      exact induction { service with router }

end Service

/-! ## What a step can do -/

namespace Service

variable {σ : Type}

/-- It is time to wait for the queues of these families. -/
inductive Due (service : Service σ) : List Family → Prop where
  | first : service.stage = .imports [] → service.router.tasks = [] →
      Due service service.order.families
  | next {family : Family} {families : List Family} :
      service.stage = .notifications family families →
      (service.router.center.queues.get family).isMarked = false →
      Due service families

/-- What the steps of a service come to. -/
inductive Moves [NotificationHost σ] (setting : Setting)
    (service : Service σ) : ServiceStep → Service σ → Prop where
  | router (step : RouterStep) :
      Moves setting service (.router step)
        { service with router := service.router.step setting step }
  | close : service.stage = .serving →
      Moves setting service .close { service with stage := .imports [] }
  | turn (collaborators : Collaborators) {index : Nat} {task : ImportTask} :
      service.stage = .imports service.taken →
      service.taken[index]? = some task →
      Moves setting service (.taken collaborators index)
        { service with
          router :=
            (service.router.taskTurn { setting with collaborators } task).1
          stage := .imports (service.taken.set index
            (service.router.taskTurn { setting with collaborators } task).2) }
  | join {index : Nat} {task : ImportTask} (entries : List LogEntry) :
      service.stage = .imports service.taken →
      service.taken[index]? = some task → task.isRunning = false →
      Moves setting service (.join index)
        { service with
          router := entries.foldl Router.record service.router
          stage := .imports (service.taken.eraseIdx index) }
  | takeOver : service.stage = .imports [] →
      Moves setting service .proceed service.takeOver
  | await {families : List Family} : service.Due families →
      Moves setting service .proceed (service.await families)
  /-- There is nothing to do for the step. -/
  | nothing {step : ServiceStep} : (∀ own, step ≠ .router own) →
      (∀ collaborators index, step = .taken collaborators index →
        service.taken[index]? = none) →
      Moves setting service step service

theorem stage_of_taken {service : Service σ} {index : Nat} {task : ImportTask}
    (found : service.taken[index]? = some task) :
    service.stage = .imports service.taken := by
  unfold taken at found ⊢
  split
  · assumption
  · next other =>
      split at found
      · next stage => exact absurd stage (other _)
      · simp at found

variable [NotificationHost σ]

theorem moves_close (setting : Setting) (service : Service σ) :
    Moves setting service .close service.close := by
  unfold close
  split
  · next serving => exact .close serving
  · exact .nothing (by simp) (by simp)

theorem moves_takenTurn (setting : Setting) (service : Service σ)
    (collaborators : Collaborators) (index : Nat) :
    Moves setting service (.taken collaborators index)
      (service.takenTurn { setting with collaborators } index) := by
  unfold takenTurn
  cases found : service.taken[index]? with
  | none =>
      apply Moves.nothing
      · simp
      · rintro _ _ ⟨⟩
        exact found
  | some task => exact .turn collaborators (stage_of_taken found) found

theorem moves_join (setting : Setting) (service : Service σ) (index : Nat) :
    Moves setting service (.join index) (service.join index) := by
  unfold join
  cases found : service.taken[index]? with
  | none => exact .nothing (by simp) (by simp)
  | some task =>
      have stage := stage_of_taken found
      cases task with
      | running metadata inquiry => exact .nothing (by simp) (by simp)
      | finished => exact .join [] stage found rfl
      | crashed => exact .join [.importTaskFailed] stage found rfl

theorem moves_proceed (setting : Setting) (service : Service σ) :
    Moves setting service .proceed service.proceed := by
  unfold proceed
  split
  · next stage =>
      split
      · next none => exact .await (.first stage (List.isEmpty_iff.mp none))
      · exact .takeOver stage
  · next family families stage =>
      split
      · exact .nothing (by simp) (by simp)
      · next reached =>
          exact .await (.next stage (Bool.eq_false_iff.mpr reached))
  · exact .nothing (by simp) (by simp)

theorem moves_step (setting : Setting) (service : Service σ)
    (step : ServiceStep) :
    Moves setting service step (service.step setting step) := by
  cases step with
  | router step => exact .router step
  | close => exact moves_close setting service
  | taken collaborators index =>
      exact moves_takenTurn setting service collaborators index
  | join index => exact moves_join setting service index
  | proceed => exact moves_proceed setting service

end Service

end RemovableMedia
