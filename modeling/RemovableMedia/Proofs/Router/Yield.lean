import RemovableMedia.Proofs.Router.Service

/-!
# What comes of events and imports

Events and imports make requests about notifications, and they ask to navigate
somewhere.  What comes of an event depends on nothing but what the tracker knows
of earlier ones, and what comes of an import depends on its decision alone.
Anything of that kind is called a yield here, and is collected over a run in the
same way.
-/

namespace RemovableMedia

namespace HostEvent

/-- The volume for which the event starts an import. -/
def started? : HostEvent → Option VolumeMetadata
  | .mountCompleted event =>
      if Router.startsImport event then some event.volume else none
  | _ => none

theorem of_started? {event : HostEvent} {metadata : VolumeMetadata}
    (started : event.started? = some metadata) :
    ∃ result : MountCompleted, event = .mountCompleted result ∧
      Router.startsImport result = true ∧ result.volume = metadata := by
  cases event with
  | deviceChanged change => exact absurd started (Option.some_ne_none _).symm
  | mountCompleted result =>
      obtain ⟨starts, volume⟩ := Option.ite_none_right_eq_some.mp started
      exact ⟨result, rfl, starts, Option.some.inj volume⟩
  | buttonClicked click => exact absurd started (Option.some_ne_none _).symm

end HostEvent

def Router.clickNavigations (setting : Setting) (notificationId : String) :
    List NavigationRequest :=
  match NotificationId.parse? notificationId with
  | none => []
  | some id =>
      (clickTarget? setting id).toList.map fun (_, request) => request

/-- The requests to navigate that go with an event. -/
def HostEvent.navigations (setting : Setting) :
    HostEvent → List NavigationRequest
  | .buttonClicked event =>
      Router.clickNavigations setting event.notificationId
  | _ => []

/-- The request to navigate that goes with an import that came to this. -/
def ImportDecision.navigations :
    Except ImportFailure ImportDecision → List NavigationRequest
  | .ok (.openFolder volumeId folder) =>
      [.volumeFolder volumeId folder.fullPath]
  | .ok .companionHandles => []
  | .error _ => []

namespace ImportTask

/-- What is left of an import after one turn. -/
def afterTurn (collaborators : Collaborators) : ImportTask → ImportTask
  | running _ (.done _) => finished
  | running metadata (.report _ next) => running metadata next
  | running metadata (.ask query next) =>
      match collaborators query with
      | .done answer => running metadata (next (.ok answer))
      | .failed error => running metadata (next (.error error))
      | .panicked => crashed
  | finished => finished
  | crashed => crashed

end ImportTask

/-! ## Steps and their events -/

namespace RouterStep

def event? : RouterStep → Option HostEvent
  | .event happened => some happened
  | _ => none

/-- Whom the imports consult in the step. -/
def collaborators? : RouterStep → Option Collaborators
  | .turn collaborators (.task _) => some collaborators
  | .drain collaborators => some collaborators
  | _ => none

end RouterStep

namespace ServiceStep

def event? : ServiceStep → Option HostEvent
  | .router step => step.event?
  | _ => none

def collaborators? : ServiceStep → Option Collaborators
  | .router step => step.collaborators?
  | .taken collaborators _ => some collaborators
  | _ => none

theorem event?_of_ne {step : ServiceStep}
    (other : ∀ own, step ≠ .router own) : step.event? = none := by
  cases step with
  | router own => exact absurd rfl (other own)
  | close => rfl
  | taken collaborators index => rfl
  | join index => rfl
  | proceed => rfl

/-- The events of the steps, in order. -/
def events (steps : List ServiceStep) : List HostEvent :=
  steps.filterMap event?

theorem events_cons (step : ServiceStep) (steps : List ServiceStep) :
    events (step :: steps) = step.event?.toList ++ events steps := by
  cases happened : step.event? with
  | none => simp [events, happened]
  | some event => simp [events, happened]

theorem events_append (first second : List ServiceStep) :
    events (first ++ second) = events first ++ events second :=
  List.filterMap_append

end ServiceStep

/-- All that the tracker gets to know of a step is its event. -/
theorem RouterStep.trackerSteps_eq (step : RouterStep) :
    step.trackerSteps = step.event?.toList.flatMap HostEvent.trackerSteps := by
  cases step with
  | event happened => exact (List.append_nil _).symm
  | turn collaborators turn => rfl
  | drain collaborators => rfl
  | flush => rfl

namespace Service

variable {σ : Type} [NotificationHost σ]

theorem tracker_step (setting : Setting) (service : Service σ)
    (step : ServiceStep) :
    (service.step setting step).router.tracker =
      service.router.tracker.run
        (step.event?.toList.flatMap HostEvent.trackerSteps) := by
  have moves := service.moves_step setting step
  generalize service.step setting step = next at moves
  cases moves with
  | router own =>
      change (service.router.step setting own).tracker =
        service.router.tracker.run
          (own.event?.toList.flatMap HostEvent.trackerSteps)
      rw [← own.trackerSteps_eq]
      exact Router.tracker_step setting service.router own
  | close => rfl
  | turn => exact Router.tracker_taskTurn _ service.router _
  | join entries => exact Router.tracker_foldl_record entries service.router
  | takeOver => rfl
  | @await families due =>
      cases families with
      | nil => rfl
      | cons family families => rfl
  | nothing other =>
      rw [ServiceStep.event?_of_ne other]
      rfl

theorem tracker_run (setting : Setting) (service : Service σ)
    (steps : List ServiceStep) :
    (service.run setting steps).router.tracker = service.router.tracker.run
      ((ServiceStep.events steps).flatMap HostEvent.trackerSteps) := by
  induction steps generalizing service with
  | nil => rfl
  | cons step steps induction =>
      rw [ServiceStep.events_cons, List.flatMap_append, MountTracker.run,
        List.foldl_append]
      exact (induction (service.step setting step)).trans
        (congrArg (MountTracker.run · _) (tracker_step setting service step))

end Service

/-! ## Yields -/

/-- Something that may come of events, and of imports when they end. -/
structure Yield (β : Type) where
  ofEvent : MountTracker → HostEvent → List β
  /-- There is no decision when a collaborator panicked. -/
  ofEnd : VolumeMetadata → Option (Except ImportFailure ImportDecision) →
    List β

namespace Yield

variable {β : Type} (yield : Yield β)

/-- What comes of one turn of an import. -/
def ofTurn (collaborators : Collaborators) : ImportTask → List β
  | .running metadata (.done decision) => yield.ofEnd metadata (some decision)
  | .running metadata (.ask query _) =>
      match collaborators query with
      | .panicked => yield.ofEnd metadata none
      | _ => []
  | _ => []

/-- What comes of an import that runs to its end. -/
def ofTask (collaborators : Collaborators) : ImportTask → List β
  | .running metadata inquiry =>
      yield.ofEnd metadata (inquiry.run collaborators).result
  | _ => []

/-- A turn takes its part of what comes of the import. -/
theorem ofTask_eq (collaborators : Collaborators) (task : ImportTask) :
    yield.ofTask collaborators task = yield.ofTurn collaborators task ++
      yield.ofTask collaborators (task.afterTurn collaborators) := by
  rcases task with ⟨metadata, decision | ⟨entry, next⟩ | ⟨query, next⟩⟩ | _ | _
  · simp [ofTask, ofTurn, ImportTask.afterTurn, Inquiry.run]
  · simp [ofTask, ofTurn, ImportTask.afterTurn, Inquiry.run]
  · unfold ofTurn ImportTask.afterTurn
    cases answered : collaborators query with
    | done answer => simp [ofTask, Inquiry.run, answered]
    | failed error => simp [ofTask, Inquiry.run, answered]
    | panicked => simp [ofTask, Inquiry.run, answered]
  · rfl
  · rfl

theorem ofTask_of_not_running (collaborators : Collaborators)
    {task : ImportTask} (ended : task.isRunning = false) :
    yield.ofTask collaborators task = [] := by
  cases task with
  | running metadata inquiry => simp [ImportTask.isRunning] at ended
  | finished => rfl
  | crashed => rfl

/-- What comes of events, and of the imports that they start. -/
def ofEvents (ofStart : VolumeMetadata → List β) :
    MountTracker → List HostEvent → List β
  | _, [] => []
  | tracker, event :: events =>
      yield.ofEvent tracker event ++ event.started?.toList.flatMap ofStart ++
        ofEvents ofStart (tracker.run event.trackerSteps) events

theorem ofEvents_append (ofStart : VolumeMetadata → List β)
    (tracker : MountTracker) (first second : List HostEvent) :
    yield.ofEvents ofStart tracker (first ++ second) =
      yield.ofEvents ofStart tracker first ++ yield.ofEvents ofStart
        (tracker.run (first.flatMap HostEvent.trackerSteps)) second := by
  induction first generalizing tracker with
  | nil => rfl
  | cons event events induction =>
      rw [List.cons_append, ofEvents, ofEvents, induction,
        List.append_assoc _ _ (ofEvents _ _ _ _), List.flatMap_cons,
        MountTracker.run, MountTracker.run, MountTracker.run,
        List.foldl_append]

variable {σ : Type}

def ofRouterStep (router : Router σ) : RouterStep → List β
  | .event event => yield.ofEvent router.tracker event
  | .turn collaborators (.task index) =>
      (router.tasks[index]?).elim [] (yield.ofTurn collaborators)
  | .turn _ (.worker _) => []
  | .drain collaborators => router.tasks.flatMap (yield.ofTask collaborators)
  | .flush => []

def ofStep (service : Service σ) : ServiceStep → List β
  | .router step => yield.ofRouterStep service.router step
  | .taken collaborators index =>
      (service.taken[index]?).elim [] (yield.ofTurn collaborators)
  | _ => []

theorem ofStep_taken {service : Service σ} {index : Nat} {task : ImportTask}
    (found : service.taken[index]? = some task)
    (collaborators : Collaborators) :
    yield.ofStep service (.taken collaborators index) =
      yield.ofTurn collaborators task := by
  simp [ofStep, found]

/-- Where there is nothing to do, nothing comes of it. -/
theorem ofStep_of_idle {service : Service σ} {step : ServiceStep}
    (other : ∀ own, step ≠ .router own)
    (idle : ∀ collaborators index, step = .taken collaborators index →
      service.taken[index]? = none) :
    yield.ofStep service step = [] := by
  cases step with
  | router own => exact absurd rfl (other own)
  | taken collaborators index => simp [ofStep, idle collaborators index rfl]
  | close => rfl
  | join index => rfl
  | proceed => rfl

variable [NotificationHost σ]

/-- What comes of a run, in order. -/
def ofRun (setting : Setting) (service : Service σ) :
    List ServiceStep → List β
  | [] => []
  | step :: steps =>
      yield.ofStep service step ++
        ofRun setting (service.step setting step) steps

theorem ofRun_append (setting : Setting) (service : Service σ)
    (first second : List ServiceStep) :
    yield.ofRun setting service (first ++ second) =
      yield.ofRun setting service first ++
        yield.ofRun setting (service.run setting first) second := by
  induction first generalizing service with
  | nil => rfl
  | cons step steps induction =>
      rw [List.cons_append, ofRun, ofRun, induction, List.append_assoc]
      rfl

/-! ### Requests, navigation and ends -/

/-- The requests about notifications. -/
def requests (setting : Setting) : Yield Request where
  -- The router is one without a host: what an event asks for depends on nothing
  -- but the tracker.
  ofEvent tracker event :=
    Router.requests setting
      { Router.ofConfig setting.config () with tracker } event
  ofEnd metadata decision? :=
    decision?.elim [] (ImportDecision.requests metadata)

/-- The requests to navigate. -/
def navigations (setting : Setting) : Yield NavigationRequest where
  ofEvent _ event := event.navigations setting
  ofEnd _ decision? := decision?.elim [] ImportDecision.navigations

/-- The imports that end. -/
def ends : Yield VolumeMetadata where
  ofEvent _ _ := []
  ofEnd metadata _ := [metadata]

section Requests

variable {σ : Type} (setting : Setting) (router : Router σ)

theorem requests_ofEvent (event : HostEvent) :
    (requests setting).ofEvent router.tracker event =
      router.requests setting event := by
  cases event <;> rfl

theorem requests_ofTurn (collaborators : Collaborators) (task : ImportTask) :
    (requests setting).ofTurn collaborators task = task.turnRequests := by
  rcases task with ⟨metadata, decision | ⟨entry, next⟩ | ⟨query, next⟩⟩ | _ | _
  · rfl
  · rfl
  · simp only [ofTurn, ImportTask.turnRequests]
    split <;> rfl
  · rfl
  · rfl

theorem requests_ofTask (collaborators : Collaborators) (task : ImportTask) :
    (requests setting).ofTask collaborators task =
      task.finalRequests collaborators := by
  cases task <;> rfl

theorem requests_ofRouterStep (step : RouterStep) :
    (requests setting).ofRouterStep router step =
      router.stepRequests setting step := by
  rcases step with event | ⟨collaborators, family | index⟩ | collaborators | _
  · exact requests_ofEvent setting router event
  · rfl
  · simp only [ofRouterStep, Router.stepRequests]
    cases router.tasks[index]? with
    | none => rfl
    | some task => exact requests_ofTurn setting collaborators task
  · have final := funext (requests_ofTask setting collaborators)
    simp only [ofRouterStep, Router.stepRequests, final]
  · rfl

end Requests

end Yield

end RemovableMedia
