import RemovableMedia.Proofs.Router.Yield

/-!
# Imports and navigation

Events start imports and send requests to navigate, and imports send some at
their end.  Nothing else that a router does reaches its imports and its outbox.
-/

namespace RemovableMedia

namespace Outbox

/-- The outbox after more requests were sent.  A closed one drops them. -/
def take (outbox : Outbox) (sent : List NavigationRequest) : Outbox :=
  if outbox.isOpen then
    { outbox with requests := outbox.requests ++ sent }
  else outbox

@[simp] theorem take_nil (outbox : Outbox) : outbox.take [] = outbox := by
  obtain ⟨isOpen, requests⟩ := outbox
  cases isOpen with
  | true => simp [take]
  | false => rfl

theorem take_append (outbox : Outbox) (first second : List NavigationRequest) :
    outbox.take (first ++ second) = (outbox.take first).take second := by
  obtain ⟨isOpen, requests⟩ := outbox
  cases isOpen with
  | true => simp [take]
  | false => rfl

end Outbox

namespace Router

open Yield

variable {σ : Type}

/-- The router sends these requests to navigate, and its imports stay as they
are. -/
structure Sends (sent : List NavigationRequest) (router next : Router σ) :
    Prop where
  tasks : next.tasks = router.tasks
  outbox : next.outbox = router.outbox.take sent

namespace Sends

variable {first second : List NavigationRequest}
  {router middle next : Router σ}

theorem none (tasks : next.tasks = router.tasks)
    (outbox : next.outbox = router.outbox) : Sends [] router next :=
  ⟨tasks, outbox.trans (Outbox.take_nil _).symm⟩

theorem trans (early : Sends first router middle)
    (late : Sends second middle next) :
    Sends (first ++ second) router next := by
  constructor
  · rw [late.tasks, early.tasks]
  · rw [late.outbox, early.outbox, Outbox.take_append]

end Sends

/-- All that something leaves behind are a center and requests to navigate; what
the router knows of devices and imports stays as it is, and so does the host. -/
structure Leaves (center : Center) (sent : List NavigationRequest)
    (router next : Router σ) : Prop where
  center : next.center = center
  outbox : next.outbox = router.outbox.take sent
  host : next.desk.host = router.desk.host
  tracker : next.tracker = router.tracker
  tasks : next.tasks = router.tasks

theorem Leaves.of_makes {requests : List Request}
    {sent : List NavigationRequest} {router next : Router σ}
    (made : Makes requests router next) (sends : Sends sent router next)
    (tracker : next.tracker = router.tracker) :
    Leaves (router.center.requestAll requests) sent router next :=
  ⟨made.center, sends.outbox, made.host, tracker, sends.tasks⟩

theorem sends_record (router : Router σ) (entry : LogEntry) :
    Sends [] router (router.record entry) := .none rfl rfl

theorem sends_requestShow (router : Router σ) (kind : NotificationKind)
    (path : String) (message : Option String) :
    Sends [] router (router.requestShow kind path message) := .none rfl rfl

theorem sends_requestHide (router : Router σ) (kind : NotificationKind)
    (path : String) :
    Sends [] router (router.requestHide kind path) := .none rfl rfl

theorem sends_send (router : Router σ) (request : NavigationRequest) :
    Sends [request] router (router.send request) := by
  unfold send
  constructor
  · split <;> rfl
  · cases isOpen : router.outbox.isOpen with
    | true => simp [Outbox.take, isOpen]
    | false => simp [Outbox.take, isOpen, record]

theorem sends_foldl_record (entries : List LogEntry) (router : Router σ) :
    Sends [] router (entries.foldl record router) := by
  rw [foldl_record]
  exact .none rfl rfl

/-! ## Events -/

theorem sends_deviceChanged (router : Router σ) (event : DeviceChanged) :
    Sends [] router (router.deviceChanged event) := by
  unfold deviceChanged
  cases event.change with
  | removed =>
      apply Sends.none
      · unfold forget
        simp only
        split <;> rfl
      · unfold forget
        simp only
        split <;> rfl
  | disabled => exact .none rfl rfl
  | hardUnplugged => exact .none rfl rfl
  | formatStart => exact .none rfl rfl
  | formatSuccess => exact .none rfl rfl
  | formatFail => exact .none rfl rfl
  | unknown code => exact .none rfl rfl

theorem sends_foldl_execute (setting : Setting)
    (actions : List NotificationAction) (router : Router σ) :
    Sends [] router (actions.foldl (execute setting) router) := by
  induction actions generalizing router with
  | nil => exact .none rfl rfl
  | cons action actions induction =>
      have first : Sends [] router (router.execute setting action) := by
        cases action with
        | «show» kind path message => exact sends_requestShow router kind path _
        | hide kind path => exact sends_requestHide router kind path
      exact first.trans (induction (router.execute setting action))

theorem sends_track (setting : Setting) (router : Router σ)
    (event : MountCompleted) :
    Sends [] router (router.track setting event) := by
  unfold track
  simp only
  split
  · next path update _ _ =>
      have noted : Sends [] router
          (if router.mountStatus path = .multipartError then
            { router with tracker := (router.tracker.apply event).2 }
          else { router with tracker := (router.tracker.apply event).2 }.record
            (.statusChanged path (router.mountStatus path) update.status)) := by
        split
        · exact .none rfl rfl
        · exact .none rfl rfl
      exact noted.trans (sends_foldl_execute setting update.actions _)
  · exact .none rfl rfl

theorem sends_buttonClicked (setting : Setting) (router : Router σ)
    (notificationId : String) :
    Sends (clickNavigations setting notificationId) router
      (router.buttonClicked setting notificationId) := by
  unfold clickNavigations buttonClicked
  cases NotificationId.parse? notificationId with
  | none => exact sends_record router _
  | some id =>
      simp only
      cases clickTarget? setting id with
      | none => exact sends_record router _
      | some target =>
          have hidden := (sends_requestHide router target.1 id.devicePath).trans
            (sends_record _ (.navigationRequested target.2))
          exact hidden.trans (sends_send _ target.2)

/-- An import is started after those that are over were dropped. -/
theorem tasks_dispatch (setting : Setting) (router : Router σ)
    (event : HostEvent) :
    (router.dispatch setting event).tasks =
      match event.started? with
      | some metadata => router.tasks.filter ImportTask.isRunning ++
          [ImportTask.start setting.config.mediaFolders metadata]
      | none => router.tasks := by
  rcases event with change | result | click
  · exact (sends_deviceChanged router change).tasks
  · simp only [dispatch, mountCompleted, (sends_track setting _ result).tasks,
      HostEvent.started?]
    split
    · rfl
    · split <;> rfl
  · exact (sends_buttonClicked setting router click.notificationId).tasks

theorem outbox_dispatch (setting : Setting) (router : Router σ)
    (event : HostEvent) :
    (router.dispatch setting event).outbox =
      router.outbox.take (event.navigations setting) := by
  rcases event with change | result | click
  · exact (sends_deviceChanged router change).outbox
  · simp only [dispatch, mountCompleted, (sends_track setting _ result).outbox,
      HostEvent.navigations, Outbox.take_nil]
    split
    · rfl
    · split <;> rfl
  · exact (sends_buttonClicked setting router click.notificationId).outbox

/-! ## Imports -/

theorem sends_conclude (router : Router σ) (metadata : VolumeMetadata)
    (decision : Except ImportFailure ImportDecision) :
    Sends (ImportDecision.navigations decision) router
      (router.conclude metadata decision) := by
  unfold conclude
  rcases decision with failure | ⟨volumeId, folder⟩ | _
  · simp only
    cases metadata.notifiableDevicePath? with
    | none => exact sends_record router _
    | some path =>
        exact (sends_record router _).trans (sends_requestShow _ _ path none)
  · exact (sends_record router _).trans (sends_send _ _)
  · exact sends_record router _

theorem taskTurn_snd (setting : Setting) (router : Router σ)
    (task : ImportTask) :
    (router.taskTurn setting task).2 =
      task.afterTurn setting.collaborators := by
  rcases task with ⟨metadata, decision | ⟨entry, next⟩ | ⟨query, next⟩⟩ | _ | _
  · rfl
  · rfl
  · unfold taskTurn ImportTask.afterTurn
    cases answered : setting.collaborators query with
    | done answer => simp [answered]
    | failed error => simp [answered]
    | panicked => simp [answered]
  · rfl
  · rfl

theorem sends_taskTurn (setting : Setting) (router : Router σ)
    (task : ImportTask) :
    Sends ((navigations setting).ofTurn setting.collaborators task) router
      (router.taskTurn setting task).1 := by
  rcases task with ⟨metadata, decision | ⟨entry, next⟩ | ⟨query, next⟩⟩ | _ | _
  · exact sends_conclude router metadata decision
  · exact sends_record router entry
  · unfold taskTurn ofTurn
    cases answered : setting.collaborators query with
    | done answer => simpa [answered] using .none rfl rfl
    | failed error => simpa [answered] using .none rfl rfl
    | panicked => simpa [answered] using .none rfl rfl
  · exact .none rfl rfl
  · exact .none rfl rfl

theorem sends_finishTask (setting : Setting) (router : Router σ)
    (task : ImportTask) :
    Sends ((navigations setting).ofTask setting.collaborators task) router
      (router.finishTask setting task) := by
  rcases task with ⟨metadata, inquiry⟩ | _ | _
  · let findings := inquiry.run setting.collaborators
    have asked : Sends [] router
        { router with queries := router.queries ++ findings.queries } :=
      .none rfl rfl
    have noted := asked.trans (sends_foldl_record findings.log _)
    simp only [finishTask, ofTask]
    cases (inquiry.run setting.collaborators).result with
    | none => exact noted.trans (sends_record _ _)
    | some decision => exact noted.trans (sends_conclude _ metadata decision)
  · exact .none rfl rfl
  · exact sends_record router _

theorem sends_foldl_finishTask (setting : Setting) (tasks : List ImportTask)
    (router : Router σ) :
    Sends (tasks.flatMap
      ((navigations setting).ofTask setting.collaborators))
      router (tasks.foldl (finishTask setting) router) := by
  induction tasks generalizing router with
  | nil => exact .none rfl rfl
  | cons task tasks induction =>
      rw [List.flatMap_cons]
      exact (sends_finishTask setting router task).trans
        (induction (router.finishTask setting task))

/-- Waiting for the imports sends what each of them still has to send, and
leaves no import. -/
theorem sends_drain (setting : Setting) (router : Router σ) :
    Sends (router.tasks.flatMap
      ((navigations setting).ofTask setting.collaborators))
      { router with tasks := [] } (router.drain setting) :=
  sends_foldl_finishTask setting router.tasks { router with tasks := [] }

/-! ## Steps -/

section Step

variable [NotificationHost σ]

/-- The outbox gets what comes of each step. -/
theorem outbox_step (setting : Setting) (router : Router σ)
    (step : RouterStep) :
    (router.step setting step).outbox =
      router.outbox.take ((navigations setting).ofRouterStep router step) := by
  rcases step with event | ⟨collaborators, family | index⟩ | collaborators | _
  · exact outbox_dispatch setting router event
  · exact (Outbox.take_nil _).symm
  · simp only [Router.step, turn, ofRouterStep]
    cases router.tasks[index]? with
    | none => exact (Outbox.take_nil _).symm
    | some task =>
        exact (sends_taskTurn { setting with collaborators } router task).outbox
  · exact (sends_drain { setting with collaborators } router).outbox
  · exact (Outbox.take_nil _).symm

end Step

end Router

namespace Service

open Yield

variable {σ : Type} [NotificationHost σ]

theorem outbox_step (setting : Setting) (service : Service σ)
    (step : ServiceStep) :
    (service.step setting step).router.outbox =
      service.router.outbox.take
        ((navigations setting).ofStep service step) := by
  have moves := service.moves_step setting step
  generalize service.step setting step = next at moves
  cases moves with
  | router own => exact Router.outbox_step setting service.router own
  | close => exact (Outbox.take_nil _).symm
  | turn collaborators stage found =>
      rw [ofStep_taken _ found]
      exact (Router.sends_taskTurn { setting with collaborators }
        service.router _).outbox
  | join entries =>
      exact (Router.sends_foldl_record entries service.router).outbox
  | takeOver => exact (Outbox.take_nil _).symm
  | @await families due =>
      cases families with
      | nil => exact (Outbox.take_nil _).symm
      | cons family families => exact (Outbox.take_nil _).symm
  | nothing other idle =>
      rw [ofStep_of_idle _ other idle, Outbox.take_nil]

theorem outbox_run (setting : Setting) (service : Service σ)
    (steps : List ServiceStep) :
    (service.run setting steps).router.outbox =
      service.router.outbox.take
        ((navigations setting).ofRun setting service steps) := by
  induction steps generalizing service with
  | nil => exact (Outbox.take_nil _).symm
  | cons step steps induction =>
      rw [ofRun, Outbox.take_append, ← outbox_step]
      exact induction (service.step setting step)

end Service

end RemovableMedia
