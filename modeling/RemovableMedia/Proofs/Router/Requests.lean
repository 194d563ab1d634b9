import RemovableMedia.Router.Schedule
import RemovableMedia.Proofs.Mount.Run
import RemovableMedia.Proofs.Notification.Request

/-!
# Requests of the router

All that the router does about notifications is to make requests to its
center.  Here is written down which ones, and in which order: for every event
and for every import.
-/

namespace RemovableMedia

def DeviceChanged.requests (event : DeviceChanged) : List Request :=
  match event.change with
  | .disabled => [.show .deviceExternalStorageDisabled event.devicePath none]
  | .removed =>
      [.hide .deviceFail event.devicePath,
        .hide .deviceExternalStorageDisabled event.devicePath]
  | .hardUnplugged => [.show .deviceHardUnplugged event.devicePath none]
  | .formatStart => [.show .formatStart event.devicePath none]
  | .formatSuccess =>
      [.hide .formatStart event.devicePath,
        .show .formatSuccess event.devicePath none]
  | .formatFail =>
      [.hide .formatStart event.devicePath,
        .show .formatFail event.devicePath none]
  | .unknown _ => []

/-- The request that goes with an import that came to this. -/
def ImportDecision.requests (metadata : VolumeMetadata) :
    Except ImportFailure ImportDecision → List Request
  | .ok _ => []
  | .error _ =>
      metadata.notifiableDevicePath?.toList.map fun path =>
        .show .deviceNavigation path none

namespace ImportTask

def turnRequests : ImportTask → List Request
  | running metadata (.done decision) =>
      ImportDecision.requests metadata decision
  | _ => []

/-- The requests that an import makes when it runs to its end. -/
def finalRequests (collaborators : Collaborators) : ImportTask → List Request
  | running metadata inquiry =>
      (inquiry.run collaborators).result.elim []
        (ImportDecision.requests metadata)
  | _ => []

end ImportTask

namespace Router

variable {σ : Type}

def clickRequests (setting : Setting) (notificationId : String) :
    List Request :=
  match NotificationId.parse? notificationId with
  | none => []
  | some id =>
      (clickTarget? setting id).toList.map fun (kind, _) =>
        .hide kind id.devicePath

/-- The requests that go with an event. -/
def requests (setting : Setting) (router : Router σ) :
    HostEvent → List Request
  | .deviceChanged event => event.requests
  | .mountCompleted event =>
      (unmountedPath? event).toList.map (.hide .deviceNavigation) ++
        (router.tracker.emittedBy (.apply event)).map
          (Request.ofAction setting.config.messages)
  | .buttonClicked event => clickRequests setting event.notificationId

/-- What a router does to its center and the host when it makes requests. -/
structure Makes (requests : List Request) (router next : Router σ) :
    Prop where
  center : next.center = router.center.requestAll requests
  host : next.desk.host = router.desk.host

namespace Makes

variable {first second : List Request} {router middle next : Router σ}

theorem trans (early : Makes first router middle)
    (late : Makes second middle next) :
    Makes (first ++ second) router next := by
  constructor
  · rw [late.center, early.center]
    exact List.foldl_append.symm
  · rw [late.host, early.host]

theorem after {start : Router σ} (made : Makes first start next)
    (center : start.center = router.center)
    (host : start.desk.host = router.desk.host) : Makes first router next := by
  constructor
  · rw [made.center, center]
  · rw [made.host, host]

end Makes

theorem makes_requestHide (router : Router σ) (kind : NotificationKind)
    (path : String) :
    Makes [.hide kind path] router (router.requestHide kind path) :=
  ⟨rfl, rfl⟩

theorem makes_record (router : Router σ) (entry : LogEntry) :
    Makes [] router (router.record entry) :=
  ⟨rfl, rfl⟩

theorem makes_send (router : Router σ) (request : NavigationRequest) :
    Makes [] router (router.send request) := by
  unfold send
  split
  · exact ⟨rfl, rfl⟩
  · exact ⟨rfl, rfl⟩

theorem makes_forget (router : Router σ) (path : String) :
    Makes [] router (router.forget path) := by
  unfold forget
  simp only
  split
  · exact ⟨rfl, rfl⟩
  · exact ⟨rfl, rfl⟩

theorem makes_deviceChanged (router : Router σ) (event : DeviceChanged) :
    Makes event.requests router (router.deviceChanged event) := by
  unfold deviceChanged DeviceChanged.requests
  cases event.change with
  | disabled => exact ⟨rfl, rfl⟩
  | removed =>
      have noted := makes_record router
        (.deviceEvent DeviceChange.removed.code event.devicePath)
      have first := noted.trans
        (makes_requestHide _ .deviceFail event.devicePath)
      have both := first.trans
        (makes_requestHide _ .deviceExternalStorageDisabled event.devicePath)
      exact both.trans (makes_forget _ event.devicePath)
  | hardUnplugged => exact ⟨rfl, rfl⟩
  | formatStart => exact ⟨rfl, rfl⟩
  | formatSuccess => exact ⟨rfl, rfl⟩
  | formatFail => exact ⟨rfl, rfl⟩
  | unknown code => exact ⟨rfl, rfl⟩

theorem makes_execute (setting : Setting) (router : Router σ)
    (action : NotificationAction) :
    Makes [.ofAction setting.config.messages action] router
      (router.execute setting action) := by
  rcases action with ⟨kind, path, message⟩ | ⟨kind, path⟩
  · exact ⟨rfl, rfl⟩
  · exact ⟨rfl, rfl⟩

theorem makes_foldl_execute (setting : Setting)
    (actions : List NotificationAction) (router : Router σ) :
    Makes (actions.map (Request.ofAction setting.config.messages)) router
      (actions.foldl (execute setting) router) := by
  induction actions generalizing router with
  | nil => exact ⟨rfl, rfl⟩
  | cons action actions induction =>
      exact (makes_execute setting router action).trans
        (induction (router.execute setting action))

theorem makes_track (setting : Setting) (router : Router σ)
    (event : MountCompleted) :
    Makes ((router.tracker.emittedBy (.apply event)).map
      (Request.ofAction setting.config.messages)) router
      (router.track setting event) := by
  unfold track MountTracker.emittedBy
  cases relevant : event.relevantPath? with
  | none => simpa [MountTracker.apply, relevant] using ⟨rfl, rfl⟩
  | some path =>
      simp only [MountTracker.apply, relevant, Option.map_some,
        Option.getD_some]
      split
      · exact (makes_foldl_execute setting _ _).after rfl rfl
      · exact (makes_foldl_execute setting _ _).after rfl rfl

theorem unmountedPath?_of_startsImport {event : MountCompleted}
    (starts : startsImport event = true) : unmountedPath? event = none := by
  unfold startsImport at starts
  unfold unmountedPath?
  simp only [Bool.and_eq_true, decide_eq_true_eq] at starts
  simp [starts.2]

theorem makes_mountCompleted (setting : Setting) (router : Router σ)
    (event : MountCompleted) :
    Makes (router.requests setting (.mountCompleted event)) router
      (router.mountCompleted setting event) := by
  simp only [mountCompleted, requests]
  by_cases starts : startsImport event = true
  · rw [if_pos starts, unmountedPath?_of_startsImport starts]
    have tracked :=
      makes_track setting (router.startImport setting event.volume) event
    exact tracked.after rfl rfl
  · rw [if_neg starts]
    cases unmountedPath? event with
    | none => exact makes_track setting router event
    | some path =>
        have hidden := makes_requestHide router .deviceNavigation path
        exact hidden.trans (makes_track setting
          (router.requestHide .deviceNavigation path) event)

theorem makes_buttonClicked (setting : Setting) (router : Router σ)
    (notificationId : String) :
    Makes (clickRequests setting notificationId) router
      (router.buttonClicked setting notificationId) := by
  unfold clickRequests buttonClicked
  cases NotificationId.parse? notificationId with
  | none => exact makes_record router _
  | some id =>
      simp only
      cases clickTarget? setting id with
      | none => exact makes_record router _
      | some target =>
          have hidden := (makes_requestHide router target.1 id.devicePath).trans
            (makes_record _ (.navigationRequested target.2))
          exact hidden.trans (makes_send _ target.2)

theorem makes_dispatch (setting : Setting) (router : Router σ)
    (event : HostEvent) :
    Makes (router.requests setting event) router
      (router.dispatch setting event) := by
  cases event with
  | deviceChanged event => exact makes_deviceChanged router event
  | mountCompleted event => exact makes_mountCompleted setting router event
  | buttonClicked event =>
      exact makes_buttonClicked setting router event.notificationId

/-! ## Imports -/

theorem makes_conclude (router : Router σ) (metadata : VolumeMetadata)
    (decision : Except ImportFailure ImportDecision) :
    Makes (ImportDecision.requests metadata decision) router
      (router.conclude metadata decision) := by
  unfold conclude ImportDecision.requests
  rcases decision with failure | ⟨volumeId, folder⟩ | _
  · simp only
    cases metadata.notifiableDevicePath? with
    | none => exact ⟨rfl, rfl⟩
    | some path => exact ⟨rfl, rfl⟩
  · exact (makes_record router _).trans (makes_send _ _)
  · exact makes_record router _

theorem makes_taskTurn (setting : Setting) (router : Router σ)
    (task : ImportTask) :
    Makes task.turnRequests router (router.taskTurn setting task).1 := by
  rcases task with ⟨metadata, decision | ⟨entry, next⟩ | ⟨query, next⟩⟩ | _ | _
  · exact makes_conclude router metadata decision
  · exact makes_record router entry
  · simp only [taskTurn]
    split
    · exact ⟨rfl, rfl⟩
    · exact ⟨rfl, rfl⟩
    · exact ⟨rfl, rfl⟩
  · exact ⟨rfl, rfl⟩
  · exact ⟨rfl, rfl⟩

theorem makes_turn_task [NotificationHost σ] (setting : Setting)
    (router : Router σ) (index : Nat) :
    Makes ((router.tasks[index]?).elim [] ImportTask.turnRequests) router
      (router.turn setting (.task index)) := by
  simp only [turn]
  cases router.tasks[index]? with
  | none => exact ⟨rfl, rfl⟩
  | some task =>
      have made := makes_taskTurn setting router task
      exact ⟨made.center, made.host⟩

theorem makes_foldl_record (entries : List LogEntry) (router : Router σ) :
    Makes [] router (entries.foldl record router) := by
  rw [foldl_record, Desk.foldl_record]
  exact ⟨rfl, rfl⟩

theorem makes_finishTask (setting : Setting) (router : Router σ)
    (task : ImportTask) :
    Makes (task.finalRequests setting.collaborators) router
      (router.finishTask setting task) := by
  rcases task with ⟨metadata, inquiry⟩ | _ | _
  · let findings := inquiry.run setting.collaborators
    have noted : Makes [] router (findings.log.foldl record
        { router with queries := router.queries ++ findings.queries }) :=
      (makes_foldl_record findings.log _).after rfl rfl
    simp only [finishTask, ImportTask.finalRequests]
    cases result : (inquiry.run setting.collaborators).result with
    | none => exact noted.trans (makes_record _ _)
    | some decision => exact noted.trans (makes_conclude _ metadata decision)
  · exact ⟨rfl, rfl⟩
  · exact makes_record router _

theorem makes_foldl_finishTask (setting : Setting) (tasks : List ImportTask)
    (router : Router σ) :
    Makes (tasks.flatMap (ImportTask.finalRequests setting.collaborators))
      router (tasks.foldl (finishTask setting) router) := by
  induction tasks generalizing router with
  | nil => exact ⟨rfl, rfl⟩
  | cons task tasks induction =>
      rw [List.flatMap_cons]
      exact (makes_finishTask setting router task).trans
        (induction (router.finishTask setting task))

/-- Waiting for the imports makes the requests that each of them still has to
make. -/
theorem makes_drain (setting : Setting) (router : Router σ) :
    Makes (router.tasks.flatMap
      (ImportTask.finalRequests setting.collaborators)) router
      (router.drain setting) :=
  (makes_foldl_finishTask setting router.tasks
    { router with tasks := [] }).after rfl rfl

/-- Imports make requests about the navigation notification only. -/
theorem kind_of_mem_requests {metadata : VolumeMetadata}
    {decision : Except ImportFailure ImportDecision} {request : Request}
    (member : request ∈ ImportDecision.requests metadata decision) :
    request.kind = .deviceNavigation := by
  rcases decision with failure | decision
  · simp only [ImportDecision.requests, List.mem_map] at member
    obtain ⟨path, _, rfl⟩ := member
    rfl
  · simp [ImportDecision.requests] at member

theorem kind_of_mem_turnRequests {task : ImportTask} {request : Request}
    (member : request ∈ task.turnRequests) :
    request.kind = .deviceNavigation := by
  unfold ImportTask.turnRequests at member
  split at member
  · exact kind_of_mem_requests member
  · simp at member

theorem kind_of_mem_finalRequests {collaborators : Collaborators}
    {task : ImportTask} {request : Request}
    (member : request ∈ task.finalRequests collaborators) :
    request.kind = .deviceNavigation := by
  unfold ImportTask.finalRequests at member
  split at member
  · next metadata inquiry =>
      cases result : (inquiry.run collaborators).result with
      | none => simp [result] at member
      | some decision =>
          rw [result] at member
          exact kind_of_mem_requests member
  · simp at member

end Router

end RemovableMedia
