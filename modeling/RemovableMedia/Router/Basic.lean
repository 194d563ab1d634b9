import RemovableMedia.Import.Pipeline
import RemovableMedia.Notification.Center

/-!
# Routing events

The router takes in one event after another.  What an event means for the
mount status of its device is settled at once; notifications go to the queues
of the center, and imports run as tasks of their own.  Workers and tasks take
turns between events in any order.
-/

namespace RemovableMedia

/-- Where navigation requests go, as long as someone takes them. -/
structure Outbox where
  isOpen : Bool := true
  requests : List NavigationRequest := []
  deriving DecidableEq, Repr

/-- What does not change while a router works. -/
structure Setting where
  config : HandlerConfig := {}
  collaborators : Collaborators

/-- All that the handler keeps between two events. -/
structure Router (σ : Type) where
  tracker : MountTracker := {}
  center : Center
  desk : Desk σ
  /-- The imports that were started and not yet waited for, in order. -/
  tasks : List ImportTask := []
  outbox : Outbox := {}
  /-- The questions that collaborators were asked, in order. -/
  queries : List ImportQuery := []

namespace Router

variable {σ : Type}

/-- A router to which nothing has happened. -/
def ofConfig (config : HandlerConfig) (host : σ) : Router σ where
  center := .ofConfig config
  desk := { host }

/-- What the results for a device amount to. -/
def mountStatus (router : Router σ) (devicePath : String) : MountStatus :=
  router.tracker.status devicePath

def record (router : Router σ) (entry : LogEntry) : Router σ :=
  { router with desk := router.desk.record entry }

theorem foldl_record (entries : List LogEntry) (router : Router σ) :
    entries.foldl record router =
      { router with desk := entries.foldl Desk.record router.desk } := by
  induction entries generalizing router with
  | nil => rfl
  | cons entry entries induction => exact induction (router.record entry)

/-! ## Orders and requests -/

/-- Orders to show the notification of a kind for a device, with another message
if one is given. -/
def requestShow (router : Router σ) (kind : NotificationKind)
    (devicePath : String) (message : Option String := none) : Router σ :=
  { router with center := router.center.requestShow kind devicePath message }
    |>.record (.queueingShow (kind.idFor devicePath).text)

/-- Orders to remove the notification of a kind for a device. -/
def requestHide (router : Router σ) (kind : NotificationKind)
    (devicePath : String) : Router σ :=
  { router with center := router.center.requestHide kind devicePath }
    |>.record (.queueingHide (kind.idFor devicePath).text)

/-- Hands a request on, or drops it when nobody takes it any more. -/
def send (router : Router σ) (request : NavigationRequest) : Router σ :=
  if router.outbox.isOpen then
    { router with outbox.requests := router.outbox.requests ++ [request] }
  else
    router.record .navigationDropped

/-! ## Device changes -/

/-- Forgets the results for a device. -/
def forget (router : Router σ) (devicePath : String) : Router σ :=
  let (status, tracker) := router.tracker.remove devicePath
  let router := { router with tracker }
  match status with
  | some status => router.record (.statusForgotten devicePath status)
  | none => router

/-- What becomes of a device that changed. -/
def deviceChanged (router : Router σ) (event : DeviceChanged) : Router σ :=
  let path := event.devicePath
  let router := router.record (.deviceEvent event.change.code path)
  match event.change with
  | .disabled => router.requestShow .deviceExternalStorageDisabled path
  | .removed =>
      router.requestHide .deviceFail path
        |>.requestHide .deviceExternalStorageDisabled path
        |>.forget path
  | .hardUnplugged => router.requestShow .deviceHardUnplugged path
  | .formatStart => router.requestShow .formatStart path
  | .formatSuccess =>
      router.requestHide .formatStart path |>.requestShow .formatSuccess path
  | .formatFail =>
      router.requestHide .formatStart path |>.requestShow .formatFail path
  | .unknown code => router.record (.unknownChange code)

/-! ## Mount results -/

/-- Carries out an action of the tracker. -/
def execute (setting : Setting) (router : Router σ) :
    NotificationAction → Router σ
  | .show kind path message =>
      router.requestShow kind path
        (message.map setting.config.messages.render)
  | .hide kind path => router.requestHide kind path

/-- Starts an import.  Tasks that are over are dropped first. -/
def startImport (setting : Setting) (router : Router σ)
    (metadata : VolumeMetadata) : Router σ :=
  let task := ImportTask.start setting.config.mediaFolders metadata
  { router with tasks := router.tasks.filter ImportTask.isRunning ++ [task] }

/-- Lets the tracker know of a result and carries out what it says. -/
def track (setting : Setting) (router : Router σ) (event : MountCompleted) :
    Router σ :=
  let (update, tracker) := router.tracker.apply event
  match event.relevantPath?, update with
  | some path, some update =>
      let old := router.mountStatus path
      let router := { router with tracker }
      let router :=
        if old = .multipartError then router
        else router.record (.statusChanged path old update.status)
      update.actions.foldl (execute setting) router
  | _, _ => router

/-- Does the event start an import? -/
def startsImport (event : MountCompleted) : Bool :=
  event.outcome.isSuccess && event.shouldNotify && event.operation = .mount

/-- The device whose navigation notification the event makes obsolete. -/
def unmountedPath? (event : MountCompleted) : Option String :=
  if event.outcome.isSuccess && event.shouldNotify &&
      event.operation = .unmount then
    event.volume.devicePath
  else
    none

/-- An import is started or a notification removed, as the event asks for; then
the result is taken in. -/
def mountCompleted (setting : Setting) (router : Router σ)
    (event : MountCompleted) : Router σ :=
  let router :=
    if startsImport event then router.startImport setting event.volume
    else match unmountedPath? event with
      | some path => router.requestHide .deviceNavigation path
      | none => router
  router.track setting event

/-! ## Button presses -/

/-- The kind whose notification a press hides, and where it leads to. -/
def clickTarget? (setting : Setting) (id : NotificationId) :
    Option (NotificationKind × NavigationRequest) :=
  if id.heading = Family.deviceNavigation.heading then
    some (.deviceNavigation, .device id.devicePath)
  else if id.heading = Family.deviceFail.heading then
    some (.deviceFail, .device id.devicePath)
  else if id.heading = Family.deviceImport.heading then
    some (.deviceImport,
      .deviceFolder id.devicePath setting.config.importTarget)
  else
    none

/-- A press opens what the notification is about and removes it. -/
def buttonClicked (setting : Setting) (router : Router σ)
    (notificationId : String) : Router σ :=
  match NotificationId.parse? notificationId with
  | none => router.record (.foreignClick notificationId)
  | some id =>
      match clickTarget? setting id with
      | none => router.record (.idleClick notificationId)
      | some (kind, request) =>
          router.requestHide kind id.devicePath
            |>.record (.navigationRequested request)
            |>.send request

def dispatch (setting : Setting) (router : Router σ) :
    HostEvent → Router σ
  | .deviceChanged event => router.deviceChanged event
  | .mountCompleted event => router.mountCompleted setting event
  | .buttonClicked event => router.buttonClicked setting event.notificationId

/-! ## Imports -/

/-- Carries out what an import came to. -/
def conclude (router : Router σ) (metadata : VolumeMetadata) :
    Except ImportFailure ImportDecision → Router σ
  | .ok (.openFolder volumeId folder) =>
      router.record (.openingFolder volumeId folder.fullPath)
        |>.send (.volumeFolder volumeId folder.fullPath)
  | .ok .companionHandles => router.record (.companionImports metadata.volumeId)
  | .error failure =>
      let entry := .noFolderOpened metadata.volumeId failure.message
      let router := router.record entry
      match metadata.notifiableDevicePath? with
      | some path => router.requestShow .deviceNavigation path
      | none => router

/-- One turn of a task: it asks a question, reports something, or carries out
its decision. -/
def taskTurn (setting : Setting) (router : Router σ) :
    ImportTask → Router σ × ImportTask
  | .running metadata (.done decision) =>
      (router.conclude metadata decision, .finished)
  | .running metadata (.report entry next) =>
      (router.record entry, .running metadata next)
  | .running metadata (.ask query next) =>
      let router := { router with queries := router.queries ++ [query] }
      match setting.collaborators query with
      | .done answer => (router, .running metadata (next (.ok answer)))
      | .failed error => (router, .running metadata (next (.error error)))
      | .panicked => (router, .crashed)
  | .finished => (router, .finished)
  | .crashed => (router, .crashed)

/-- Runs a task to its end, and reports it if it panicked. -/
def finishTask (setting : Setting) (router : Router σ) :
    ImportTask → Router σ
  | .running metadata inquiry =>
      let findings := inquiry.run setting.collaborators
      let router := findings.log.foldl record
        { router with queries := router.queries ++ findings.queries }
      match findings.result with
      | some decision => router.conclude metadata decision
      | none => router.record .importTaskFailed
  | .finished => router
  | .crashed => router.record .importTaskFailed

/-- Waits for every import that was started. -/
def drain (setting : Setting) (router : Router σ) : Router σ :=
  let tasks := router.tasks
  tasks.foldl (finishTask setting) { router with tasks := [] }

/-! ## Background work -/

variable [NotificationHost σ]

/-- Waits until every order of the center is carried out. -/
def flush (router : Router σ) : Router σ :=
  let (center, desk) := router.center.flush router.desk
  { router with center, desk }

/-- Waits for the imports, then for the notifications. -/
def settle (setting : Setting) (router : Router σ) : Router σ :=
  (router.drain setting).flush

end Router

end RemovableMedia
