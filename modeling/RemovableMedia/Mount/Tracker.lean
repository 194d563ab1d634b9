import RemovableMedia.Mount.Status
import RemovableMedia.Notification.Kind
import RemovableMedia.Registry

/-!
# Tracking mount results

The tracker folds the mount results of each device into one status, and says
which failure notifications have to be shown or hidden so that what is shown
fits the status.
-/

namespace RemovableMedia

/-- What kind of failure a notification is about. -/
inductive FailureCause where
  | unsupported
  | unknown
  /-- At least one of several partitions failed. -/
  | multipart
  deriving DecidableEq, Repr

namespace FailureCause

/-- The text of a cause on the wire. -/
def code : FailureCause → String
  | unsupported => "unsupported"
  | unknown => "unknown"
  | multipart => "multipart"

end FailureCause

/-- What a failure notification says, and of which label. -/
structure FailureMessage where
  cause : FailureCause
  label : Option String
  deriving DecidableEq, Repr

/-- What is to be done about the notifications of a device. -/
inductive NotificationAction where
  | show (kind : NotificationKind) (devicePath : String)
      (message : Option FailureMessage)
  | hide (kind : NotificationKind) (devicePath : String)
  deriving DecidableEq, Repr

/-- What comes of a result: the status from now on, and what is to be shown or
hidden, in order. -/
structure MountUpdate where
  status : MountStatus
  actions : List NotificationAction
  deriving DecidableEq, Repr

/-- The status of each device of which there was a result. -/
structure MountTracker where
  statuses : Registry String MountStatus := .empty

namespace MountCompleted

/-- The device whose status the event bears on. -/
def relevantPath? (event : MountCompleted) : Option String :=
  if event.shouldNotify then event.volume.notifiableDevicePath? else none

/-- The notification that tells of the event's own failure. -/
def showFailure (event : MountCompleted) (path : String) :
    NotificationAction :=
  let label := event.volume.label?
  match event.outcome with
  | .unsupportedFilesystem =>
      .show .deviceFail path (some ⟨.unsupported, label⟩)
  | _ => .show .deviceFailUnknown path (some ⟨.unknown, label⟩)

/-- Once a partition has a result, the failure of the device that holds it is
no longer shown. -/
def retraction (event : MountCompleted) (path : String) :
    MountStatus → List NotificationAction
  | .onlyParentError =>
      if event.volume.isParentDevice then [] else [.hide .deviceFail path]
  | _ => []

/-- What is shown on entering a status; an unmount shows nothing. -/
def announcement (event : MountCompleted) (path : String) :
    MountStatus → List NotificationAction
  | .multipartError =>
      [.show .deviceFail path (some ⟨.multipart, event.volume.label?⟩)]
  | .childError => [event.showFailure path]
  | .onlyParentError => [event.showFailure path]
  | .noResult => []
  | .success => []

/-- The actions that go with a result that finds the device in a status. -/
def actions (event : MountCompleted) (path : String) (current : MountStatus) :
    List NotificationAction :=
  match current, event.operation with
  | .multipartError, _ => []
  | _, .unmount => event.retraction path current
  | _, .mount =>
      event.retraction path current ++
        event.announcement path (event.nextStatus current)

end MountCompleted

namespace MountTracker

/-- Devices that are not tracked have no result. -/
def status (tracker : MountTracker) (path : String) : MountStatus :=
  (tracker.statuses.find? path).getD .noResult

/-- The number of devices that have a status. -/
def trackedDevices (tracker : MountTracker) : Nat := tracker.statuses.size

/-- Takes in one mount result.  There is no update when the event bears on
no device. -/
def apply (tracker : MountTracker) (event : MountCompleted) :
    Option MountUpdate × MountTracker :=
  match event.relevantPath? with
  | none => (none, tracker)
  | some path =>
      let current := tracker.status path
      let next := event.nextStatus current
      (some ⟨next, event.actions path current⟩,
        ⟨tracker.statuses.insert path next⟩)

/-- Forgets a device.  Its last status is given back if it was tracked. -/
def remove (tracker : MountTracker) (path : String) :
    Option MountStatus × MountTracker :=
  (tracker.statuses.find? path, ⟨tracker.statuses.erase path⟩)

end MountTracker

end RemovableMedia
