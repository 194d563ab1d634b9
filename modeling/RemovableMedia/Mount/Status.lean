import RemovableMedia.Event

/-!
# The mount status of a device

A device with several partitions gets one mount result for each of them, and
often one for the device itself, which holds the partition table.  The status
is what all results so far amount to.
-/

namespace RemovableMedia

/-- What the results so far amount to. -/
inductive MountStatus where
  | noResult
  | success
  /-- Only the device itself failed: of no account once a partition follows. -/
  | onlyParentError
  /-- One result, of a partition, and it is a failure. -/
  | childError
  /-- Several results with a failure among them.  Nothing changes it. -/
  | multipartError
  deriving DecidableEq, Repr

namespace MountStatus

/-- The text of a status on the wire. -/
def code : MountStatus → String
  | noResult => "noResult"
  | success => "success"
  | onlyParentError => "onlyParentError"
  | childError => "childError"
  | multipartError => "multipartError"

/-- How the log writes a status. -/
def name : MountStatus → String
  | noResult => "NoResult"
  | success => "Success"
  | onlyParentError => "OnlyParentError"
  | childError => "ChildError"
  | multipartError => "MultipartError"

end MountStatus

namespace MountCompleted

/-- The status of a device of which this is the first result. -/
def firstStatus (event : MountCompleted) : MountStatus :=
  if event.outcome.isSuccess then .success
  else if event.volume.isParentDevice then .onlyParentError
  else .childError

/-- The status of a device after one more result. -/
def nextStatus (event : MountCompleted) : MountStatus → MountStatus
  | .multipartError => .multipartError
  | .noResult => event.firstStatus
  | .onlyParentError => event.firstStatus
  | .success =>
      if event.outcome.isSuccess then .success else .multipartError
  | .childError => .multipartError

end MountCompleted

end RemovableMedia
