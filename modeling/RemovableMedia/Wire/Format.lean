import RemovableMedia.Wire.Event
import RemovableMedia.Wire.HostError
import RemovableMedia.Wire.Notification
import RemovableMedia.Wire.Status

/-!
# The types of the wire

Every type that has a text of its own, with the values it carries, how a text of
it is decoded and how a value of it is encoded.
-/

namespace RemovableMedia

open Json

/-- The types that have a form on the wire. -/
inductive WireType where
  | hostEvent
  | deviceChanged
  | mountCompleted
  | buttonClicked
  | volumeMetadata
  | volumeHandle
  | directoryHandle
  | navigationRequest
  | notificationContent
  | notificationId
  | notificationKind
  | hostError
  | hostErrorKind
  | deviceChange
  | mountOperation
  | mountOutcome
  | mountStatus
  deriving DecidableEq, Repr

namespace WireType

/-- The values of a type. -/
abbrev Carrier : WireType → Type
  | hostEvent => HostEvent
  | deviceChanged => DeviceChanged
  | mountCompleted => MountCompleted
  | buttonClicked => ButtonClicked
  | volumeMetadata => VolumeMetadata
  | volumeHandle => VolumeHandle
  | directoryHandle => DirectoryHandle
  | navigationRequest => NavigationRequest
  | notificationContent => NotificationContent
  | notificationId => NotificationId
  | notificationKind => NotificationKind
  | hostError => HostError
  | hostErrorKind => HostErrorKind
  | deviceChange => DeviceChange
  | mountOperation => MountOperation
  | mountOutcome => MountOutcome
  | mountStatus => MountStatus

/-- How a value of the type is read. -/
def decode : (type : WireType) → Decoder type.Carrier
  | hostEvent => HostEvent.decode
  | deviceChanged => DeviceChanged.decode .direct
  | mountCompleted => MountCompleted.decode .direct
  | buttonClicked => ButtonClicked.decode .direct
  | volumeMetadata => VolumeMetadata.decode .direct
  | volumeHandle => VolumeHandle.decode .direct
  | directoryHandle => DirectoryHandle.decode .direct
  | navigationRequest => NavigationRequest.decode .direct
  | notificationContent => NotificationContent.decode .direct
  | notificationId => NotificationId.decode
  | notificationKind => NotificationKind.decode .direct
  | hostError => HostError.decode .direct
  | hostErrorKind => HostErrorKind.decode .direct
  | deviceChange => DeviceChange.decode
  | mountOperation => MountOperation.decode .direct
  | mountOutcome => MountOutcome.decode
  | mountStatus => MountStatus.decode .direct

/-- How a value of the type is written. -/
def encode : (type : WireType) → type.Carrier → Json.Value
  | hostEvent => HostEvent.encode
  | deviceChanged => DeviceChanged.encode
  | mountCompleted => MountCompleted.encode
  | buttonClicked => ButtonClicked.encode
  | volumeMetadata => VolumeMetadata.encode
  | volumeHandle => VolumeHandle.encode
  | directoryHandle => DirectoryHandle.encode
  | navigationRequest => NavigationRequest.encode
  | notificationContent => NotificationContent.encode
  | notificationId => NotificationId.encode
  | notificationKind => NotificationKind.encode
  | hostError => HostError.encode
  | hostErrorKind => HostErrorKind.encode
  | deviceChange => DeviceChange.encode
  | mountOperation => MountOperation.encode
  | mountOutcome => MountOutcome.encode
  | mountStatus => MountStatus.encode

/-- The value that a text stands for. -/
def ofText (type : WireType) (text : String) :
    Except DecodeError type.Carrier :=
  decodeText type.decode text

/-- The text that stands for a value. -/
def toText (type : WireType) (value : type.Carrier) : String :=
  (type.encode value).toText

end WireType

end RemovableMedia
