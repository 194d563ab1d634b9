import RemovableMedia.Event
import RemovableMedia.Wire.Volume

/-!
# Host events on the wire

An event is an object whose member `event` names what happened, together
with the fields of that event; the name may come at any place.  It may also
be an array that starts with the name.  Either way the event is taken in
whole before its fields are looked at.
-/

namespace RemovableMedia

open Json

namespace DeviceChange

/-- A change is written as its text. -/
def encode (change : DeviceChange) : Json.Value := .text change.code

/-- Every text is a change. -/
def decode : Decoder DeviceChange :=
  Decoder.coded fun code => .ok (ofCode code)

end DeviceChange

namespace MountOutcome

/-- An outcome is written as its text. -/
def encode (outcome : MountOutcome) : Json.Value := .text outcome.code

/-- Every text is an outcome. -/
def decode : Decoder MountOutcome :=
  Decoder.coded fun code => .ok (ofCode code)

end MountOutcome

namespace MountOperation

/-- The text of an operation. -/
def code : MountOperation → String
  | mount => "mount"
  | unmount => "unmount"

def encode (operation : MountOperation) : Json.Value := .text operation.code

def choice : Choice MountOperation :=
  ⟨[("mount", mount), ("unmount", unmount)]⟩

def decode (source : Source) : Decoder MountOperation := choice.decode source

end MountOperation

namespace DeviceChanged

/-- What is written of the event, with or without a tag before it. -/
def members (event : DeviceChanged) : List (Json.Value × Json.Value) := [
  member "type" event.change.encode,
  member "devicePath" (.text event.devicePath)]

def encode (event : DeviceChanged) : Json.Value := .object event.members

/-- Both fields must be given. -/
def record : Record DeviceChanged where
  name := "DeviceChangedEvent"
  fields := [
    .required "type" DeviceChange.decode,
    .required "devicePath" .text]
  build found := do
    let change ← found.required "type" DeviceChange.decode
    let devicePath ← found.required "devicePath" .text
    return { change, devicePath }

def decode (source : Source) : Decoder DeviceChanged :=
  record.decode source

end DeviceChanged

namespace MountCompleted

/-- What is written of the event, with or without a tag before it. -/
def members (event : MountCompleted) : List (Json.Value × Json.Value) := [
  member "eventType" event.operation.encode,
  member "status" event.outcome.encode,
  member "shouldNotify" (.boolean event.shouldNotify),
  member "volumeMetadata" event.volume.encode]

def encode (event : MountCompleted) : Json.Value := .object event.members

/-- All fields must be given but the wish to be notified. -/
def record (source : Source) : Record MountCompleted where
  name := "MountCompletedEvent"
  fields := [
    .required "eventType" (MountOperation.decode source),
    .required "status" MountOutcome.decode,
    .defaulted "shouldNotify" .boolean,
    .required "volumeMetadata" (VolumeMetadata.decode source)]
  build found := do
    let operation ← found.required "eventType" (MountOperation.decode source)
    let outcome ← found.required "status" MountOutcome.decode
    let shouldNotify ← found.defaulted "shouldNotify" .boolean false
    let volume ← found.required "volumeMetadata" (VolumeMetadata.decode source)
    return { operation, outcome, shouldNotify, volume }

def decode (source : Source) : Decoder MountCompleted :=
  (record source).decode source

end MountCompleted

namespace ButtonClicked

/-- What is written of the event, with or without a tag before it. -/
def members (event : ButtonClicked) : List (Json.Value × Json.Value) := [
  member "notificationId" (.text event.notificationId)]

def encode (event : ButtonClicked) : Json.Value := .object event.members

/-- The only field must be given. -/
def record : Record ButtonClicked where
  name := "NotificationButtonClicked"
  fields := [.required "notificationId" .text]
  build found := do
    let notificationId ← found.required "notificationId" .text
    return { notificationId }

def decode (source : Source) : Decoder ButtonClicked :=
  record.decode source

end ButtonClicked

namespace HostEvent

/-- What an event is about, before its fields are read. -/
inductive Tag where
  | deviceChanged
  | mountCompleted
  | buttonClicked
  deriving DecidableEq, Repr

/-- The tags by which the events are told apart. -/
def tagChoice : Choice Tag := ⟨[
  ("device_changed", .deviceChanged),
  ("mount_completed", .mountCompleted),
  ("notification_button_clicked", .buttonClicked)]⟩

/-- The name of the member that holds the tag. -/
def tagName : String := "event"

/-- The member with the tag. -/
def tagMember (name : String) : Json.Value × Json.Value :=
  member tagName (.text name)

/-- The tag comes first, and then what is written of the event. -/
def encode : HostEvent → Json.Value
  | deviceChanged event => .object (tagMember "device_changed" :: event.members)
  | mountCompleted event =>
      .object (tagMember "mount_completed" :: event.members)
  | buttonClicked event =>
      .object (tagMember "notification_button_clicked" :: event.members)

/-- Containers within an event may be nested so deep. -/
def innerLevels : Nat := 126

/-- The tag and the other members, which are taken in on the way. -/
def separate : Option Tag → List (Json.Value × Json.Value) →
    Except DecodeError (Option Tag × List (Json.Value × Json.Value))
  | tag, [] => .ok (tag, [])
  | tag, (.string (some name), value) :: rest =>
      if name = tagName then
        match tag with
        | some _ => .error (.duplicateField tagName)
        | none => do
            let found ← tagChoice.identifier value
            separate (some found) rest
      else if value.isReadable innerLevels then do
        let (found, others) ← separate tag rest
        return (found, member name value :: others)
      else
        .error .malformed
  | _, _ :: _ => .error .malformed

/-- Decodes the fields that go with a tag. -/
def decodeFields (fields : Json.Value) : Tag → Except DecodeError HostEvent
  | .deviceChanged =>
      (DeviceChanged.decode .takenIn fields).map HostEvent.deviceChanged
  | .mountCompleted =>
      (MountCompleted.decode .takenIn fields).map HostEvent.mountCompleted
  | .buttonClicked =>
      (ButtonClicked.decode .takenIn fields).map HostEvent.buttonClicked

/-- The event with the tag, from what is left without it. -/
def decodeAs (fields : Json.Value) (tag : Tag) :
    Except DecodeError HostEvent :=
  (decodeFields fields tag).mapError .detached

/-- An object has its tag anywhere, an array has it first. -/
def decode : Decoder HostEvent
  | .object members => do
      match ← separate none members with
      | (some tag, others) => decodeAs (.object others) tag
      | (none, _) => throw (.missingField tagName)
  | .array [] => .error (.missingField tagName)
  | .array (first :: rest) => do
      let tag ← tagChoice.identifier first
      if itemsReadable innerLevels rest then
        decodeAs (.array rest) tag
      else
        throw .malformed
  | value => .error (wrongType "internally tagged enum HostEvent" value)

end HostEvent

end RemovableMedia
