import RemovableMedia.Json.Decode
import RemovableMedia.Json.Writer
import RemovableMedia.Navigation
import RemovableMedia.Notification.Content
import RemovableMedia.Notification.Identity

/-!
# Notifications and navigation requests on the wire
-/

namespace RemovableMedia

open Json

namespace NotificationKind

def encode (kind : NotificationKind) : Json.Value := .text kind.code

def choice : Choice NotificationKind :=
  ⟨all.map fun kind => (kind.code, kind)⟩

def decode (source : Source) : Decoder NotificationKind :=
  choice.decode source

end NotificationKind

namespace NotificationId

/-- An identity is written as its text. -/
def encode (id : NotificationId) : Json.Value := .text id.text

/-- The identity that a text stands for, or why it stands for none. -/
def ofText (text : String) : Except String NotificationId :=
  match parse? text with
  | some id => .ok id
  | none => .error ("notification id without prefix: " ++ text)

def decode : Decoder NotificationId := Decoder.coded ofText

end NotificationId

namespace NotificationContent

/-- A button that is not there is written as null. -/
def encode (content : NotificationContent) : Json.Value :=
  .object [
    member "title" (.text content.title),
    member "message" (.text content.message),
    member "icon" (.text content.icon),
    member "buttonLabel" (.optionalText content.buttonLabel)]

/-- All fields must be given but the label of the button. -/
def record : Record NotificationContent where
  name := "NotificationContent"
  fields := [
    .required "title" .text,
    .required "message" .text,
    .required "icon" .text,
    .defaulted "buttonLabel" (.optional .text)]
  build found := do
    let title ← found.required "title" .text
    let message ← found.required "message" .text
    let icon ← found.required "icon" .text
    let buttonLabel ← found.defaulted "buttonLabel" (.optional .text) none
    return { title, message, icon, buttonLabel }

def decode (source : Source) : Decoder NotificationContent :=
  record.decode source

end NotificationContent

namespace NavigationRequest

/-- Fields that are absent are left out. -/
def encode (request : NavigationRequest) : Json.Value :=
  let present := [
    ("devicePath", request.devicePath),
    ("volumeId", request.volumeId),
    ("filePath", request.filePath)]
  .object (present.filterMap fun (name, value) =>
    value.map fun text => member name (.text text))

/-- A request may leave out any field. -/
def record : Record NavigationRequest where
  name := "NavigationRequest"
  fields := [
    .defaulted "devicePath" (.optional .text),
    .defaulted "volumeId" (.optional .text),
    .defaulted "filePath" (.optional .text)]
  build found := do
    let devicePath ← found.defaulted "devicePath" (.optional .text) none
    let volumeId ← found.defaulted "volumeId" (.optional .text) none
    let filePath ← found.defaulted "filePath" (.optional .text) none
    return { devicePath, volumeId, filePath }

def decode (source : Source) : Decoder NavigationRequest :=
  record.decode source

/-- Requests leave the handler as lines of text. -/
def line (request : NavigationRequest) : String := request.encode.toText

/-- The text that requests are written as: a line feed ends each line. -/
def stream (requests : List NavigationRequest) : String :=
  String.join (requests.map fun request => request.line ++ "\n")

end NavigationRequest

end RemovableMedia
