import RemovableMedia.Host.Error
import RemovableMedia.Json.Decode

/-!
# Host errors on the wire
-/

namespace RemovableMedia

open Json

namespace HostErrorKind

def encode (kind : HostErrorKind) : Json.Value := .text kind.code

def choice : Choice HostErrorKind :=
  ⟨all.map fun kind => (kind.code, kind)⟩

def decode (source : Source) : Decoder HostErrorKind := choice.decode source

end HostErrorKind

namespace HostError

/-- An error is written with both fields. -/
def encode (error : HostError) : Json.Value :=
  .object [
    member "kind" error.kind.encode,
    member "message" (.text error.message)]

/-- Both fields must be given. -/
def record (source : Source) : Record HostError where
  name := "HostError"
  fields := [
    .required "kind" (HostErrorKind.decode source),
    .required "message" .text]
  build found := do
    let kind ← found.required "kind" (HostErrorKind.decode source)
    let message ← found.required "message" .text
    return { kind, message }

def decode (source : Source) : Decoder HostError :=
  (record source).decode source

end HostError

end RemovableMedia
