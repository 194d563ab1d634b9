import RemovableMedia.Json.Decode
import RemovableMedia.Mount.Status

/-!
# Mount statuses on the wire
-/

namespace RemovableMedia

open Json

namespace MountStatus

def all : List MountStatus :=
  [noResult, success, onlyParentError, childError, multipartError]

def encode (status : MountStatus) : Json.Value := .text status.code

def choice : Choice MountStatus :=
  ⟨all.map fun status => (status.code, status)⟩

def decode (source : Source) : Decoder MountStatus := choice.decode source

end MountStatus

end RemovableMedia
