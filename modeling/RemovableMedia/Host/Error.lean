/-!
# Errors of the host

Collaborators of the handler fail with one of five kinds of errors and a
message of their own.
-/

namespace RemovableMedia

/-- The reasons for which a call can fail. -/
inductive HostErrorKind where
  | invalidInput
  | notFound
  | permissionDenied
  | unavailable
  | internal
  deriving DecidableEq, Repr

namespace HostErrorKind

def all : List HostErrorKind :=
  [invalidInput, notFound, permissionDenied, unavailable, internal]

/-- The text of a kind on the wire. -/
def code : HostErrorKind → String
  | invalidInput => "invalid_input"
  | notFound => "not_found"
  | permissionDenied => "permission_denied"
  | unavailable => "unavailable"
  | internal => "internal"

/-- What messages call the kind. -/
def title : HostErrorKind → String
  | invalidInput => "InvalidInput"
  | notFound => "NotFound"
  | permissionDenied => "PermissionDenied"
  | unavailable => "Unavailable"
  | internal => "Internal"

end HostErrorKind

/-- Why a call failed. -/
structure HostError where
  kind : HostErrorKind
  message : String
  deriving DecidableEq, Repr

namespace HostError

def notFound (message : String) : HostError := ⟨.notFound, message⟩

def unavailable (message : String) : HostError := ⟨.unavailable, message⟩

def isNotFound (error : HostError) : Bool := error.kind = .notFound

/-- The words of an error as logs and messages have them. -/
def text (error : HostError) : String :=
  error.kind.title ++ ": " ++ error.message

end HostError

end RemovableMedia
