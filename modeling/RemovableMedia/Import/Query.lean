import RemovableMedia.Host.Basic
import RemovableMedia.Log
import RemovableMedia.Volume

/-!
# Questions about volumes and import

Whether a volume is opened for import depends on the answers of two
collaborators, one that knows the volumes and one that knows the policy.  An
inquiry is a computation that asks them one question after another, and may
report on the way.
-/

namespace RemovableMedia

/-- A question to one of the collaborators. -/
inductive ImportQuery where
  | resolveVolume (volumeId : String)
  | isImportEnabled
  | isVolumeEligible (volume : VolumeHandle)
  | displayRoot (volume : VolumeHandle)
  | subdirectory (parent : DirectoryHandle) (name : String)
  | isCompanionImporting
  deriving DecidableEq, Repr

namespace ImportQuery

/-- What a question is answered with when nothing goes wrong. -/
def Answer : ImportQuery → Type
  | resolveVolume _ => VolumeHandle
  | isImportEnabled => Bool
  | isVolumeEligible _ => Bool
  | displayRoot _ => DirectoryHandle
  | subdirectory _ _ => DirectoryHandle
  | isCompanionImporting => Bool

end ImportQuery

/-- Collaborators whose answers depend on the question alone. -/
abbrev Collaborators := (query : ImportQuery) → Outcome query.Answer

/-- A computation that asks questions and goes on with the answers. -/
inductive Inquiry (α : Type) where
  | done (result : α)
  | report (entry : LogEntry) (next : Inquiry α)
  | ask (query : ImportQuery)
      (next : Except HostError query.Answer → Inquiry α)

/-- What came of an inquiry. -/
structure Findings (α : Type) where
  /-- The questions that were asked, in order. -/
  queries : List ImportQuery := []
  log : Log := []
  /-- There is none when a collaborator panicked. -/
  result : Option α

namespace Inquiry

variable {α β : Type}

/-- Goes on with the result. -/
def bind : Inquiry α → (α → Inquiry β) → Inquiry β
  | done result, next => next result
  | report entry rest, next => report entry (rest.bind next)
  | ask query rest, next => .ask query fun answer => (rest answer).bind next

instance : Monad Inquiry where
  pure := done
  bind := bind

/-- Carries a computation to its end, with all its questions answered. -/
def run (collaborators : Collaborators) : Inquiry α → Findings α
  | done result => { result }
  | report entry next =>
      let findings := next.run collaborators
      { findings with log := entry :: findings.log }
  | ask query next =>
      match collaborators query with
      | .done answer =>
          let findings := (next (.ok answer)).run collaborators
          { findings with queries := query :: findings.queries }
      | .failed error =>
          let findings := (next (.error error)).run collaborators
          { findings with queries := query :: findings.queries }
      | .panicked => { queries := [query], result := none }

end Inquiry

end RemovableMedia
