import RemovableMedia.Import.Query

/-!
# Answers that are settled beforehand

A script has an answer or an error for every question that may come up.
Collaborators that go by a script never panic.
-/

namespace RemovableMedia

namespace Outcome

def ofExcept {α : Type} : Except HostError α → Outcome α
  | .ok value => .done value
  | .error error => .failed error

end Outcome

/-- An answer to every question, by what the question is about. -/
structure ImportScript where
  resolveVolume : (volumeId : String) → Except HostError VolumeHandle
  isImportEnabled : Except HostError Bool
  isVolumeEligible : VolumeHandle → Except HostError Bool
  displayRoot : VolumeHandle → Except HostError DirectoryHandle
  subdirectory :
    (parent : DirectoryHandle) → (name : String) →
      Except HostError DirectoryHandle
  isCompanionImporting : Except HostError Bool

namespace ImportScript

/-- The answer to a question. -/
def answer (script : ImportScript) :
    (query : ImportQuery) → Except HostError query.Answer
  | .resolveVolume volumeId => script.resolveVolume volumeId
  | .isImportEnabled => script.isImportEnabled
  | .isVolumeEligible volume => script.isVolumeEligible volume
  | .displayRoot volume => script.displayRoot volume
  | .subdirectory parent name => script.subdirectory parent name
  | .isCompanionImporting => script.isCompanionImporting

/-- Collaborators that answer by the script and never panic. -/
def collaborators (script : ImportScript) : Collaborators :=
  fun query => .ofExcept (script.answer query)

end ImportScript

end RemovableMedia
