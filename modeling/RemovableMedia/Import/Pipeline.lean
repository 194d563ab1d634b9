import RemovableMedia.Import.Failure
import RemovableMedia.Import.Query
import RemovableMedia.Navigation

/-!
# What happens after a volume is mounted

A volume with a media folder is opened in that folder, unless a companion
application imports from it anyway.  Everything else, and every failure on
the way, falls back to the navigation notification.
-/

namespace RemovableMedia

/-- What to do about a volume with media on it. -/
inductive ImportDecision where
  /-- Open the folder. -/
  | openFolder (volumeId : String) (folder : DirectoryHandle)
  /-- A companion application takes care of the volume. -/
  | companionHandles
  deriving DecidableEq, Repr

/-- A stage of the decision.  The first failure is the end of it. -/
abbrev ImportStage := ExceptT ImportFailure Inquiry

namespace ImportStage

/-- Asks a question whose failure is a failure of the stage. -/
def consult (query : ImportQuery) : ImportStage query.Answer :=
  .mk (.ask query fun answer => .done (answer.mapError .host))

/-- The volume by its identifier, which must be there and not be empty. -/
def resolveVolume (metadata : VolumeMetadata) : ImportStage VolumeHandle :=
  match metadata.volumeId.filter (· ≠ "") with
  | some volumeId => consult (.resolveVolume volumeId)
  | none => throw .missingVolumeId

/-- Eligibility is asked for only where import is enabled. -/
def isAllowed (volume : VolumeHandle) : ImportStage Bool := do
  let enabled : Bool ← consult .isImportEnabled
  if enabled then consult (.isVolumeEligible volume) else return false

/-- An import that is not allowed is a failure. -/
def checkAllowed (volume : VolumeHandle) : ImportStage Unit := do
  let allowed ← isAllowed volume
  if !allowed then throw (.importDisabled volume.volumeId)

/-- Asks for every folder by its name. -/
def askFolders (root : DirectoryHandle) : List String →
    Inquiry (List (String × Except HostError DirectoryHandle))
  | [] => .done []
  | name :: names => .ask (.subdirectory root name) fun answer => do
      return (name, answer) :: (← askFolders root names)

/-- Takes the first folder that is there, and reports those before it. -/
def firstFolder (volumeId : String) :
    List (String × Except HostError DirectoryHandle) →
    Inquiry (Option DirectoryHandle)
  | [] => .done none
  | (_, .ok folder) :: _ => .done (some folder)
  | (name, .error error) :: rest =>
      .report (.folderMissing name volumeId error) (firstFolder volumeId rest)

/-- The choice among the folders is made after all were asked for. -/
def findMediaFolder (folders : List String) (volume : VolumeHandle) :
    ImportStage DirectoryHandle := do
  let root : DirectoryHandle ← consult (.displayRoot volume)
  let answers ← ExceptT.lift (askFolders root folders)
  match ← ExceptT.lift (firstFolder volume.volumeId answers) with
  | some folder => return folder
  | none => throw (.mediaFolderNotFound volume.volumeId)

/-- What to do about a volume, where media folders have these names. -/
def decide (folders : List String) (metadata : VolumeMetadata) :
    ImportStage ImportDecision := do
  let volume ← resolveVolume metadata
  checkAllowed volume
  let folder ← findMediaFolder folders volume
  let companion : Bool ← consult .isCompanionImporting
  if companion then return .companionHandles
  else return .openFolder volume.volumeId folder

end ImportStage

/-- The decision about a volume as an inquiry. -/
def decideImport (folders : List String) (metadata : VolumeMetadata) :
    Inquiry (Except ImportFailure ImportDecision) :=
  (ImportStage.decide folders metadata).run

/-- An import that runs beside everything else until its decision is carried
out or a collaborator panics. -/
inductive ImportTask where
  | running (metadata : VolumeMetadata)
      (inquiry : Inquiry (Except ImportFailure ImportDecision))
  | finished
  | crashed

namespace ImportTask

/-- A task that has yet to ask everything. -/
def start (folders : List String) (metadata : VolumeMetadata) : ImportTask :=
  running metadata (decideImport folders metadata)

/-- Is there anything left to ask or to carry out? -/
def isRunning : ImportTask → Bool
  | running _ _ => true
  | _ => false

end ImportTask

end RemovableMedia
