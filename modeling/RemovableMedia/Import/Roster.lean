import RemovableMedia.Host.Screen
import RemovableMedia.Import.Query

/-!
# Volumes and policy from a list

Collaborators that know a fixed list of volumes and fixed answers about the
policy, and that can be told to fail.
-/

namespace RemovableMedia

/-- A volume as a roster lists it. -/
structure ListedVolume where
  id : String
  /-- The identifier in the handle of the volume, if it is another one. -/
  handleId : Option String := none
  mountPath : Option String := none
  /-- The path of the display root, if it is not the root of the volume. -/
  root : Option String := none
  directories : List String := []
  deriving DecidableEq, Repr

namespace ListedVolume

/-- The handle that the volume is resolved to. -/
def handle (volume : ListedVolume) : VolumeHandle where
  volumeId := volume.handleId.getD volume.id
  mountPath := volume.mountPath.getD ("/media/" ++ volume.id)

end ListedVolume

/-- Collaborators with the answers that they are to give. -/
structure Roster where
  volumes : List ListedVolume := []
  resolveFault : Option Fault := none
  rootFault : Option Fault := none
  /-- The names of directories that cannot be looked up. -/
  directoryFaults : List (String × Fault) := []
  enabled : Outcome Bool := .done true
  eligible : Outcome Bool := .done true
  companion : Outcome Bool := .done false
  deriving Repr

namespace Roster

/-- What a call comes to, unless it is told to fail. -/
def withFault {α : Type} (fault : Option Fault) (outcome : Outcome α) :
    Outcome α :=
  (fault.map Fault.outcome).getD outcome

/-- The listed volume with the identifier. -/
def resolve (roster : Roster) (id : String) : Outcome VolumeHandle :=
  match roster.volumes.find? fun volume => volume.id = id with
  | some volume => .done volume.handle
  | none => .failed (.notFound ("volume " ++ id))

/-- The display root of the volume that is mounted there. -/
def displayRoot (roster : Roster) (handle : VolumeHandle) :
    DirectoryHandle :=
  let listed := roster.volumes.find? fun volume =>
    volume.mountPath = some handle.mountPath
  let path := (listed.bind ListedVolume.root).getD "/"
  ⟨handle.volumeId, path⟩

/-- A directory of a listed volume, if the volume has one of this name. -/
def subdirectory (roster : Roster) (parent : DirectoryHandle)
    (name : String) : Outcome DirectoryHandle :=
  let listed := roster.volumes.find? fun volume =>
    volume.handle.volumeId = parent.volumeId
  match listed with
  | some volume =>
      if name ∈ volume.directories then .done (parent.child name) else missing
  | none => missing
where
  missing : Outcome DirectoryHandle :=
    .failed (.notFound (name ++ " on " ++ parent.volumeId))

/-- The fault with which looking a name up ends, if it does. -/
def directoryFault? (roster : Roster) (name : String) : Option Fault :=
  (roster.directoryFaults.find? fun entry => entry.1 = name).map Prod.snd

/-- The answers of the roster, faults first. -/
def collaborators (roster : Roster) : Collaborators
  | .resolveVolume id => withFault roster.resolveFault (roster.resolve id)
  | .isImportEnabled => roster.enabled
  | .isVolumeEligible _ => roster.eligible
  | .displayRoot handle =>
      withFault roster.rootFault (.done (roster.displayRoot handle))
  | .subdirectory parent name =>
      withFault (roster.directoryFault? name) (roster.subdirectory parent name)
  | .isCompanionImporting => roster.companion

end Roster

end RemovableMedia
