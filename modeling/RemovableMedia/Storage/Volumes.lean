import RemovableMedia.Import.Query
import RemovableMedia.Storage.FileSystem

/-!
# Mounted volumes

Volumes of the local file system, known by the absolute paths of the places
where they are mounted.
-/

namespace RemovableMedia

namespace FileSystem

variable (files : FileSystem)

/-- Fails unless there is a directory at the path. -/
def requireDirectory (path : String) : Except HostError Unit :=
  match files.kind path with
  | .ok .directory => .ok ()
  | .ok .other => .error (.notFound (path ++ " is not a directory"))
  | .error .missing => .error (.notFound (path ++ " does not exist"))
  | .error .denied =>
      .error ⟨.permissionDenied, path ++ ": " ++ PathFault.denied.text⟩
  | .error fault => .error ⟨.internal, path ++ ": " ++ fault.text⟩

/-- A volume is known by the path at which it is mounted. -/
def resolveVolume (volumeId : String) : Except HostError VolumeHandle := do
  if !Path.isAbsolute volumeId then
    throw ⟨.invalidInput, "volume id is not a mount point: " ++ volumeId⟩
  files.requireDirectory volumeId
  return ⟨volumeId, volumeId⟩

/-- The root of a volume that is still mounted. -/
def displayRoot (volume : VolumeHandle) :
    Except HostError DirectoryHandle := do
  files.requireDirectory volume.mountPath
  return .root volume.volumeId

/-- Where a directory of a volume is in the file system. -/
def localPath (directory : DirectoryHandle) : String :=
  Path.join directory.volumeId
    (Path.withoutLeadingSlashes directory.fullPath)

/-- A directory below another.  Its name is taken as it is, so it may lead out
of the volume. -/
def subdirectory (parent : DirectoryHandle) (name : String) :
    Except HostError DirectoryHandle := do
  let child := parent.child name
  files.requireDirectory (localPath child)
  return child

end FileSystem

namespace FileTree

variable (tree : FileTree)

/-- The volume that is mounted there. -/
def resolveVolume : (volumeId : String) → Except HostError VolumeHandle :=
  tree.files.resolveVolume

def displayRoot : VolumeHandle → Except HostError DirectoryHandle :=
  tree.files.displayRoot

/-- The directory of this name. -/
def subdirectory : (parent : DirectoryHandle) → (name : String) →
    Except HostError DirectoryHandle :=
  tree.files.subdirectory

end FileTree

end RemovableMedia
