/-!
# Volumes and directories on them

A volume is known by an identifier of the host; a directory on it by its path
from the root of the volume.  Volume metadata is what the host says about a
volume with every mount result.
-/

namespace RemovableMedia

/-- A mounted volume and the place where it is mounted. -/
structure VolumeHandle where
  volumeId : String
  mountPath : String
  deriving DecidableEq, Repr

/-- A directory of a volume, by its path inside the volume. -/
structure DirectoryHandle where
  volumeId : String
  fullPath : String
  deriving DecidableEq, Repr

namespace DirectoryHandle

def root (volumeId : String) : DirectoryHandle := ⟨volumeId, "/"⟩

/-- The handle of a directory directly below: one separator stands between
the path and the name, unless the path already ends with one. -/
def child (directory : DirectoryHandle) (name : String) : DirectoryHandle :=
  let base := directory.fullPath.toList
  let separated :=
    if base.getLast? = some '/' then directory.fullPath
    else directory.fullPath ++ "/"
  { directory with fullPath := separated ++ name }

/-- The directory reached by one name after another, and all on the way. -/
def descend (directory : DirectoryHandle) : List String → List DirectoryHandle
  | [] => [directory]
  | name :: names => directory :: (directory.child name).descend names

end DirectoryHandle

/-- What an event tells of a volume. -/
structure VolumeMetadata where
  /-- The physical device, such as `/dev/sdb`. -/
  devicePath : Option String := none
  /-- The class of the device, such as `usb`. -/
  deviceType : Option String := none
  deviceLabel : Option String := none
  /-- Does the event concern the whole device, not one partition? -/
  isParentDevice : Bool := false
  volumeId : Option String := none
  deriving DecidableEq, Repr

namespace VolumeMetadata

/-- The device that notifications about the volume name.  Volumes without
both a device and a device type, such as network shares, have none. -/
def notifiableDevicePath? (volume : VolumeMetadata) : Option String :=
  match volume.deviceType, volume.devicePath with
  | some deviceType, some path =>
      if deviceType ≠ "" ∧ path ≠ "" then some path else none
  | _, _ => none

/-- A path that is told of is the path of the device. -/
theorem devicePath_of_notifiable {volume : VolumeMetadata} {path : String}
    (notifiable : volume.notifiableDevicePath? = some path) :
    volume.devicePath = some path := by
  unfold notifiableDevicePath? at notifiable
  split at notifiable
  · next own _ found =>
      rw [found, (Option.ite_none_right_eq_some.mp notifiable).2]
  · exact absurd notifiable (Option.some_ne_none path).symm

/-- The label, when there is one to speak of. -/
def label? (volume : VolumeMetadata) : Option String :=
  volume.deviceLabel.filter (· ≠ "")

end VolumeMetadata

end RemovableMedia
