import RemovableMedia.Json.Decode
import RemovableMedia.Volume

/-!
# Volumes on the wire
-/

namespace RemovableMedia

open Json

namespace VolumeMetadata

/-- All fields are written, those that are not there as null. -/
def encode (volume : VolumeMetadata) : Json.Value :=
  .object [
    member "devicePath" (.optionalText volume.devicePath),
    member "deviceType" (.optionalText volume.deviceType),
    member "deviceLabel" (.optionalText volume.deviceLabel),
    member "isParentDevice" (.boolean volume.isParentDevice),
    member "volumeId" (.optionalText volume.volumeId)]

/-- All fields may be left out. -/
def record : Record VolumeMetadata where
  name := "VolumeMetadata"
  fields := [
    .defaulted "devicePath" (.optional .text),
    .defaulted "deviceType" (.optional .text),
    .defaulted "deviceLabel" (.optional .text),
    .defaulted "isParentDevice" .boolean,
    .defaulted "volumeId" (.optional .text)]
  build found := do
    let devicePath ← found.defaulted "devicePath" (.optional .text) none
    let deviceType ← found.defaulted "deviceType" (.optional .text) none
    let deviceLabel ← found.defaulted "deviceLabel" (.optional .text) none
    let isParentDevice ← found.defaulted "isParentDevice" .boolean false
    let volumeId ← found.defaulted "volumeId" (.optional .text) none
    return { devicePath, deviceType, deviceLabel, isParentDevice, volumeId }

def decode (source : Source) : Decoder VolumeMetadata :=
  record.decode source

end VolumeMetadata

namespace VolumeHandle

/-- A handle is written with both fields. -/
def encode (volume : VolumeHandle) : Json.Value :=
  .object [
    member "volume_id" (.text volume.volumeId),
    member "mount_path" (.text volume.mountPath)]

/-- Both fields must be given. -/
def record : Record VolumeHandle where
  name := "VolumeHandle"
  fields := [
    .required "volume_id" .text,
    .required "mount_path" (.textAs "path string")]
  build found := do
    let volumeId ← found.required "volume_id" .text
    let mountPath ← found.required "mount_path" (.textAs "path string")
    return { volumeId, mountPath }

def decode (source : Source) : Decoder VolumeHandle :=
  record.decode source

end VolumeHandle

namespace DirectoryHandle

/-- A handle is written with both fields. -/
def encode (directory : DirectoryHandle) : Json.Value :=
  .object [
    member "volume_id" (.text directory.volumeId),
    member "full_path" (.text directory.fullPath)]

/-- Both fields must be given. -/
def record : Record DirectoryHandle where
  name := "DirectoryHandle"
  fields := [
    .required "volume_id" .text,
    .required "full_path" .text]
  build found := do
    let volumeId ← found.required "volume_id" .text
    let fullPath ← found.required "full_path" .text
    return { volumeId, fullPath }

def decode (source : Source) : Decoder DirectoryHandle :=
  record.decode source

end DirectoryHandle

end RemovableMedia
