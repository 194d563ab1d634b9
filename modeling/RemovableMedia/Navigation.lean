import RemovableMedia.Text.Quoted

/-!
# Navigation requests

What the handler asks of the rest of the application: to open a device, or a
folder of a device or of a volume that is already known.
-/

namespace RemovableMedia

/-- A place to open: a device or a volume, and a path inside if it is not all of
it. -/
structure NavigationRequest where
  devicePath : Option String := none
  volumeId : Option String := none
  filePath : Option String := none
  deriving DecidableEq, Repr

namespace NavigationRequest

/-- Opens a device. -/
def device (devicePath : String) : NavigationRequest :=
  { devicePath := some devicePath }

/-- Opens a folder of a device. -/
def deviceFolder (devicePath filePath : String) : NavigationRequest :=
  { devicePath := some devicePath, filePath := some filePath }

/-- Opens a folder of a volume. -/
def volumeFolder (volumeId filePath : String) : NavigationRequest :=
  { volumeId := some volumeId, filePath := some filePath }

/-- How the log writes a request. -/
def described (request : NavigationRequest) : String :=
  "NavigationRequest \x7b device_path: " ++
    Text.quotedOption request.devicePath ++
    ", volume_id: " ++ Text.quotedOption request.volumeId ++
    ", file_path: " ++ Text.quotedOption request.filePath ++ " \x7d"

end NavigationRequest

end RemovableMedia
