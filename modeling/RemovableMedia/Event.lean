import RemovableMedia.Volume

/-!
# Events of the host

Three things happen outside the handler: a device changes, the mounting or
unmounting of a volume completes, and someone presses the button of a
notification.  Changes and outcomes are coded as texts; a code that is not
known is kept as it came.
-/

namespace RemovableMedia

/-- What became of a device. -/
inductive DeviceChange where
  | disabled
  | removed
  | hardUnplugged
  | formatStart
  | formatSuccess
  | formatFail
  | unknown (code : String)
  deriving DecidableEq, Repr

namespace DeviceChange

/-- The text that an event has for the change. -/
def code : DeviceChange → String
  | disabled => "disabled"
  | removed => "removed"
  | hardUnplugged => "hard_unplugged"
  | formatStart => "format_start"
  | formatSuccess => "format_success"
  | formatFail => "format_fail"
  | unknown code => code

/-- The change that a text stands for.  Every text stands for one. -/
def ofCode : String → DeviceChange
  | "disabled" => disabled
  | "removed" => removed
  | "hard_unplugged" => hardUnplugged
  | "format_start" => formatStart
  | "format_success" => formatSuccess
  | "format_fail" => formatFail
  | code => unknown code

/-- Is it one of the changes that are acted on? -/
def isKnown : DeviceChange → Bool
  | unknown _ => false
  | _ => true

/-- No text is lost, not even an unknown one. -/
theorem code_ofCode (code : String) : (ofCode code).code = code := by
  unfold ofCode
  split <;> rfl

end DeviceChange

/-- A device has changed. -/
structure DeviceChanged where
  change : DeviceChange
  devicePath : String
  deriving DecidableEq, Repr

/-- What was done to a volume. -/
inductive MountOperation where
  | mount
  | unmount
  deriving DecidableEq, Repr

/-- What came of it. -/
inductive MountOutcome where
  | success
  | unsupportedFilesystem
  | failure (code : String)
  deriving DecidableEq, Repr

namespace MountOutcome

/-- The text that an event has for the outcome. -/
def code : MountOutcome → String
  | success => "success"
  | unsupportedFilesystem => "error_unsupported_filesystem"
  | failure code => code

/-- The outcome that a text stands for; all but two are failures. -/
def ofCode : String → MountOutcome
  | "success" => success
  | "error_unsupported_filesystem" => unsupportedFilesystem
  | code => failure code

def isSuccess : MountOutcome → Bool
  | success => true
  | _ => false

/-- No text is lost. -/
theorem code_ofCode (code : String) : (ofCode code).code = code := by
  unfold ofCode
  split <;> rfl

end MountOutcome

/-- The result of mounting or unmounting one volume. -/
structure MountCompleted where
  operation : MountOperation
  outcome : MountOutcome
  shouldNotify : Bool
  volume : VolumeMetadata
  deriving DecidableEq, Repr

/-- The button of a notification was pressed. -/
structure ButtonClicked where
  notificationId : String
  deriving DecidableEq, Repr

/-- What the handler is told by its host. -/
inductive HostEvent where
  | deviceChanged (event : DeviceChanged)
  | mountCompleted (event : MountCompleted)
  | buttonClicked (event : ButtonClicked)
  deriving DecidableEq, Repr

end RemovableMedia
