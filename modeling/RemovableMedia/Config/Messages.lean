import RemovableMedia.Mount.Tracker

/-!
# Texts of notifications

Every kind of notification has a template.  The texts for mount failures
name the device by its label, in every place where they say so; without a
label a text that needs none takes their place.
-/

namespace RemovableMedia

/-- The texts of a notification, as configured. -/
structure Template where
  title : String
  message : String
  buttonLabel : Option String := none
  deriving DecidableEq, Repr

/-- All texts that are configured, with their defaults. -/
structure MessageCatalog where
  deviceNavigation : Template := {
    title := "Removable device detected"
    message := "Explore the device's content in the file manager."
    buttonLabel := some "Open" }
  deviceImport : Template := {
    title := "Removable device detected"
    message := "Photos and videos were found on the device."
    buttonLabel := some "Open media folder" }
  deviceFail : Template := {
    title := "Removable device detected"
    message := "Sorry, your device is not supported." }
  deviceFailUnknown : Template := {
    title := "Removable device detected"
    message := "Sorry, your device could not be recognized."
    buttonLabel := some "Format this device" }
  deviceExternalStorageDisabled : Template := {
    title := "Removable device detected"
    message := "Your administrator has disabled external storage." }
  deviceHardUnplugged : Template := {
    title := "Device removed without ejecting"
    message := "Eject the device before removing it, or you may lose data." }
  formatStart : Template := {
    title := "Formatting device"
    message := "The device is being formatted. Do not remove it." }
  formatSuccess : Template := {
    title := "Formatting complete"
    message := "The device was formatted." }
  formatFail : Template := {
    title := "Formatting failed"
    message := "The device could not be formatted." }
  deviceUnsupported : String :=
    "Sorry, the device \x7blabel\x7d is not supported."
  deviceUnknown : String :=
    "Sorry, the device \x7blabel\x7d could not be recognized."
  multipartUnsupported : String :=
    "Sorry, at least one partition on the device \x7blabel\x7d " ++
      "could not be mounted."
  multipartUnsupportedDefault : String :=
    "Sorry, at least one partition on your device could not be mounted."
  deriving DecidableEq, Repr

/-- Puts the label in every place that a text has for it.  What is put in is
not looked at again. -/
def expandLabel (label : List Char) : List Char → List Char
  | [] => []
  | '\u007b' :: 'l' :: 'a' :: 'b' :: 'e' :: 'l' :: '\u007d' :: rest =>
      label ++ expandLabel label rest
  | c :: rest => c :: expandLabel label rest

namespace MessageCatalog

/-- The template of a kind. -/
def template (catalog : MessageCatalog) : NotificationKind → Template
  | .deviceNavigation => catalog.deviceNavigation
  | .deviceImport => catalog.deviceImport
  | .deviceFail => catalog.deviceFail
  | .deviceFailUnknown => catalog.deviceFailUnknown
  | .deviceExternalStorageDisabled => catalog.deviceExternalStorageDisabled
  | .deviceHardUnplugged => catalog.deviceHardUnplugged
  | .formatStart => catalog.formatStart
  | .formatSuccess => catalog.formatSuccess
  | .formatFail => catalog.formatFail

/-- The text that names a label, and the one that does without. -/
def failureTexts (catalog : MessageCatalog) : FailureCause → String × String
  | .unsupported => (catalog.deviceUnsupported, catalog.deviceFail.message)
  | .unknown => (catalog.deviceUnknown, catalog.deviceFailUnknown.message)
  | .multipart =>
      (catalog.multipartUnsupported, catalog.multipartUnsupportedDefault)

/-- The text about a failure: with the label put in, or the one that needs no
label. -/
def render (catalog : MessageCatalog) (message : FailureMessage) : String :=
  let (labelled, unlabelled) := catalog.failureTexts message.cause
  match message.label with
  | some label =>
      String.ofList (expandLabel label.toList labelled.toList)
  | none => unlabelled

end MessageCatalog

end RemovableMedia
