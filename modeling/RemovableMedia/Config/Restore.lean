import RemovableMedia.Config.Keys
import RemovableMedia.Config.Settings
import RemovableMedia.Json.Decode

/-!
# Settings from a JSON value

As in a TOML document only what differs from the defaults has to be there.  Null
in place of a text of the messages is as good as nothing.
-/

namespace RemovableMedia

open Json

namespace Json.Decoder

/-- Each item has to decode. -/
def list {α : Type} (decoder : Decoder α) : Decoder (List α)
  | .array items => items.mapM decoder
  | value => .error (wrongType "a sequence" value)

end Json.Decoder

namespace LogLevel

def choice : Choice LogLevel := ⟨all.map fun level => (level.code, level)⟩

/-- A level is read by its code. -/
def decode (source : Source) : Decoder LogLevel := choice.decode source

end LogLevel

namespace ImportSettings

/-- Paths of directories. -/
def roots : Decoder (List String) := .list (.textAs "path string")

/-- All settings of imports may be left out. -/
def record : Record ImportSettings where
  name := "ImportSettings"
  fields := [
    .defaulted "enabled" .boolean,
    .defaulted "eligible_roots" roots,
    .defaulted "companion_app_handles_import" .boolean]
  build found := do
    let default : ImportSettings := {}
    let enabled ← found.defaulted "enabled" .boolean default.enabled
    let eligibleRoots ←
      found.defaulted "eligible_roots" roots default.eligibleRoots
    let companionAppHandlesImport ←
      found.defaulted "companion_app_handles_import" .boolean
        default.companionAppHandlesImport
    return { enabled, eligibleRoots, companionAppHandlesImport }

def decode (source : Source) : Decoder ImportSettings := record.decode source

end ImportSettings

namespace TemplateKeys

/-- Everything about a template may be left out, and null leaves it out as well.
-/
def record : Record TemplateKeys where
  name := "TemplateOverride"
  fields := [
    .defaulted "title" (.optional .text),
    .defaulted "message" (.optional .text),
    .defaulted "button_label" (.optional .text)]
  build found := do
    let title ← found.defaulted "title" (.optional .text) none
    let message ← found.defaulted "message" (.optional .text) none
    let buttonLabel ← found.defaulted "button_label" (.optional .text) none
    return { title, message, buttonLabel }

def decode (source : Source) : Decoder TemplateKeys := record.decode source

end TemplateKeys

namespace MessageCatalog

/-- The messages are read as changes to the defaults. -/
def record (source : Source) : Record MessageCatalog where
  name := "MessageOverrides"
  fields := [
    .defaulted "device_navigation" (TemplateKeys.decode source),
    .defaulted "device_import" (TemplateKeys.decode source),
    .defaulted "device_fail" (TemplateKeys.decode source),
    .defaulted "device_fail_unknown" (TemplateKeys.decode source),
    .defaulted "device_external_storage_disabled"
      (TemplateKeys.decode source),
    .defaulted "device_hard_unplugged" (TemplateKeys.decode source),
    .defaulted "format_start" (TemplateKeys.decode source),
    .defaulted "format_success" (TemplateKeys.decode source),
    .defaulted "format_fail" (TemplateKeys.decode source),
    .defaulted "device_unsupported" (.optional .text),
    .defaulted "device_unknown" (.optional .text),
    .defaulted "multipart_device_unsupported" (.optional .text),
    .defaulted "multipart_device_unsupported_default" (.optional .text)]
  build found := do
    let default : MessageCatalog := {}
    let template (name : String) (default : Template) :
        Except DecodeError Template :=
      (found.defaulted name (TemplateKeys.decode source) {}).map
        fun keys => keys.overriding default
    let text (name default : String) : Except DecodeError String :=
      (found.defaulted name (.optional .text) none).map
        fun text => text.getD default
    let deviceNavigation ←
      template "device_navigation" default.deviceNavigation
    let deviceImport ← template "device_import" default.deviceImport
    let deviceFail ← template "device_fail" default.deviceFail
    let deviceFailUnknown ←
      template "device_fail_unknown" default.deviceFailUnknown
    let deviceExternalStorageDisabled ←
      template "device_external_storage_disabled"
        default.deviceExternalStorageDisabled
    let deviceHardUnplugged ←
      template "device_hard_unplugged" default.deviceHardUnplugged
    let formatStart ← template "format_start" default.formatStart
    let formatSuccess ← template "format_success" default.formatSuccess
    let formatFail ← template "format_fail" default.formatFail
    let deviceUnsupported ←
      text "device_unsupported" default.deviceUnsupported
    let deviceUnknown ← text "device_unknown" default.deviceUnknown
    let multipartUnsupported ←
      text "multipart_device_unsupported" default.multipartUnsupported
    let multipartUnsupportedDefault ←
      text "multipart_device_unsupported_default"
        default.multipartUnsupportedDefault
    return {
      deviceNavigation, deviceImport, deviceFail, deviceFailUnknown,
      deviceExternalStorageDisabled, deviceHardUnplugged, formatStart,
      formatSuccess, formatFail, deviceUnsupported, deviceUnknown,
      multipartUnsupported, multipartUnsupportedDefault }

def decode (source : Source) : Decoder MessageCatalog :=
  (record source).decode source

end MessageCatalog

namespace HandlerConfig

/-- All settings may be left out. -/
def record (source : Source) : Record HandlerConfig where
  name := "HandlerConfig"
  fields := [
    .defaulted "log_level" (LogLevel.decode source),
    .defaulted "app_name" .text,
    .defaulted "icon" .text,
    .defaulted "media_folders" (.list .text),
    .defaulted "import_target" .text,
    .defaulted "import" (ImportSettings.decode source),
    .defaulted "messages" (MessageCatalog.decode source)]
  build found := do
    let default : HandlerConfig := {}
    let logLevel ←
      found.defaulted "log_level" (LogLevel.decode source) default.logLevel
    let appName ← found.defaulted "app_name" .text default.appName
    let icon ← found.defaulted "icon" .text default.icon
    let mediaFolders ←
      found.defaulted "media_folders" (.list .text) default.mediaFolders
    let importTarget ←
      found.defaulted "import_target" .text default.importTarget
    let imports ←
      found.defaulted "import" (ImportSettings.decode source) default.imports
    let messages ←
      found.defaulted "messages" (MessageCatalog.decode source)
        default.messages
    return {
      logLevel, appName, icon, mediaFolders, importTarget, imports, messages }

def decode (source : Source) : Decoder HandlerConfig :=
  (record source).decode source

end HandlerConfig

end RemovableMedia
