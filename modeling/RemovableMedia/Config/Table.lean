import RemovableMedia.Config.Settings
import RemovableMedia.Toml.Table

/-!
# Settings as a TOML table

All settings are written, those that are as by default too.  A table has no
value for a button that is not there, so the key of its label is left out.
-/

namespace RemovableMedia

open Toml

namespace Toml

def textArray (texts : List String) : Value := .array (texts.map .string)

def booleanValue (value : Bool) : Value := .scalar (.boolean value)

end Toml

namespace ImportSettings

/-- What is written of the settings of imports. -/
def toToml (settings : ImportSettings) : Value :=
  .table [
    ("enabled", booleanValue settings.enabled),
    ("eligible_roots", textArray settings.eligibleRoots),
    ("companion_app_handles_import",
      booleanValue settings.companionAppHandlesImport)]

end ImportSettings

namespace Template

/-- A template as a table.  There is no null, so nothing is said of a button
that is not there. -/
def toToml (template : Template) : Value :=
  .table ([
    ("title", .string template.title),
    ("message", .string template.message)] ++
    (template.buttonLabel.map fun label =>
      ("button_label", .string label)).toList)

end Template

namespace MessageCatalog

/-- The messages as one table, an entry for each template and each text. -/
def toToml (catalog : MessageCatalog) : Value :=
  .table [
    ("device_navigation", catalog.deviceNavigation.toToml),
    ("device_import", catalog.deviceImport.toToml),
    ("device_fail", catalog.deviceFail.toToml),
    ("device_fail_unknown", catalog.deviceFailUnknown.toToml),
    ("device_external_storage_disabled",
      catalog.deviceExternalStorageDisabled.toToml),
    ("device_hard_unplugged", catalog.deviceHardUnplugged.toToml),
    ("format_start", catalog.formatStart.toToml),
    ("format_success", catalog.formatSuccess.toToml),
    ("format_fail", catalog.formatFail.toToml),
    ("device_unsupported", .string catalog.deviceUnsupported),
    ("device_unknown", .string catalog.deviceUnknown),
    ("multipart_device_unsupported", .string catalog.multipartUnsupported),
    ("multipart_device_unsupported_default",
      .string catalog.multipartUnsupportedDefault)]

end MessageCatalog

namespace HandlerConfig

/-- All settings, under the keys that they are read by. -/
def toToml (config : HandlerConfig) : Value :=
  .table [
    ("log_level", .string config.logLevel.code),
    ("app_name", .string config.appName),
    ("icon", .string config.icon),
    ("media_folders", textArray config.mediaFolders),
    ("import_target", .string config.importTarget),
    ("import", config.imports.toToml),
    ("messages", config.messages.toToml)]

end HandlerConfig

end RemovableMedia
