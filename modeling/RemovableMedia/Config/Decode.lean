import RemovableMedia.Config.Settings
import RemovableMedia.Toml.Document
import RemovableMedia.Toml.Range

/-!
# Settings from a TOML document

A document lists what differs from the defaults.  Keys that mean nothing are
passed over if their numbers are in range; a value of the wrong type makes the
document unacceptable.  A table with known fields may be written as an array
of them in their order, and a date or a time counts as a table without any.
-/

namespace RemovableMedia

namespace Toml

/-- The values of the fields of a record, by the names of the fields. -/
abbrev Fields := List (String × Value)

/-- A table, or an array of the named fields from the first on. -/
def fields? (names : List String) : Value → Option Fields
  | .table entries =>
      if entries.all fun (name, value) => name ∈ names || value.isInRange then
        some entries
      else
        none
  | .array items => some (names.zip items)
  | .scalar (.time _) => some []
  | _ => none

def text? : Value → Option String
  | .string text => some text
  | _ => none

def boolean? : Value → Option Bool
  | .scalar (.boolean value) => some value
  | _ => none

def texts? : Value → Option (List String)
  | .array items => items.mapM text?
  | _ => none

/-- The value of a field, or its default when there is none. -/
def Fields.read {α : Type} (fields : Fields) (name : String)
    (decode : Value → Option α) (default : α) : Option α :=
  match (fields.find? fun field => field.1 = name).map Prod.snd with
  | some value => decode value
  | none => some default

end Toml

open Toml

namespace LogLevel

/-- An empty value that may go with the name of a level. -/
def isEmptyPayload : Toml.Value → Bool
  | .array [] => true
  | .table [] => true
  | _ => false

def ofCode? (code : String) : Option LogLevel :=
  all.find? fun level => level.code = code

/-- A level is a text, or a table with the level as its only key and nothing in
it. -/
def decode? : Toml.Value → Option LogLevel
  | .string code => ofCode? code
  | .table [(code, payload)] =>
      if isEmptyPayload payload then ofCode? code else none
  | _ => none

end LogLevel

namespace ImportSettings

def fieldNames : List String :=
  ["enabled", "eligible_roots", "companion_app_handles_import"]

/-- Settings that are not given keep their defaults; a setting of another type
spoils the whole table. -/
def decode? (value : Toml.Value) : Option ImportSettings := do
  let fields ← fields? fieldNames value
  let default : ImportSettings := {}
  let enabled ← fields.read "enabled" boolean? default.enabled
  let eligibleRoots ←
    fields.read "eligible_roots" texts? default.eligibleRoots
  let companionAppHandlesImport ←
    fields.read "companion_app_handles_import" boolean?
      default.companionAppHandlesImport
  return { enabled, eligibleRoots, companionAppHandlesImport }

end ImportSettings

namespace Template

/-- The keys that a template is read by. -/
def fieldNames : List String := ["title", "message", "button_label"]

/-- An empty label means that there is no button. -/
def button? (value : Toml.Value) : Option (Option String) :=
  (text? value).map fun label => if label = "" then none else some label

/-- Changes a template as configured. -/
def decode? (default : Template) (value : Toml.Value) : Option Template := do
  let fields ← fields? fieldNames value
  let title ← fields.read "title" text? default.title
  let message ← fields.read "message" text? default.message
  let buttonLabel ← fields.read "button_label" button? default.buttonLabel
  return { title, message, buttonLabel }

end Template

namespace MessageCatalog

/-- The keys of the messages: those of the templates first, then those of the
texts about failures. -/
def fieldNames : List String := [
  "device_navigation", "device_import", "device_fail", "device_fail_unknown",
  "device_external_storage_disabled", "device_hard_unplugged",
  "format_start", "format_success", "format_fail",
  "device_unsupported", "device_unknown", "multipart_device_unsupported",
  "multipart_device_unsupported_default"]

/-- Each template is read over the one that it stands for by default. -/
def decode? (value : Toml.Value) : Option MessageCatalog := do
  let fields ← fields? fieldNames value
  let default : MessageCatalog := {}
  let template (name : String) (default : Template) : Option Template :=
    fields.read name default.decode? default
  let deviceNavigation ← template "device_navigation" default.deviceNavigation
  let deviceImport ← template "device_import" default.deviceImport
  let deviceFail ← template "device_fail" default.deviceFail
  let deviceFailUnknown ←
    template "device_fail_unknown" default.deviceFailUnknown
  let deviceExternalStorageDisabled ←
    template "device_external_storage_disabled"
      default.deviceExternalStorageDisabled
  let deviceHardUnplugged ←
    template "device_hard_unplugged" default.deviceHardUnplugged
  let formatStart ← template "format_start" default.formatStart
  let formatSuccess ← template "format_success" default.formatSuccess
  let formatFail ← template "format_fail" default.formatFail
  let deviceUnsupported ←
    fields.read "device_unsupported" text? default.deviceUnsupported
  let deviceUnknown ←
    fields.read "device_unknown" text? default.deviceUnknown
  let multipartUnsupported ←
    fields.read "multipart_device_unsupported" text?
      default.multipartUnsupported
  let multipartUnsupportedDefault ←
    fields.read "multipart_device_unsupported_default" text?
      default.multipartUnsupportedDefault
  return {
    deviceNavigation, deviceImport, deviceFail, deviceFailUnknown,
    deviceExternalStorageDisabled, deviceHardUnplugged, formatStart,
    formatSuccess, formatFail, deviceUnsupported, deviceUnknown,
    multipartUnsupported, multipartUnsupportedDefault }

end MessageCatalog

namespace HandlerConfig

def fieldNames : List String := [
  "log_level", "app_name", "icon", "media_folders", "import_target",
  "import", "messages"]

/-- The settings that a table gives, over the defaults. -/
def decode? (value : Toml.Value) : Option HandlerConfig := do
  let fields ← fields? fieldNames value
  let default : HandlerConfig := {}
  let logLevel ← fields.read "log_level" LogLevel.decode? default.logLevel
  let appName ← fields.read "app_name" text? default.appName
  let icon ← fields.read "icon" text? default.icon
  let mediaFolders ← fields.read "media_folders" texts? default.mediaFolders
  let importTarget ← fields.read "import_target" text? default.importTarget
  let imports ← fields.read "import" ImportSettings.decode? default.imports
  let messages ← fields.read "messages" MessageCatalog.decode? default.messages
  return {
    logLevel, appName, icon, mediaFolders, importTarget, imports, messages }

/-- The settings that a TOML text describes. -/
def ofToml? (text : String) : Option HandlerConfig := do
  decode? (.table (← document? text))

end HandlerConfig

end RemovableMedia
