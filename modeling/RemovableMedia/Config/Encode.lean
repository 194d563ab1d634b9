import RemovableMedia.Config.Settings
import RemovableMedia.Json.Writer

/-!
# Settings as a JSON value
-/

namespace RemovableMedia

open Json

def textList (texts : List String) : Json.Value := .array (texts.map .text)

namespace ImportSettings

/-- What is written of the settings of imports. -/
def encode (settings : ImportSettings) : Json.Value :=
  .object [
    member "enabled" (.boolean settings.enabled),
    member "eligible_roots" (textList settings.eligibleRoots),
    member "companion_app_handles_import"
      (.boolean settings.companionAppHandlesImport)]

end ImportSettings

namespace Template

/-- A template is written with all its fields; a button that is not there is
null. -/
def encode (template : Template) : Json.Value :=
  .object [
    member "title" (.text template.title),
    member "message" (.text template.message),
    member "button_label" (.optionalText template.buttonLabel)]

end Template

namespace MessageCatalog

/-- The messages as one object, a member for each template and each text. -/
def encode (catalog : MessageCatalog) : Json.Value :=
  .object [
    member "device_navigation" catalog.deviceNavigation.encode,
    member "device_import" catalog.deviceImport.encode,
    member "device_fail" catalog.deviceFail.encode,
    member "device_fail_unknown" catalog.deviceFailUnknown.encode,
    member "device_external_storage_disabled"
      catalog.deviceExternalStorageDisabled.encode,
    member "device_hard_unplugged" catalog.deviceHardUnplugged.encode,
    member "format_start" catalog.formatStart.encode,
    member "format_success" catalog.formatSuccess.encode,
    member "format_fail" catalog.formatFail.encode,
    member "device_unsupported" (.text catalog.deviceUnsupported),
    member "device_unknown" (.text catalog.deviceUnknown),
    member "multipart_device_unsupported" (.text catalog.multipartUnsupported),
    member "multipart_device_unsupported_default"
      (.text catalog.multipartUnsupportedDefault)]

end MessageCatalog

namespace HandlerConfig

/-- All settings, under the keys that they are read by. -/
def encode (config : HandlerConfig) : Json.Value :=
  .object [
    member "log_level" (.text config.logLevel.code),
    member "app_name" (.text config.appName),
    member "icon" (.text config.icon),
    member "media_folders" (textList config.mediaFolders),
    member "import_target" (.text config.importTarget),
    member "import" config.imports.encode,
    member "messages" config.messages.encode]

end HandlerConfig

end RemovableMedia
