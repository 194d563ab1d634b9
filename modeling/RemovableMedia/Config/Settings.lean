import RemovableMedia.Config.Messages
import RemovableMedia.Log

/-!
# Settings of the handler
-/

namespace RemovableMedia

/-- Which volumes may be opened for import. -/
structure ImportSettings where
  enabled : Bool := true
  /-- Volumes mounted at or below one of these are eligible. -/
  eligibleRoots : List String := ["/media", "/run/media"]
  /-- Does a companion application already import from new media? -/
  companionAppHandlesImport : Bool := false
  deriving DecidableEq, Repr

/-- All that can be configured. -/
structure HandlerConfig where
  logLevel : LogLevel := .info
  /-- The name under which notifications are sent. -/
  appName : String := "Removable Devices"
  icon : String := "drive-removable-media"
  /-- Names of media folders, most wanted first. -/
  mediaFolders : List String := ["DCIM", "dcim"]
  /-- The folder that the button of an import notification opens. -/
  importTarget : String := "DCIM"
  imports : ImportSettings := {}
  messages : MessageCatalog := {}
  deriving DecidableEq, Repr

end RemovableMedia
