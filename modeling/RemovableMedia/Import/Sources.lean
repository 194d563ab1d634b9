import RemovableMedia.Import.Policy
import RemovableMedia.Import.Roster
import RemovableMedia.Import.Script
import RemovableMedia.Storage.Volumes

/-!
# Who answers

Questions about volumes are answered from the file system or from a list, and
questions about the policy from the settings or from a list.
-/

namespace RemovableMedia

/-- Volumes of a file system and the policy of the settings. -/
def ImportScript.ofFiles (files : FileSystem) (settings : ImportSettings) :
    ImportScript where
  resolveVolume := files.resolveVolume
  isImportEnabled := .ok settings.enabled
  isVolumeEligible volume := .ok (settings.isEligible volume.mountPath)
  displayRoot := files.displayRoot
  subdirectory := files.subdirectory
  isCompanionImporting := .ok settings.companionAppHandlesImport

namespace Collaborators

/-- Volumes are asked of the first, the policy of the second. -/
def combine (volumes policy : Collaborators) : Collaborators
  | .isImportEnabled => policy .isImportEnabled
  | .isVolumeEligible volume => policy (.isVolumeEligible volume)
  | .isCompanionImporting => policy .isCompanionImporting
  | query => volumes query

/-- Collaborators that look at the files and at the settings. -/
def ofTree (tree : FileTree) (settings : ImportSettings) : Collaborators :=
  (ImportScript.ofFiles tree.files settings).collaborators

end Collaborators

end RemovableMedia
