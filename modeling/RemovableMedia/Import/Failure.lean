import RemovableMedia.Host.Error

/-!
# Why no media folder is opened
-/

namespace RemovableMedia

/-- Why no folder is opened. -/
inductive ImportFailure where
  | host (error : HostError)
  | missingVolumeId
  | importDisabled (volumeId : String)
  | mediaFolderNotFound (volumeId : String)
  deriving DecidableEq, Repr

namespace ImportFailure

/-- The words of the failure in the log. -/
def message : ImportFailure → String
  | host error => "Host error: " ++ error.text
  | missingVolumeId => "No volume id associated with event"
  | importDisabled volumeId => "Import disabled for volume: " ++ volumeId
  | mediaFolderNotFound volumeId => "No media folder on volume: " ++ volumeId

end ImportFailure

end RemovableMedia
