import RemovableMedia.Config.Settings
import RemovableMedia.Storage.Path

/-!
# Import policy from the settings
-/

namespace RemovableMedia

namespace ImportSettings

/-- Volumes mounted at or below an eligible root are eligible. -/
def isEligible (settings : ImportSettings) (mountPath : String) : Bool :=
  settings.eligibleRoots.any fun root => Path.isAtOrBelow root mountPath

end ImportSettings

end RemovableMedia
