import RemovableMedia.Host.Error
import RemovableMedia.Notification.Content

/-!
# Calls to collaborators

A call to a collaborator gives a value, fails with an error, or panics.  A
notification host is a state that answers three calls.
-/

namespace RemovableMedia

/-- What comes of a call. -/
inductive Outcome (α : Type) where
  | done (value : α)
  | failed (error : HostError)
  | panicked
  deriving DecidableEq, Repr

/-- A service that shows notifications under the texts of their identities.
To create one that is shown already is to update it. -/
class NotificationHost (σ : Type) where
  create : String → NotificationContent → σ → Outcome Unit × σ
  /-- Says whether a notification was there to be removed. -/
  clear : String → σ → Outcome Bool × σ
  visibleIds : σ → Outcome (List String) × σ

end RemovableMedia
