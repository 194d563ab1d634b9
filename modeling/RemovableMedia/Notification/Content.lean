/-!
# Content of notifications

What a host is asked to show.  A notification has at most one button.
-/

namespace RemovableMedia

/-- What a notification shows. -/
structure NotificationContent where
  title : String
  message : String
  icon : String
  buttonLabel : Option String := none
  deriving DecidableEq, Repr

end RemovableMedia
