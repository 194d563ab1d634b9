import RemovableMedia.Notification.Kind

/-!
# Identities of notifications

The identity of a notification is a heading and a device path.  Its text has
a colon between the two; as headings have no colon, the first colon of a text
is the one that separates.
-/

namespace RemovableMedia

/-- What tells one notification from another. -/
structure NotificationId where
  heading : String
  devicePath : String
  deriving DecidableEq, Repr

namespace NotificationId

/-- The text under which hosts know the notification. -/
def text (id : NotificationId) : String :=
  id.heading ++ ":" ++ id.devicePath

/-- Splits a text at its first colon. -/
def splitColon? : List Char → Option (List Char × List Char)
  | [] => none
  | ':' :: rest => some ([], rest)
  | c :: rest =>
      (splitColon? rest).map fun (heading, path) => (c :: heading, path)

/-- The identity that a text stands for; one without a colon stands for none. -/
def parse? (text : String) : Option NotificationId :=
  (splitColon? text.toList).map fun (heading, path) =>
    ⟨String.ofList heading, String.ofList path⟩

end NotificationId

/-- The text of an identity up to its first colon, or all of it. -/
def headingOf (id : String) : String :=
  String.ofList (id.toList.takeWhile (· ≠ ':'))

/-- The identity of the notification that a kind has for a device. -/
def NotificationKind.idFor (kind : NotificationKind) (devicePath : String) :
    NotificationId :=
  ⟨kind.family.heading, devicePath⟩

end RemovableMedia
