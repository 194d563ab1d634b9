import RemovableMedia.Desktop.Daemon
import RemovableMedia.Host.Basic
import RemovableMedia.Log

/-!
# Notifications of a desktop

The desktop knows notifications by their identities and the daemon by
numbers.  A table from identities to numbers goes between them, and its
identities are the notifications that are taken to be visible.

To create or clear a notification takes two steps, one in the table and one
at the daemon, and between the two anything else may happen.
-/

namespace RemovableMedia

/-- The key of the only button. -/
def buttonKey : String := "button"

/-- A desktop as seen by those who show notifications on it. -/
structure Desktop (δ : Type) where
  appName : String
  table : Registry String UInt32 := .empty
  daemon : δ

namespace Desktop

variable {δ : Type}

/-- What the daemon is asked to show for a notification. -/
def notice (desktop : Desktop δ) (id : String) (content : NotificationContent) :
    Notice where
  appName := desktop.appName
  replacesId := (desktop.table.find? id).getD 0
  icon := content.icon
  summary := content.title
  body := content.message
  actions := match content.buttonLabel with
    | some label => [buttonKey, label]
    | none => []

/-- What a failed call to the daemon means to the caller. -/
def callFailed (call id fault : String) : HostError :=
  .unavailable (call ++ " failed for " ++ id ++ ": " ++ fault)

variable [NotificationDaemon δ]

/-! ## Creating -/

/-- The first step of creating: the daemon shows the notification. -/
def sendNotice (id : String) (content : NotificationContent)
    (desktop : Desktop δ) : Except String UInt32 × Desktop δ :=
  let notice := desktop.notice id content
  let (answer, daemon) := NotificationDaemon.notify notice desktop.daemon
  (answer, { desktop with daemon })

/-- The second step: the number that the daemon gave goes into the table. -/
def noteAnswer (id : String) (answer : Except String UInt32)
    (desktop : Desktop δ) : Outcome Unit × Desktop δ :=
  match answer with
  | .ok number =>
      (.done (), { desktop with table := desktop.table.insert id number })
  | .error fault => (.failed (callFailed "Notify" id fault), desktop)

/-- Creates a notification in one go. -/
def create (id : String) (content : NotificationContent)
    (desktop : Desktop δ) : Outcome Unit × Desktop δ :=
  let (answer, desktop) := desktop.sendNotice id content
  desktop.noteAnswer id answer

/-! ## Clearing -/

/-- The first step of clearing: the table forgets the notification. -/
def takeNumber (id : String) (desktop : Desktop δ) :
    Option UInt32 × Desktop δ :=
  (desktop.table.find? id, { desktop with table := desktop.table.erase id })

/-- The second step: the daemon closes the notification.  What the table
forgot stays forgotten when the daemon fails to do so. -/
def closeNumber (id : String) (number : UInt32) (desktop : Desktop δ) :
    Outcome Bool × Desktop δ :=
  let (answer, daemon) := NotificationDaemon.close number desktop.daemon
  let outcome := match answer with
    | .ok () => .done true
    | .error fault => .failed (callFailed "CloseNotification" id fault)
  (outcome, { desktop with daemon })

def clear (id : String) (desktop : Desktop δ) : Outcome Bool × Desktop δ :=
  match desktop.takeNumber id with
  | (none, desktop) => (.done false, desktop)
  | (some number, desktop) => desktop.closeNumber id number

/-! ## Looking and listening -/

/-- The identities in the table, in no particular order. -/
def visibleIds (desktop : Desktop δ) : Outcome (List String) × Desktop δ :=
  (.done desktop.table.keys, desktop)

instance : NotificationHost (Desktop δ) := ⟨create, clear, visibleIds⟩

/-- The notification whose button was pressed, by the daemon's number. -/
def pressed? (desktop : Desktop δ) (number : UInt32) (key : String) :
    Option String :=
  if key = buttonKey then desktop.table.keyOf? number else none

/-- Forgets what the daemon closed. -/
def forget (desktop : Desktop δ) (number : UInt32) : Desktop δ :=
  { desktop with table := desktop.table.filterValues (· ≠ number) }

end Desktop

end RemovableMedia
