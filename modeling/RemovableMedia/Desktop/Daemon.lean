import RemovableMedia.Registry

/-!
# The notification daemon

The daemon of a desktop is a service of its own: it shows notices under numbers
of its choice, and may fail to do as it is asked.

A scripted daemon stands in for it where a session is run as a whole.  Asked to
replace a notification it keeps the number; otherwise it takes the next.  A
notice with a NUL in one of its texts cannot be sent over the bus, and the
daemon never hears of it.
-/

namespace RemovableMedia

/-- What the daemon is asked to show. -/
structure Notice where
  appName : String
  /-- The number of the notification to replace; zero for none. -/
  replacesId : UInt32
  icon : String
  summary : String
  body : String
  /-- Keys and labels of the buttons, in turn. -/
  actions : List String
  /-- Names and texts of further wishes. -/
  hints : List (String × String) := []
  /-- Milliseconds until the notice goes away; the daemon decides if this is
  negative. -/
  timeout : Int := -1
  deriving DecidableEq, Repr

namespace Notice

/-- All texts of a notice that go over the bus. -/
def texts (notice : Notice) : List String :=
  [notice.appName, notice.icon, notice.summary, notice.body] ++
    notice.actions ++ notice.hints.flatMap fun (name, wish) => [name, wish]

/-- Can the notice be sent? -/
def isSendable (notice : Notice) : Bool :=
  notice.texts.all fun text => !text.toList.contains '\u0000'

end Notice

/-- A daemon is a state that answers two calls, each with a value or with the
text of an error. -/
class NotificationDaemon (δ : Type) where
  /-- Shows a notice, and answers with the number that it has from now on. -/
  notify : Notice → δ → Except String UInt32 × δ
  close : UInt32 → δ → Except String Unit × δ

/-! ## A scripted daemon -/

/-- A call that has reached the daemon. -/
inductive DaemonCall where
  | notify (notice : Notice)
  /-- Closes a notification; `notice` is what it showed, if anything. -/
  | close (id : UInt32) (notice : Option Notice)
  deriving DecidableEq, Repr

/-- A daemon with the failures that it is to answer with. -/
structure ScriptedDaemon where
  /-- The number that was given last. -/
  lastId : UInt32 := 0
  notifyFault : Option String := none
  closeFault : Option String := none
  shown : Registry UInt32 Notice := .empty
  /-- The calls so far, in order, those that failed too. -/
  calls : List DaemonCall := []

namespace ScriptedDaemon

/-- The text of the error for a notice that cannot be sent. -/
def unsendable : String := "org.freedesktop.zbus.Error: no details"

/-- The text of an error that the daemon answers with. -/
def faultText (fault : String) : String :=
  "org.freedesktop.DBus.Error.Failed: " ++ fault

/-- The number under which a notice is shown. -/
def idFor (daemon : ScriptedDaemon) (notice : Notice) : UInt32 :=
  if notice.replacesId ≠ 0 then notice.replacesId else daemon.lastId + 1

/-- Shows a notice that has reached the daemon. -/
def display (notice : Notice) (daemon : ScriptedDaemon) :
    Except String UInt32 × ScriptedDaemon :=
  let called := { daemon with calls := daemon.calls ++ [.notify notice] }
  match daemon.notifyFault with
  | some fault => (.error (faultText fault), called)
  | none =>
      let id := daemon.idFor notice
      let lastId := if notice.replacesId ≠ 0 then daemon.lastId else id
      (.ok id, { called with lastId, shown := daemon.shown.insert id notice })

/-- Sends a notice to the daemon.  The answer is its number, or the text of
an error. -/
def notify (notice : Notice) (daemon : ScriptedDaemon) :
    Except String UInt32 × ScriptedDaemon :=
  if notice.isSendable then daemon.display notice
  else (.error unsendable, daemon)

/-- Closes a notification.  That there is none is no error. -/
def close (id : UInt32) (daemon : ScriptedDaemon) :
    Except String Unit × ScriptedDaemon :=
  let call := DaemonCall.close id (daemon.shown.find? id)
  let called := { daemon with calls := daemon.calls ++ [call] }
  match daemon.closeFault with
  | some fault => (.error (faultText fault), called)
  | none => (.ok (), { called with shown := daemon.shown.erase id })

instance : NotificationDaemon ScriptedDaemon := ⟨notify, close⟩

end ScriptedDaemon

end RemovableMedia
