import RemovableMedia.Desktop.Basic

/-!
# Watching a desktop

Signals of the daemon are watched by two watchers.  One forwards button
presses to whoever reads them, and ends with the first press that nobody
reads any more.  The other forgets notifications that were closed.
-/

namespace RemovableMedia

/-- What the daemon tells of its own accord. -/
inductive Signal where
  | actionInvoked (number : UInt32) (key : String)
  | notificationClosed (number : UInt32)
  /-- A signal of this name that cannot be read. -/
  | malformed (name : String)
  deriving DecidableEq, Repr

/-- Why a desktop cannot be watched. -/
inductive BusError where
  | connectionGone
  deriving DecidableEq, Repr

/-- A desktop with the two watchers of its daemon. -/
structure WatchedDesktop (δ : Type) where
  desktop : Desktop δ
  /-- Is the watcher of button presses at work? -/
  forwards : Bool := false
  /-- Is the watcher of closed notifications at work? -/
  forgets : Bool := false
  /-- Does anyone read the presses? -/
  presses : Bool := true
  /-- The identities forwarded so far, in order. -/
  clicks : List String := []
  log : Log := []

namespace WatchedDesktop

variable {δ : Type}

/-- Starts both watchers, if the connection to the daemon still stands. -/
def watch (desktop : Desktop δ) (connected : Bool) :
    Except BusError (WatchedDesktop δ) :=
  if connected then
    .ok { desktop, forwards := true, forgets := true, log := [.watching] }
  else
    .error .connectionGone

def record (watched : WatchedDesktop δ) (entry : LogEntry) : WatchedDesktop δ :=
  { watched with log := watched.log ++ [entry] }

/-- Hands a press on, if anyone reads it; otherwise the watcher ends. -/
def forward (watched : WatchedDesktop δ) (id : String) : WatchedDesktop δ :=
  let watched := watched.record (.buttonPressed id)
  if watched.presses then { watched with clicks := watched.clicks ++ [id] }
  else { watched with forwards := false }

/-- Is a watcher at work for the signals of this name? -/
def heeds (watched : WatchedDesktop δ) (name : String) : Bool :=
  (name = "ActionInvoked" && watched.forwards) ||
    (name = "NotificationClosed" && watched.forgets)

/-- What the watchers make of a signal. -/
def receive (watched : WatchedDesktop δ) : Signal → WatchedDesktop δ
  | .actionInvoked number key =>
      if watched.forwards then
        match watched.desktop.pressed? number key with
        | some id => watched.forward id
        | none => watched
      else
        watched
  | .notificationClosed number =>
      if watched.forgets then
        { watched with desktop := watched.desktop.forget number }
      else
        watched
  | .malformed name =>
      if watched.heeds name then watched.record (.malformedSignal name)
      else watched

/-- A call to the desktop, which leaves the watchers as they are. -/
def call {α : Type} (request : Desktop δ → Outcome α × Desktop δ)
    (watched : WatchedDesktop δ) : Outcome α × WatchedDesktop δ :=
  let (outcome, desktop) := request watched.desktop
  (outcome, { watched with desktop })

instance [NotificationDaemon δ] : NotificationHost (WatchedDesktop δ) where
  create id content := call (Desktop.create id content)
  clear id := call (Desktop.clear id)
  visibleIds := call Desktop.visibleIds

end WatchedDesktop

end RemovableMedia
