import RemovableMedia.Config.Load
import RemovableMedia.Desktop.Watch
import RemovableMedia.Import.Sources
import RemovableMedia.Router.Schedule
import RemovableMedia.Session.Arguments
import RemovableMedia.Session.Input
import RemovableMedia.Wire.Event
import RemovableMedia.Wire.Notification

/-!
# A session

One run of the program, from its arguments to its exit.  Each line of the
input is an event; lines that are no events are reported and passed over.
When the input ends, or the session is interrupted, everything that was
started is still carried out.
-/

namespace RemovableMedia

/-- What happens while the input is open, after its lines were taken in. -/
inductive Happening where
  /-- The daemon got so many calls. -/
  | callsReached (count : Nat)
  /-- Someone presses the button of the notification with this number. -/
  | pressed (number : UInt32)
  | interrupted
  deriving DecidableEq, Repr

/-- What a session meets outside. -/
structure Environment where
  files : FileTree := {}
  busReachable : Bool := true
  input : List UInt8 := []
  happenings : List Happening := []

/-- What is seen of a session when it is over. -/
structure SessionReport where
  exitCode : UInt32
  /-- Entries above this level are not written. -/
  logLevel : LogLevel := .info
  log : Log := []
  /-- The requests that left the handler, in order. -/
  requests : List NavigationRequest := []
  calls : List DaemonCall := []

namespace SessionReport

/-- What is written to standard output. -/
def output (report : SessionReport) : String :=
  NavigationRequest.stream report.requests

/-- The entries that are written to standard error. -/
def writtenLog (report : SessionReport) : Log :=
  report.log.filter fun entry => entry.level.isKeptAt report.logLevel

end SessionReport

namespace Session

def success : UInt32 := 0

/-- Settings cannot be loaded, or no notification daemon can be reached. -/
def failure : UInt32 := 1

/-- The arguments make no sense. -/
def misuse : UInt32 := 2

/-- A session under way. -/
structure Progress where
  router : Router (WatchedDesktop ScriptedDaemon)
  /-- The families whose queues have work, in the order they got it. -/
  busy : List Family := []

namespace Progress

def record (progress : Progress) (entry : LogEntry) : Progress :=
  { progress with router := progress.router.record entry }

/-- Goes on with a changed router. -/
def goOn (progress : Progress)
    (router : Router (WatchedDesktop ScriptedDaemon)) : Progress :=
  ⟨router, router.queueUp progress.busy⟩

/-- Takes in a line of input. -/
def line (setting : Setting) (progress : Progress) (text : String) :
    Progress :=
  let text := Input.trimmed text
  if text = "" then progress
  else match Json.decodeText HostEvent.decode text with
    | .ok event => progress.goOn (progress.router.dispatch setting event)
    | .error error => progress.record (.malformedEvent error.message)

/-- The number of answers of the daemon that were waited for. -/
def daemonAnswers (router : Router (WatchedDesktop ScriptedDaemon)) : Nat :=
  router.desk.host.desktop.daemon.calls.length

/-- Lets everything that was started come to its end. -/
def settle (setting : Setting) (progress : Progress) : Progress :=
  ⟨progress.router.settleFairly setting daemonAnswers progress.busy, []⟩

/-- Takes what the desktop reported over into the log of the handler. -/
def takeOverLog (router : Router (WatchedDesktop ScriptedDaemon)) :
    Router (WatchedDesktop ScriptedDaemon) :=
  let desk := router.desk
  { router with desk := {
      host := { desk.host with log := [] }
      log := desk.log ++ desk.host.log } }

/-- Handles the button presses that the desktop forwards. -/
def receive (setting : Setting) (progress : Progress) (signal : Signal) :
    Progress :=
  let desk := progress.router.desk
  let before := desk.host.clicks.length
  let host := desk.host.receive signal
  let router :=
    takeOverLog { progress.router with desk := { desk with host } }
  progress.goOn <|
    (host.clicks.drop before).foldl (Router.buttonClicked setting) router

/-- Goes through what happens while the input is open.  The answer says
whether it is interrupted. -/
def attend (setting : Setting) (progress : Progress) :
    List Happening → Bool × Progress
  | [] => (false, progress)
  | .callsReached _ :: rest => (progress.settle setting).attend setting rest
  | .pressed number :: rest =>
      let pressed := Signal.actionInvoked number buttonKey
      ((progress.settle setting).receive setting pressed).attend setting rest
  | .interrupted :: _ => (true, progress.settle setting)

end Progress

/-- From the first line of input to the last notification. -/
def serve (setting : Setting) (environment : Environment)
    (start : Progress) : Progress :=
  let (lines, unreadable) :=
    Input.readable (Input.split environment.input)
  let progress := lines.foldl (Progress.line setting) start
  let progress :=
    if unreadable then progress.record .unreadableInput
    else
      let (interrupted, progress) :=
        progress.attend setting environment.happenings
      progress.record (if interrupted then .interrupted else .inputClosed)
  (progress.settle setting).record .stopped

/-- A session with settings that were loaded. -/
def start (environment : Environment) (config : HandlerConfig)
    (logLevel : LogLevel) : SessionReport :=
  let desktop : Desktop ScriptedDaemon :=
    { appName := config.appName, daemon := {} }
  match WatchedDesktop.watch desktop environment.busReachable with
  | .error _ => { exitCode := failure, logLevel, log := [.starting] }
  | .ok watched =>
      let setting : Setting :=
        ⟨config, .ofTree environment.files config.imports⟩
      let router := Progress.takeOverLog
        ((Router.ofConfig config watched).record .starting)
      let progress := serve setting environment ⟨router.record .ready, []⟩
      { exitCode := success
        logLevel
        log := progress.router.desk.log
        requests := progress.router.outbox.requests
        calls := progress.router.desk.host.desktop.daemon.calls }

/-- A run of the program with these arguments. -/
def run (environment : Environment) (arguments : List String) :
    SessionReport :=
  match Arguments.parse {} arguments with
  | .error _ => { exitCode := misuse }
  | .ok .help => { exitCode := success }
  | .ok (.start arguments) =>
      let loaded := match arguments.config with
        | some path => HandlerConfig.load environment.files path
        | none => .ok {}
      match loaded with
      | .error _ => { exitCode := failure }
      | .ok config =>
          start environment config
            (arguments.logLevel.getD config.logLevel)

end Session

end RemovableMedia
