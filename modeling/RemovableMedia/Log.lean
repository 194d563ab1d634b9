import RemovableMedia.Host.Error
import RemovableMedia.Mount.Status
import RemovableMedia.Navigation

/-!
# The log

What the handler reports about its own work.  An entry is the event that is
reported; its level and its text follow from it.  Where the text goes on with
words of another library, the text of an entry is what comes before them.
-/

namespace RemovableMedia

/-- How much an entry matters. -/
inductive LogLevel where
  | error
  | warn
  | info
  | debug
  | trace
  deriving DecidableEq, Repr

namespace LogLevel

/-- All levels, the gravest first. -/
def all : List LogLevel := [error, warn, info, debug, trace]

/-- The text of a level in arguments and settings. -/
def code : LogLevel → String
  | error => "error"
  | warn => "warn"
  | info => "info"
  | debug => "debug"
  | trace => "trace"

/-- What a line of the log starts with. -/
def title : LogLevel → String
  | error => "ERROR"
  | warn => "WARN"
  | info => "INFO"
  | debug => "DEBUG"
  | trace => "TRACE"

/-- The greater the rank, the less an entry of the level matters. -/
def rank : LogLevel → Nat
  | error => 0
  | warn => 1
  | info => 2
  | debug => 3
  | trace => 4

/-- Are entries of this level kept by a log of the given level? -/
def isKeptAt (level logLevel : LogLevel) : Bool := level.rank ≤ logLevel.rank

end LogLevel

/-- An event that is reported. -/
inductive LogEntry where
  /-- The job of a queue panicked. -/
  | jobPanicked (queue : String)
  | importTaskFailed
  | showFailed (id : String) (error : HostError)
  | clearFailed (id : String) (error : HostError)
  | listFailed (error : HostError)
  | navigationDropped
  | unknownChange (code : String)
  | malformedEvent (reason : String)
  | unreadableInput
  | malformedSignal (name : String)
  | starting
  | watching
  | ready
  | inputClosed
  | interrupted
  | stopped
  | openingFolder (volumeId fullPath : String)
  | navigationRequested (request : NavigationRequest)
  | deviceEvent (code devicePath : String)
  | statusChanged (devicePath : String) (old new : MountStatus)
  | statusForgotten (devicePath : String) (status : MountStatus)
  | queueingShow (id : String)
  | queueingHide (id : String)
  | alreadyVisible (id : String)
  | cleared (id : String)
  | foreignClick (id : String)
  | idleClick (id : String)
  | noFolderOpened (volumeId : Option String) (reason : String)
  | companionImports (volumeId : Option String)
  | buttonPressed (id : String)
  | folderMissing (name volumeId : String) (error : HostError)
  deriving DecidableEq, Repr

namespace LogEntry

/-- How much each of the events matters. -/
def level : LogEntry → LogLevel
  | jobPanicked _ => .error
  | importTaskFailed => .error
  | unreadableInput => .error
  | malformedSignal _ => .error
  | showFailed _ _ => .warn
  | clearFailed _ _ => .warn
  | listFailed _ => .warn
  | navigationDropped => .warn
  | unknownChange _ => .warn
  | malformedEvent _ => .warn
  | starting => .info
  | watching => .info
  | ready => .info
  | inputClosed => .info
  | interrupted => .info
  | stopped => .info
  | openingFolder _ _ => .info
  | navigationRequested _ => .info
  | deviceEvent _ _ => .debug
  | statusChanged _ _ _ => .debug
  | statusForgotten _ _ => .debug
  | queueingShow _ => .debug
  | queueingHide _ => .debug
  | alreadyVisible _ => .debug
  | cleared _ => .debug
  | foreignClick _ => .debug
  | idleClick _ => .debug
  | noFolderOpened _ _ => .debug
  | companionImports _ => .debug
  | buttonPressed _ => .debug
  | folderMissing _ _ _ => .trace

/-- The words of an entry. -/
def text : LogEntry → String
  | jobPanicked queue => "Queued action panicked queue=" ++ queue
  | importTaskFailed => "Auto-import task failed"
  | showFailed id error =>
      "Failed to show notification " ++ id ++ ": " ++ error.text
  | clearFailed id error =>
      "Failed to clear notification " ++ id ++ ": " ++ error.text
  | listFailed error =>
      "Failed to list visible notifications: " ++ error.text
  | navigationDropped => "Navigation receiver is gone, dropping request"
  | unknownChange code => "Unknown device event type: " ++ code
  | malformedEvent reason => "Ignoring malformed host event: " ++ reason
  | unreadableInput =>
      "Failed to read host events: stream did not contain valid UTF-8"
  | malformedSignal name => "Failed to parse " ++ name ++ " signal"
  | starting => "Starting device handler v0.1.0"
  | watching => "Watching notification actions"
  | ready => "Handler ready, reading host events from stdin"
  | inputClosed => "Host event stream closed"
  | interrupted => "Interrupted"
  | stopped => "Device handler stopped"
  | openingFolder volumeId fullPath =>
      "Opening " ++ fullPath ++ " on volume " ++ volumeId
  | navigationRequested request =>
      "Navigation requested: " ++ request.described
  | deviceEvent code devicePath =>
      "Device event " ++ code ++ " for " ++ devicePath
  | statusChanged devicePath old new =>
      "Mount status of " ++ devicePath ++ ": " ++ old.name ++ " -> " ++ new.name
  | statusForgotten devicePath status =>
      "Forgot mount status " ++ status.name ++ " of " ++ devicePath
  | queueingShow id => "Queueing show of " ++ id
  | queueingHide id => "Queueing hide of " ++ id
  | alreadyVisible id => "Notification " ++ id ++ " already visible"
  | cleared id => "Cleared notification " ++ id
  | foreignClick id => "Ignoring click on foreign notification " ++ id
  | idleClick id => "No action for notification " ++ id
  | noFolderOpened volumeId reason =>
      "No auto-open for " ++ Text.quotedOption volumeId ++ ": " ++ reason
  | companionImports volumeId =>
      "Companion app imports from " ++ Text.quotedOption volumeId ++
        ", not opening a window"
  | buttonPressed id => "Button pressed on " ++ id
  | folderMissing name volumeId error =>
      "No " ++ name ++ " on " ++ volumeId ++ ": " ++ error.text

/-- The line of an entry in the log. -/
def line (entry : LogEntry) : String :=
  entry.level.title ++ " " ++ entry.text

end LogEntry

/-- The entries of a log, in order. -/
abbrev Log := List LogEntry

end RemovableMedia
