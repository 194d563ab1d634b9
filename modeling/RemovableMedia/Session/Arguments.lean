import RemovableMedia.Log

/-!
# Arguments of the command line

Two options can be given, each once, with the value in the next argument or
after an equals sign: `--config` names a file of settings, and `--log-level`
overrides the level that the settings ask for.
-/

namespace RemovableMedia

/-- What the arguments ask for, as far as it is not left to the settings. -/
structure Arguments where
  config : Option String := none
  logLevel : Option LogLevel := none
  deriving DecidableEq, Repr

/-- Why arguments make no sense. -/
inductive ArgumentFault where
  | unexpected (argument : String)
  | missingValue (option : String)
  | badValue (option value : String)
  | repeated (option : String)
  deriving DecidableEq, Repr

namespace ArgumentFault

/-- What is told of a fault. -/
def message : ArgumentFault → String
  | unexpected argument => "unexpected argument '" ++ argument ++ "' found"
  | missingValue option => "a value is required for '" ++ option ++ "'"
  | badValue option value =>
      "invalid value '" ++ value ++ "' for '" ++ option ++ "'"
  | repeated option =>
      "the argument '" ++ option ++ "' cannot be used multiple times"

end ArgumentFault

/-- What the command line asks for. -/
inductive Invocation where
  | help
  | start (arguments : Arguments)
  deriving DecidableEq, Repr

namespace Arguments

/-- The option that names the file of settings. -/
def configOption : String := "--config"

/-- The option that sets the level of the log. -/
def levelOption : String := "--log-level"

/-- Arguments that start with a dash are options, a dash alone apart. -/
def looksLikeOption (argument : String) : Bool :=
  argument.toList.head? = some '-' && argument ≠ "-"

/-- The name of an option and the value that is joined to it. -/
def splitEquals (argument : String) : String × Option String :=
  match argument.toList.dropWhile (· ≠ '=') with
  | [] => (argument, none)
  | _ :: value =>
      (String.ofList (argument.toList.takeWhile (· ≠ '=')),
        some (String.ofList value))

/-- Takes in the path of the settings, which is given once at most. -/
def setConfig (arguments : Arguments) (value : String) :
    Except ArgumentFault Arguments :=
  if arguments.config.isSome then .error (.repeated configOption)
  else if value = "" then .error (.badValue configOption value)
  else .ok { arguments with config := some value }

/-- Takes in the level of the log, which is given once at most. -/
def setLevel (arguments : Arguments) (value : String) :
    Except ArgumentFault Arguments :=
  if arguments.logLevel.isSome then .error (.repeated levelOption)
  else match LogLevel.all.find? fun level => level.code = value with
    | some level => .ok { arguments with logLevel := some level }
    | none => .error (.badValue levelOption value)

/-- What to do with the value of an option, if there is such an option. -/
def setter? (option : String) :
    Option (Arguments → String → Except ArgumentFault Arguments) :=
  if option = configOption then some setConfig
  else if option = levelOption then some setLevel
  else none

/-- Reads the arguments from left to right. -/
def parse (arguments : Arguments) :
    List String → Except ArgumentFault Invocation
  | [] => .ok (.start arguments)
  | ["--"] => .ok (.start arguments)
  | "--" :: argument :: _ => .error (.unexpected argument)
  | "--help" :: _ => .ok .help
  | "-h" :: _ => .ok .help
  | [argument] => do
      match setter? (splitEquals argument).1, (splitEquals argument).2 with
      | none, _ => throw (.unexpected argument)
      | some set, some value => return .start (← set arguments value)
      | some _, none => throw (.missingValue argument)
  | argument :: next :: rest => do
      match setter? (splitEquals argument).1, (splitEquals argument).2 with
      | none, _ => throw (.unexpected argument)
      | some set, some value => parse (← set arguments value) (next :: rest)
      | some set, none =>
          if looksLikeOption next then throw (.missingValue argument)
          else parse (← set arguments next) rest

end Arguments

end RemovableMedia
