import Console.Config.Reader
import Console.Editor.Process
import Console.Engine.Run

/-!
# The command line

The program reads its options, then its configuration, then the script it is to run, and starts a
console on the script or on its standard input.  What the console writes goes to the standard
output; errors of the program, and the log, go to the standard error.
-/

namespace Console

namespace Engine

/-- The engine as a configuration wants it; the history file is the one that is configured, and the
editor gets the environment. -/
def configured (engine : Engine) (host : Host) (config : Config)
    (environment : Environment := []) : Engine :=
  let desk :=
    match config.editor with
    | some command => { engine.desk with editor := .process host command environment }
    | none => engine.desk
  { engine with
    desk
    prompts := .standard config.promptName
    settings := ⟨if config.baseOne then .one else .zero, config.colours⟩
    historyFile := config.historyFile
    loadOnStart := config.loadHistory
    saveOnExit := config.saveHistory }

end Engine

namespace CommandLine

/-- The options of the program. -/
def spec : Flags.Spec where
  name := programName
  about := "A nestable read-eval-print loop engine with meta-commands and shared, " ++
    "append-only history"
  options :=
    [{ long := "config", short := some 'c', takes := .value "FILE" .path
       help := "Config file to use instead of the user config" },
     { long := "history-file", takes := .value "FILE" .path
       help := "History file to load and append to" },
     { long := "no-history", help := "Keep history in memory only (implied by SCRIPT)" },
     { long := "no-color", help := "Disable coloured output" },
     { long := "base-zero", help := "Number input buffer lines from 0" },
     { long := "verbose", short := some 'v', effect := .tally
       help := "More logging (-v info, -vv debug)" },
     Flags.helpOption,
     Flags.versionOption]
  argument := some
    { name := "SCRIPT", kind := .path
      help := "Read input from this file instead of the terminal" }

/-- What the program is started with. -/
structure Invocation where
  host : Host
  arguments : List String := []
  environment : Environment := []
  storage : Storage := {}
  /-- The standard input. -/
  input : Utf8.Bytes := []

/-- What the program leaves behind. -/
structure Report where
  code : Nat := 0
  output : String := ""
  errors : String := ""
  storage : Storage

/-! ## The log -/

/-- How much is logged, given how often more was asked for. -/
def logLevel : Nat → LogLevel
  | 0 => .warn
  | 1 => .info
  | _ => .debug

/-- The importance of a log record as a number. -/
def rank : LogLevel → Nat
  | .debug => 0
  | .info => 1
  | .warn => 2
  | .error => 3

/-- The importance of a log record at the beginning of its line. -/
def label : LogLevel → String
  | .debug => "DEBUG"
  | .info => " INFO"
  | .warn => " WARN"
  | .error => "ERROR"

/-- A character in a log record; those that could command a terminal are written as escapes. -/
def logged (c : Char) : List Char :=
  if c = '\x07' || c = '\x08' || c = '\x0c' || c = '\x1b' || c = '\x7f' then
    "\\x".toList ++ (if c.toNat < 16 then ['0'] else []) ++ Text.hexDigits c.toNat
  else if '\u0080' ≤ c && c ≤ '\u009f' then
    "\\u\x7b".toList ++ Text.hexDigits c.toNat ++ ['\x7d']
  else [c]

/-- A log record as a line. -/
def logLine (level : LogLevel) (message : String) : String :=
  label level ++ " " ++ .ofList (message.toList.flatMap logged) ++ "\n"

/-- The log records of at least the given importance, and the complaints of other programs. -/
def logOf (least : LogLevel) (transcript : Transcript) : String :=
  String.join (transcript.events.reverse.filterMap fun event =>
    match event with
    | .logged level message =>
        if rank least ≤ rank level then some (logLine level message) else none
    | .complained text => some text
    | _ => none)

/-! ## Running -/

/-- The report of a failure with its cause. -/
def failure (storage : Storage) (context cause : String) : Report where
  code := 1
  errors := "Error: " ++ context ++ "\n\nCaused by:\n    " ++ cause
  storage := storage

/-- The report of a configuration that cannot be used; the wording of a malformed one has no
end. -/
def configFailure (storage : Storage) (context : String) (error : ConfigError) : Report :=
  let ending :=
    match error with
    | .unread _ => "\n"
    | .malformed => ""
  failure storage context (error.message ++ ending)

/-- The settings for a run: those that are configured, as far as the options do not say
otherwise.  There is no terminal, hence no colour. -/
def effective (config : Config) (given : Flags.Given) (environment : Environment) : Config :=
  let inMemory := given.has "no-history" || given.has "SCRIPT"
  let config :=
    { config with
      historyFile := (given.text? "history-file").or config.historyFile
      loadHistory := config.loadHistory && !inMemory
      saveHistory := config.saveHistory && !inMemory
      colours := false
      baseOne := config.baseOne && !given.has "base-zero" }
  { config with historyFile := config.historyPath? environment }

/-- Reads the configuration that the options ask for. -/
def loadConfig (given : Flags.Given) (environment : Environment) (storage : Storage) :
    Except Report Config × Storage :=
  match given.text? "config" with
  | some path =>
      match Config.load path storage with
      | (.ok config, storage) => (.ok config, storage)
      | (.error error, storage) =>
          (.error (configFailure storage ("Failed to load config: " ++ path) error), storage)
  | none =>
      match Config.loadUser environment storage with
      | (.ok config, storage) => (.ok config, storage)
      | (.error error, storage) =>
          (.error (configFailure storage "Failed to load user config" error), storage)

/-- What the console reads: the script if there is one, or else the standard input. -/
def loadSource (given : Flags.Given) (input : Utf8.Bytes) (storage : Storage) :
    Except Report Source × Storage :=
  match given.text? "SCRIPT" with
  | none => (.ok (.ofBytes input), storage)
  | some path =>
      match storage.readText (.path path) with
      | (.ok text, storage) => (.ok (.ofScript text), storage)
      | (.error cause, storage) =>
          (.error (failure storage ("Failed to read script: " ++ path) (cause.message ++ "\n")),
            storage)

/-- The log record with which a run begins. -/
def greeting (config : Config) : String :=
  programName ++ " " ++ programVersion ++ " with " ++ config.debugText

/-- An engine that is ready to run. -/
def engineOf (host : Host) (config : Config) (environment : Environment) (source : Source)
    (transcript : Transcript) (storage : Storage) : Engine :=
  let engine : Engine :=
    { desk :=
        { transcript, storage, input := { base := source }
          editor := .process host environment.editorCommand environment }
      prompts := .standard programName }
  engine.configured host config environment

/-- Runs the program with its options; none if the console has not ended within `fuel` steps. -/
def runGiven (fuel : Nat) (invocation : Invocation) (given : Flags.Given) : Option Report :=
  let least := logLevel (given.tally "verbose")
  match loadConfig given invocation.environment invocation.storage with
  | (.error report, _) => some report
  | (.ok config, storage) =>
      let config := effective config given invocation.environment
      let transcript := ({} : Transcript).log .debug (greeting config)
      match loadSource given invocation.input storage with
      | (.error report, _) =>
          some { report with errors := logOf least transcript ++ report.errors }
      | (.ok source, storage) =>
          let engine :=
            engineOf invocation.host config invocation.environment source transcript storage
          (engine.start fuel .main).map fun (_, engine) =>
            { output := engine.desk.transcript.output
              errors := logOf least engine.desk.transcript
              storage := engine.desk.storage }

/-- Runs the program; none if the console has not ended within `fuel` steps. -/
def run (fuel : Nat) (invocation : Invocation) : Option Report :=
  match spec.read invocation.arguments with
  | .ok given => runGiven fuel invocation given
  | .error .help => some { output := spec.help, storage := invocation.storage }
  | .error .version =>
      some
        { output := programName ++ " " ++ programVersion ++ "\n", storage := invocation.storage }
  | .error (.failure failure) =>
      some { code := 2, errors := failure.message ++ "\n", storage := invocation.storage }

end CommandLine

end Console
