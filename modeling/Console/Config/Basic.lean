import Console.Text.Quoted

/-!
# Configuration

What the console can be told before it starts, and where it looks for that: a directory for its
files, which the environment gives, with the configuration and the history in it.
-/

namespace Console

/-- The name of the program, which its prompts show. -/
def programName : String := "nestrepl"

/-- The version of the program. -/
def programVersion : String := "0.3.2"

/-- The settings of a console. -/
structure Config where
  /-- The name that the prompts show. -/
  promptName : String := programName
  historyFile : Option String := none
  loadHistory : Bool := true
  saveHistory : Bool := true
  colours : Bool := true
  /-- Whether lines are numbered from one. -/
  baseOne : Bool := true
  /-- The command line of the editor. -/
  editor : Option String := none
  /-- Whether lines are edited with the keys of `vi`. -/
  viMode : Bool := false
  deriving DecidableEq, Repr

/-- The variables of the environment with their values. -/
abbrev Environment := List (String × String)

/-- The value of a variable. -/
def Environment.get? (environment : Environment) (name : String) : Option String :=
  environment.lookup name

/-- A path below a directory. -/
def joinPath (directory path : String) : String :=
  if directory.isEmpty || path.toList.head? = some '/' then path
  else if directory.toList.getLast? = some '/' then directory ++ path
  else directory ++ "/" ++ path

namespace Environment

/-- The directory of the console's own files. -/
def directory? (environment : Environment) : Option String :=
  match environment.get? "XDG_CONFIG_HOME" with
  | some base => some (joinPath base programName)
  | none =>
      match environment.get? "HOME" with
      | some home => some (joinPath (joinPath home ".config") programName)
      | none => (environment.get? "APPDATA").map fun base => joinPath base programName

/-- The path of the user's configuration. -/
def configPath? (environment : Environment) : Option String :=
  environment.directory?.map fun directory => joinPath directory "config.toml"

/-- The command line of the editor if the configuration has none. -/
def editorCommand (environment : Environment) : String :=
  match environment.get? "VISUAL", environment.get? "EDITOR" with
  | some command, _ => command
  | none, some command => command
  | none, none => "vi"

end Environment

namespace Config

/-- The history file that is configured, or else the one among the console's own files. -/
def historyPath? (config : Config) (environment : Environment) : Option String :=
  config.historyFile.or (environment.directory?.map fun directory => joinPath directory "history")

/-- An optional text as it is logged. -/
def optionalText : Option String → String
  | none => "None"
  | some text => "Some(" ++ quotedText text ++ ")"

/-- A truth value as it is logged. -/
def boolText (value : Bool) : String := if value then "true" else "false"

/-- The settings as they are logged. -/
def debugText (config : Config) : String :=
  "ReplConfig \x7b prompt_name: " ++ quotedText config.promptName ++
    ", history_file: " ++ optionalText config.historyFile ++
    ", load_history: " ++ boolText config.loadHistory ++
    ", save_history: " ++ boolText config.saveHistory ++
    ", colors: " ++ boolText config.colours ++
    ", base_one: " ++ boolText config.baseOne ++
    ", editor: " ++ optionalText config.editor ++
    ", vi_mode: " ++ boolText config.viMode ++ " \x7d"

end Config

end Console
