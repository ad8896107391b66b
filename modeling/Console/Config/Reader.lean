import Console.Config.Basic
import Console.Storage
import Console.Toml.Reader

/-!
# Configuration files

A configuration file is a TOML document whose table `repl` has the settings.  Instead of a table,
it may list the values of the settings in their order.  What is left out keeps its default, and
what is not known is passed over, but a setting of the wrong type is an error.
-/

namespace Console

/-- Why a configuration file cannot be used. -/
inductive ConfigError where
  | unread (cause : IoCause)
  /-- It is no TOML document, or a setting has the wrong type. -/
  | malformed
  deriving DecidableEq, Repr

namespace ConfigError

/-- The wording of the error; what is wrong with a malformed file is not said. -/
def message : ConfigError → String
  | unread cause => "IO error: " ++ cause.message
  | malformed => "Config parse error: "

end ConfigError

namespace Config

/-- A setting that is a text. -/
def text? (default : String) : Option Toml.Value → Option String
  | none => some default
  | some (.text text) => some text
  | some _ => none

/-- A setting that is a text and has no default. -/
def optional? : Option Toml.Value → Option (Option String)
  | none => some none
  | some (.text text) => some (some text)
  | some _ => none

/-- A setting that is on or off. -/
def switch? (default : Bool) : Option Toml.Value → Option Bool
  | none => some default
  | some (.boolean value) => some value
  | some _ => none

/-- The settings, given the value of each name at a position. -/
def ofValues? (value : String → Nat → Option Toml.Value) : Option Config := do
  let default : Config := {}
  pure
    { promptName := ← text? default.promptName (value "prompt_name" 0)
      historyFile := ← optional? (value "history_file" 1)
      loadHistory := ← switch? default.loadHistory (value "load_history" 2)
      saveHistory := ← switch? default.saveHistory (value "save_history" 3)
      colours := ← switch? default.colours (value "colors" 4)
      baseOne := ← switch? default.baseOne (value "base_one" 5)
      editor := ← optional? (value "editor" 6)
      viMode := ← switch? default.viMode (value "vi_mode" 7) }

/-- The settings in a document.  A moment counts as a table of things that are not known. -/
def ofDocument? (document : Toml.Entries) : Option Config :=
  match document.get? "repl" with
  | none => some {}
  | some (.table _ entries) => ofValues? fun name _ => Toml.Entries.get? entries name
  | some (.array items) => ofValues? fun _ index => items[index]?
  | some (.tables earlier latest) =>
      ofValues? fun _ index => ((earlier ++ [latest])[index]?).map (Toml.Value.table .explicit)
  | some (.moment _) => some {}
  | some _ => none

/-- The settings in the text of a configuration file. -/
def ofText (text : String) : Except ConfigError Config :=
  match (Toml.read? text).bind ofDocument? with
  | some config => .ok config
  | none => .error .malformed

/-- Loads a configuration file; one that is missing leaves everything at its default. -/
def load (path : String) (storage : Storage) : Except ConfigError Config × Storage :=
  if !storage.holds path then (.ok {}, storage)
  else
    match storage.readText (.path path) with
    | (.ok text, storage) => (ofText text, storage)
    | (.error cause, storage) => (.error (.unread cause), storage)

/-- Loads the user's configuration. -/
def loadUser (environment : Environment) (storage : Storage) :
    Except ConfigError Config × Storage :=
  match environment.configPath? with
  | some path => load path storage
  | none => (.ok {}, storage)

end Config

end Console
