import Console.Command.Builtin
import Console.Hooks
import Console.Printer

/-!
# The engine

The state that all sessions share, and what a single event does to it: a session begins or ends,
an expression is evaluated, an error is reported, the history is loaded or saved.
-/

namespace Console

/-- The state of a console. -/
structure Engine where
  desk : Desk
  calculator : Calculator := {}
  context : Context := {}
  registry : Registry := .builtin
  sessions : SessionStack := {}
  /-- What waited to be evaluated in the sessions around the innermost one, innermost first. -/
  suspended : List Buffer := []
  prompts : Prompts
  settings : Settings := {}
  /-- The history file, as long as it works. -/
  historyFile : Option String := none
  loadOnStart : Bool := true
  saveOnExit : Bool := true
  hooks : Hooks := .empty

namespace Engine

/-- Changes the transcript. -/
def record (engine : Engine) (change : Transcript → Transcript) : Engine :=
  { engine with desk := { engine.desk with transcript := change engine.desk.transcript } }

/-- Logs a message. -/
def log (engine : Engine) (level : LogLevel) (message : String) : Engine :=
  engine.record (·.log level message)

/-- Writes a text; a failure is logged with a complaint. -/
def write (engine : Engine) (complaint text : String) : Engine :=
  engine.record (·.writeOr complaint text)

/-- Changes the expression buffer. -/
def withBuffer (engine : Engine) (buffer : Buffer) : Engine :=
  { engine with desk := { engine.desk with buffer } }

/-- Reports an error. -/
def report (engine : Engine) (error : Error) : Engine :=
  (engine.log .debug ("reporting " ++ error.debugText)).write "Failed to report error"
    (Colour.red.paintIf engine.settings.colours "Error:" ++ " " ++ error.message ++ "\n")

/-- Writes the outcome of an evaluation. -/
def print (engine : Engine) (result : Except EvalError Value) : Engine :=
  engine.write "Failed to print result" (resultText engine.settings.colours result)

/-- Runs the hooks of a boundary. -/
def runHooks (engine : Engine) (boundary : Boundary) (target : Value) (level : Nat) : Engine :=
  let begun := engine.record (·.add (.session boundary target level))
  let (memory, transcript) :=
    Hooks.call target level (engine.hooks.at boundary) engine.hooks.memory begun.desk.transcript
  { begun.record fun _ => transcript with hooks := engine.hooks.remembering memory }

/-- The prompt for the next line. -/
def prompt (engine : Engine) : String :=
  let prompts := engine.prompts
  let render := if engine.desk.buffer.isEmpty then prompts.first else prompts.continuation
  render engine.sessions.target engine.sessions.level

/-- Begins a session inside the innermost one.  What waits to be evaluated is put aside. -/
def enter (engine : Engine) (target : Value) : Engine :=
  let level := engine.sessions.size
  let id := engine.sessions.nextId
  let engine := engine.runHooks .before target level
  let engine :=
    { engine.withBuffer .empty with
      sessions := engine.sessions.push target
      suspended := engine.desk.buffer :: engine.suspended }
  engine.log .debug
    ("session " ++ natText id ++ " started at level " ++ natText level)

/-- Ends the innermost session on the way out to a depth.  What was put aside for it is taken up
again. -/
def leave (engine : Engine) (session : Session) (depth : Nat) : Engine :=
  let level := engine.sessions.level
  let buffer := engine.suspended.head?.getD .empty
  let engine :=
    { engine.withBuffer buffer with
      sessions := engine.sessions.pop
      suspended := engine.suspended.tail }
  let engine := engine.log .debug
    ("session " ++ natText session.id ++ " ended, unwinding to level " ++ natText depth)
  engine.runHooks .after session.target level

/-- The identity of the innermost session. -/
def session? (engine : Engine) : Option Nat := engine.sessions.current?.map (·.id)

/-- Evaluates a text in the innermost session. -/
def evaluate (engine : Engine) (source : String) : Except EvalError Value × Engine :=
  let (result, calculator) :=
    engine.calculator.evaluate source engine.sessions.target engine.context.lastResult
  (result, { engine with calculator })

/-- Evaluates the buffer, which is empty afterwards. -/
def evaluateBuffer (engine : Engine) : Engine :=
  let source := engine.desk.buffer.text
  let session := engine.session?
  let (result, engine) := (engine.withBuffer .empty).evaluate source
  let engine := (engine.record (·.add (.evaluated session source result))).print result
  { engine with context := engine.context.record session result }

/-- Evaluates the buffer if it is complete, and forgets it if it is blank. -/
def settle (engine : Engine) : Engine :=
  let buffer := engine.desk.buffer
  if buffer.isBlank then engine.withBuffer .empty
  else if Calculator.isComplete buffer.text then engine.evaluateBuffer
  else engine

/-- What a command may look at. -/
def surroundings (engine : Engine) (lineIndex : Option Nat) : Surroundings where
  catalogue := engine.registry.catalogue
  sessions := engine.sessions
  calculator := engine.calculator
  settings := engine.settings
  lineIndex := lineIndex

/-- Adds a line that was typed to the history, unless it is blank; the result is its number. -/
def remember (engine : Engine) (origin : Origin) (line : String) : Option Nat × Engine :=
  match origin with
  | .injected => (none, engine)
  | .interactive =>
      if isBlankText line then (none, engine)
      else
        let history := engine.desk.history
        (some history.size,
          { engine with desk := { engine.desk with history := history.push line } })

/-- The history file does not work: this is reported once, and from now on the history is kept in
memory only. -/
def giveUpHistoryFile (engine : Engine) (path : String) (cause : IoCause) : Engine :=
  let error : Error := .persistence path cause
  let engine := engine.log .warn (error.message ++ "; history is kept in memory only")
  { engine.report error with historyFile := none }

/-- The engine with another history and other files. -/
def withHistory (engine : Engine) (history : History) (storage : Storage) : Engine :=
  { engine with desk := { engine.desk with history, storage } }

/-- Loads the history file, if that is wanted. -/
def loadHistory (engine : Engine) : Engine :=
  match engine.loadOnStart, engine.historyFile with
  | true, some path =>
      match engine.desk.history.load path engine.desk.storage with
      | (.ok found, history, storage) =>
          let engine := engine.withHistory history storage
          let engine :=
            match found with
            | some count =>
                engine.log .debug
                  ("loaded " ++ natText count ++ " history lines from " ++ path)
            | none => engine
          engine.log .debug ("history: " ++ natText (found.getD 0) ++ " lines from " ++ path)
      | (.error cause, history, storage) =>
          (engine.withHistory history storage).giveUpHistoryFile path cause
  | _, _ => engine

/-- The log record of a save that found a file with a number of lines. -/
def savingMessage (path : String) (onDisk pending : Nat) : String :=
  "history file " ++ path ++ " has " ++ natText onDisk ++ " lines, appending " ++ natText pending

/-- Saves the history, if that is wanted. -/
def saveHistory (engine : Engine) : Engine :=
  match engine.saveOnExit, engine.historyFile with
  | true, some path =>
      let pending := engine.desk.history.pending.length
      match engine.desk.history.save path engine.desk.storage with
      | (.ok saved, history, storage) =>
          let engine := engine.withHistory history storage
          let engine := engine.log .debug (savingMessage path saved.onDisk pending)
          engine.log .debug
            ("history: " ++ natText saved.written ++ " lines saved to " ++ path)
      | (.error (.unread cause), history, storage) =>
          (engine.withHistory history storage).giveUpHistoryFile path cause
      | (.error (.unwritten onDisk cause), history, storage) =>
          let engine := engine.withHistory history storage
          let engine := engine.log .debug (savingMessage path onDisk pending)
          engine.giveUpHistoryFile path cause
  | _, _ => engine

end Engine

end Console
