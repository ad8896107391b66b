import Console.Calculator.Token
import Console.Input
import Console.Value

/-!
# Transcript

What happens at the console, in order: what is written, what is asked for and answered, what is
logged, where sessions begin and end, and which lines they take and which expressions they
evaluate.  Writing may fail at any time, and fails for good once the output is closed.
-/

namespace Console

/-- How important a log record is. -/
inductive LogLevel where
  | debug
  | info
  | warn
  | error
  deriving DecidableEq, Repr

/-- An end of a session. -/
inductive Boundary where
  | before
  | after
  deriving DecidableEq, Repr

/-- Something that happens at the console. -/
inductive Event where
  | wrote (text : String)
  /-- A text was to be written, and the output has not taken it. -/
  | unwritten (text : String) (cause : IoCause)
  /-- The base source was asked for a line. -/
  | asked (prompt : String) (answer : Answer)
  | logged (level : LogLevel) (message : String)
  /-- Another program has complained. -/
  | complained (text : String)
  /-- A session on a target is about to begin at a level, or has ended. -/
  | session (boundary : Boundary) (target : Value) (level : Nat)
  /-- A session has taken a line, already without its line end. -/
  | took (session : Option Nat) (origin : Origin) (line : String)
  /-- A session has evaluated the text that waited in its buffer. -/
  | evaluated (session : Option Nat) (source : String) (result : Except EvalError Value)
  deriving Repr

/-- What has happened, newest first; and what will go wrong when something is written: an entry for
each of the next texts, and whether the output is closed after them. -/
structure Transcript where
  events : List Event := []
  faults : List (Option IoCause) := []
  closed : Bool := false
  deriving Repr

namespace Transcript

/-- Adds an event. -/
def add (transcript : Transcript) (event : Event) : Transcript :=
  { transcript with events := event :: transcript.events }

/-- A text is about to be written: whether that is made to fail. -/
def attempt (transcript : Transcript) : Option IoCause × Transcript :=
  match transcript.faults with
  | [] => (if transcript.closed then some .sinkClosed else none, transcript)
  | fault :: faults => (fault, { transcript with faults })

/-- Writes a text. -/
def write (transcript : Transcript) (text : String) : Except IoCause Unit × Transcript :=
  match transcript.attempt with
  | (some cause, transcript) => (.error cause, transcript.add (.unwritten text cause))
  | (none, transcript) => (.ok (), transcript.add (.wrote text))

/-- Adds what another program has written, which the console neither sees nor checks. -/
def addForeign (transcript : Transcript) (bytes : Utf8.Bytes) : Transcript :=
  if bytes.isEmpty then transcript else transcript.add (.wrote (Utf8.toTextLossy bytes))

/-- Adds what another program has complained about. -/
def addComplaints (transcript : Transcript) (bytes : Utf8.Bytes) : Transcript :=
  if bytes.isEmpty then transcript else transcript.add (.complained (Utf8.toTextLossy bytes))

/-- Logs a message. -/
def log (transcript : Transcript) (level : LogLevel) (message : String) : Transcript :=
  transcript.add (.logged level message)

/-- Writes a text; a failure is logged with a complaint and otherwise passed over. -/
def writeOr (transcript : Transcript) (complaint text : String) : Transcript :=
  match transcript.write text with
  | (.ok (), transcript) => transcript
  | (.error cause, transcript) => transcript.log .warn (complaint ++ ": " ++ cause.message)

/-- All that has been written, oldest first. -/
def output (transcript : Transcript) : String :=
  String.join (transcript.events.reverse.filterMap fun event =>
    match event with
    | .wrote text => some text
    | _ => none)

end Transcript

end Console
