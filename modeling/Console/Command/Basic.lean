import Console.Calculator.Basic
import Console.Editor
import Console.History
import Console.Transcript

/-!
# Commands

A command is recognised by its name or by a pattern, and is given arguments in return for an
outcome.  While it runs it may change what lies on the desk: the transcript, the expression
buffer, the history, the input and the files.  All else it may only look at.
-/

namespace Console

/-- What a line has to look like to invoke a command. -/
inductive MatcherKind where
  /-- The name, followed by nothing or by a blank character. -/
  | name
  | pattern (pattern : Pattern)
  deriving Repr

/-- How a command is recognised. -/
structure Matcher where
  name : String
  kind : MatcherKind
  deriving Repr

/-- A recognised command with what was captured from its line. -/
structure Recognized where
  name : String
  captures : List (Option String)
  deriving DecidableEq, Repr

namespace Matcher

/-- The matcher of a name. -/
def ofName (name : String) : Matcher := ⟨name, .name⟩

/-- The matcher of a pattern. -/
def ofPattern (name source : String) : Except Error Matcher :=
  match Pattern.read source with
  | .ok pattern => .ok ⟨name, .pattern pattern⟩
  | .error error => .error (.commandPattern error)

/-- The matcher of a pattern that matches any line in few ways. -/
def ofSimplePattern (name source : String) : Except Error Matcher :=
  match Pattern.readSimple source with
  | .ok pattern => .ok ⟨name, .pattern pattern⟩
  | .error error => .error (.commandPattern error)

/-- Whether a command is recognised by a pattern. -/
def isPattern (matcher : Matcher) : Bool :=
  match matcher.kind with
  | .name => false
  | .pattern _ => true

/-- A text without the given beginning. -/
def afterName? : List Char → List Char → Option (List Char)
  | [], rest => some rest
  | c :: name, d :: rest => if c = d then afterName? name rest else none
  | _ :: _, [] => none

/-- What a line says after a name that ends where a word ends. -/
def rest? (name : String) (line : String) : Option (Option String) :=
  match afterName? name.toList line.toList with
  | none => none
  | some [] => some none
  | some (c :: rest) =>
      if Text.isBlank c then
        let arguments := Text.trim (c :: rest)
        some (if arguments.isEmpty then none else some (.ofList arguments))
      else none

/-- What a line captures if it invokes the command. -/
def recognize? (matcher : Matcher) (line : String) : Option Recognized :=
  match matcher.kind with
  | .name => (rest? matcher.name line).map fun rest => ⟨matcher.name, [rest]⟩
  | .pattern pattern => (pattern.captures? line).map fun captures => ⟨matcher.name, captures⟩

/-- A matcher as it is shown. -/
def display (matcher : Matcher) : String :=
  match matcher.kind with
  | .name => matcher.name
  | .pattern pattern => "/" ++ pattern.source ++ "/"

end Matcher

/-- How many arguments a command is given. -/
inductive Arity where
  /-- Just as many; missing ones are absent and further ones are dropped. -/
  | fixed (count : Nat)
  | variadic
  deriving DecidableEq, Repr

/-- What is known of a command without running it. -/
structure Signature where
  matcher : Matcher
  help : String
  arity : Arity
  /-- Whether the captured text is split into words. -/
  interpolate : Bool := true
  /-- The command that this one is another name of. -/
  aliasOf : Option String := none
  deriving Repr

/-- The name of a command. -/
def Signature.name (signature : Signature) : String := signature.matcher.name

/-- What is known of all commands, in the order in which they are tried. -/
abbrev Catalogue := List Signature

namespace Catalogue

/-- The command with a name. -/
def get? (catalogue : Catalogue) (name : String) : Option Signature :=
  List.find? (·.name == name) catalogue

/-- The command that a line invokes. -/
def find? (catalogue : Catalogue) (line : String) : Option Signature :=
  List.find? (fun signature => (signature.matcher.recognize? line).isSome) catalogue

/-- Whether a line invokes a command. -/
def invokes (catalogue : Catalogue) (line : String) : Bool := (catalogue.find? line).isSome

/-- The other names of a command. -/
def aliasesOf (catalogue : Catalogue) (name : String) : List String :=
  (catalogue.filter (·.aliasOf == some name)).map Signature.name

/-- The command with a name, or else the one that the name invokes. -/
def lookup (catalogue : Catalogue) (name : String) : Except Error Signature :=
  match catalogue.get? name with
  | some signature => .ok signature
  | none =>
      match catalogue.find? name with
      | some signature => .ok signature
      | none => .error (.unknownCommand name)

end Catalogue

/-- How the console numbers and colours its output. -/
structure Settings where
  base : IndexBase := .one
  colours : Bool := false
  deriving DecidableEq, Repr

/-- What a command may look at. -/
structure Surroundings where
  catalogue : Catalogue
  sessions : SessionStack
  calculator : Calculator
  settings : Settings := {}
  /-- The number that the line has in the history, if it was added to it. -/
  lineIndex : Option Nat := none

/-- What a command may change. -/
structure Desk where
  transcript : Transcript := {}
  buffer : Buffer := .empty
  history : History := {}
  input : InputChain := {}
  storage : Storage := {}
  editor : Editor
  /-- The openings of the editor, newest first. -/
  openings : List Opening := []

/-- What becomes of the session after a command. -/
inductive Outcome where
  /-- It goes on. -/
  | next
  /-- The session at a depth ends, and all sessions inside it. -/
  | breakout (depth : Nat)
  /-- A session is started on the value of an expression. -/
  | nest (expression : String)
  deriving DecidableEq, Repr

/-- A change of the desk that may fail. -/
abbrev Action (α : Type) := EStateM Error Desk α

namespace Action

/-- Fails. -/
def fail {α : Type} (error : Error) : Action α := throw error

/-- The value, or the failure. -/
def ofExcept {α : Type} : Except Error α → Action α
  | .ok value => pure value
  | .error error => throw error

/-- Writes a line. -/
def say (text : String) : Action Unit := fun desk =>
  match desk.transcript.write (text ++ "\n") with
  | (.ok (), transcript) => .ok () { desk with transcript }
  | (.error cause, transcript) => .error (.io cause) { desk with transcript }

/-- Logs a message. -/
def log (message : String) : Action Unit := modify fun desk =>
  { desk with transcript := desk.transcript.log .debug message }

/-- Changes the expression buffer. -/
def changeBuffer (change : Buffer → Buffer) : Action Unit := modify fun desk =>
  { desk with buffer := change desk.buffer }

/-- Puts the lines of a text in front of the input. -/
def inject (text : String) : Action Unit := modify fun desk =>
  { desk with input := desk.input.inject text }

/-- Reads the text of a file; a failure becomes the error that is made of its cause. -/
def readText (location : Location) (error : IoCause → Error) : Action String := fun desk =>
  match desk.storage.readText location with
  | (.ok text, storage) => .ok text { desk with storage }
  | (.error cause, storage) => .error (error cause) { desk with storage }

/-- Takes over what the editor leaves behind. -/
def leaveEditor (opening : Opening) (edited : Edited) : Action Unit := do
  modify fun desk =>
    { desk with
      openings := opening :: desk.openings
      storage := edited.storage
      transcript := (desk.transcript.addForeign edited.shown).addComplaints edited.complaints }
  match edited.result with
  | .ok () => pure ()
  | .error error => throw (.editor error)

/-- Opens the editor on a file. -/
def openEditor (location : Location) (line : Nat) : Action Unit := do
  let desk ← get
  if let some command := desk.editor.command then
    log ("running " ++ command ++ " on " ++ location.text ++ ":" ++ natText line)
  let opening : Opening := ⟨location, line, (desk.storage.content location).toOption⟩
  leaveEditor opening (desk.editor.edit desk.openings.length location line desk.storage)

/-- Does something with a scratch file that is there only meanwhile. -/
def withScratch {α : Type} (content : Utf8.Bytes) (action : Action α) : Action α := fun desk =>
  match desk.storage.makeScratch content with
  | (.error cause, storage) => .error (.io cause) { desk with storage }
  | (.ok (), storage) =>
      match action { desk with storage } with
      | .ok value desk => .ok value { desk with storage := desk.storage.withoutScratch }
      | .error error desk => .error error { desk with storage := desk.storage.withoutScratch }

/-- Reads the options of a command; asking for help shows it and leaves nothing to do. -/
def readFlags (spec : Flags.Spec) (arguments : List (Option String)) :
    Action (Option Flags.Given) :=
  match spec.read (arguments.filterMap id) with
  | .ok given => pure (some given)
  | .error (.failure failure) => throw (.flags failure)
  | .error .help | .error .version => do
      say (trimmedEnd spec.help)
      pure none

/-- Reads a range. -/
def readRange (text : String) : Action LineRange :=
  match LineRange.ofText? text with
  | some range => pure range
  | none => throw (.invalidRange text)

end Action

/-- What a command does with its arguments. -/
abbrev Handler := Surroundings → List (Option String) → Action Outcome

/-- A command. -/
structure Command extends Signature where
  handler : Handler

namespace Command

/-- The command that is recognised by its name. -/
def named (name help : String) (arity : Arity) (handler : Handler) : Command where
  matcher := .ofName name
  help := help
  arity := arity
  handler := handler

/-- The command with another matcher, whose captures are its arguments as they are. -/
def withMatcher (command : Command) (matcher : Matcher) : Command :=
  { command with matcher, interpolate := false }

/-- The name of a command. -/
def name (command : Command) : String := command.matcher.name

end Command

/-- The lines of the history that were there before the line. -/
def Surroundings.past (around : Surroundings) (history : History) : HistorySlice :=
  match around.lineIndex with
  | some index => history.upTo index
  | none => history.all

end Console
