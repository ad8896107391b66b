import Console.Command.Registry

/-!
# Commands that bring text in

Playing sources and files as input, and editing the buffer, the history or a file.
-/

namespace Console.Commands

/-- The options of `play`. -/
def playSpec : Flags.Spec where
  name := "play"
  about := "Play back method source or file lines as input"
  options :=
    [{ long := "lines", short := some 'l', takes := .value "RANGE" .text, hyphenValues := true
       help := "Only play these lines, e.g. 2..4" },
     { long := "method", short := some 'm', takes := .value "NAME" .text
       help := "Play the source of this method" },
     { long := "file", short := some 'f', takes := .value "PATH" .path
       help := "Play the contents of this file" },
     Flags.helpOption]
  oneOf := ["method", "file"]

/-- The text that `play` plays. -/
def playedText (around : Surroundings) (given : Flags.Given) : Action String :=
  match given.text? "method" with
  | some name =>
      match around.calculator.source? name with
      | some source => pure source
      | none => throw (.noSource name)
  | none =>
      let path := (given.text? "file").getD ""
      Action.readText (.path path) (.unreadable path)

/-- The lines of a range as a text. -/
def linesInRange (base : IndexBase) (range : LineRange) (text : String) : Except Error String :=
  let lines := linesOf text
  match range.clamp lines.length base with
  | some span => .ok (joinWith "\n" (span.of lines))
  | none => .error (.noLines range)

/-- Plays a source or a file, or some of its lines. -/
def play : Handler := fun around arguments => do
  match ← Action.readFlags playSpec arguments with
  | none => pure .next
  | some given => do
      let text ← playedText around given
      let text ←
        match given.text? "lines" with
        | some range => do
            let range ← Action.readRange range
            Action.ofExcept (linesInRange around.settings.base range text)
        | none => pure text
      Action.inject text
      pure .next

/-- The options of `edit`. -/
def editSpec : Flags.Spec where
  name := "edit"
  about := "Open a text editor. Without FILE, edits the input buffer"
  options :=
    [{ long := "temp", short := some 't', conflicts := ["FILE", "in"]
       help := "Edit an empty temporary file" },
     { long := "in", short := some 'i', takes := .value "N" .integer, hyphenValues := true
       conflicts := ["FILE"], help := "Edit history line N in a temporary file" },
     { long := "line", short := some 'l', takes := .value "LINE" .count
       help := "Jump to this line in the opened file" },
     { long := "no-reload", short := some 'n', help := "Don't load the edited text back" },
     { long := "reload", short := some 'r', conflicts := ["no-reload"]
       help := "Play an edited FILE back as input" },
     Flags.helpOption]
  argument := some
    { name := "FILE", help := "File to edit, optionally as FILE:LINE" }

/-- The latest line that is neither blank nor a command, as a text. -/
def latestExpression (catalogue : Catalogue) (past : HistorySlice) : String :=
  match past.lines.reverse.find? fun line => !isBlankText line && !catalogue.invokes line with
  | some line => line ++ "\n"
  | none => ""

/-- The text that is edited when no file is: nothing, a line of the history, the buffer or, if that
is blank, the latest expression. -/
def editedText (around : Surroundings) (given : Flags.Given) (desk : Desk) :
    Except Error String :=
  if given.has "temp" then .ok ""
  else match given.integer? "in" with
    | some number =>
        match (around.past desk.history).select? (.single number) with
        | some slice => .ok slice.joined
        | none => .error (.noHistoryLine number)
    | none =>
        if !desk.buffer.isBlank then .ok desk.buffer.text
        else .ok (latestExpression around.catalogue (around.past desk.history))

/-- Edits a text in the scratch file and takes it back into the buffer. -/
def editInput (around : Surroundings) (given : Flags.Given) : Action Unit := do
  let desk ← get
  let text ← Action.ofExcept (editedText around given desk)
  let line := (given.count? "line").getD (max (linesOf text).length 1)
  Action.withScratch (Utf8.ofText text) do
    Action.openEditor .scratch line
    if !given.has "no-reload" then
      let edited ← Action.readText .scratch .io
      Action.changeBuffer fun _ => .ofText edited

/-- A text cut at its last colon. -/
def splitLastColon (text : List Char) : Option (List Char × List Char) :=
  let after := (text.reverse.takeWhile (· != ':')).reverse
  match text.reverse.drop after.length with
  | [] => none
  | _ :: before => some (before.reverse, after)

/-- A file, and the line that may follow it after a colon. -/
def fileAndLine (argument : String) : String × Option Nat :=
  match splitLastColon argument.toList with
  | some (path, line) =>
      match Text.readCount line with
      | .ok line => (.ofList path, some line)
      | .error _ => (argument, none)
  | none => (argument, none)

/-- Edits a file and plays it if that is wanted. -/
def editFile (argument : String) (given : Flags.Given) : Action Unit := do
  let (path, line) := fileAndLine argument
  let line := ((given.count? "line").or line).getD 1
  Action.openEditor (.path path) line
  if given.has "reload" then
    let text ← Action.readText (.path path) .io
    Action.inject text

/-- Opens the editor. -/
def edit : Handler := fun around arguments => do
  match ← Action.readFlags editSpec arguments with
  | none => pure .next
  | some given => do
      match given.text? "FILE" with
      | some argument => editFile argument given
      | none => editInput around given
      pure .next

/-- Registers the commands that bring text in. -/
def registerPlaying (registry : Registry) : Registry :=
  let registry := registry.register <| .named "play"
    "Play back method source or file lines as input. Type `play --help` for more info."
    .variadic play
  registry.register <| .named "edit"
    "Open a text editor on the input buffer or a file. Type `edit --help` for more info."
    .variadic edit

end Console.Commands
