import Console.Command.Registry

/-!
# Commands on the expression buffer

Clearing the buffer, showing it, and amending its lines.
-/

namespace Console.Commands

/-- Clears the buffer. -/
def clearBuffer : Handler := fun _ _ => do
  Action.changeBuffer fun _ => .empty
  Action.say "Input buffer cleared!"
  pure .next

/-- Shows the lines of the buffer with their numbers. -/
def showInput : Handler := fun around _ => do
  let desk ← get
  if !desk.buffer.isEmpty then Action.say (desk.buffer.numbered around.settings.base)
  pure .next

/-- Reads the number of a line. -/
def readLineNumber (text : String) : Except Error Int64 :=
  match readInteger text with
  | .ok number => .ok number
  | .error _ => .error (.invalidLineNumber text)

/-- The lines to amend: the last one if no number is given. -/
def amendedRange : Option String → Option String → Except Error LineRange
  | none, _ => .ok .last
  | some start, none => do .ok (.single (← readLineNumber start))
  | some start, some stop => do
      .ok (.inclusive (← readLineNumber start) (← readLineNumber stop))

/-- Amends lines of the buffer, and shows what has become of it. -/
def amendLine : Handler := fun around arguments => do
  let range ← Action.ofExcept
    (amendedRange (arguments[0]?.bind id) (arguments[1]?.bind id))
  match arguments[2]?.bind id with
  | none => throw .missingReplacement
  | some text =>
      let desk ← get
      match desk.buffer.amend range around.settings.base (trimmedEnd text) with
      | .error error => throw (.amendOutOfRange error)
      | .ok (.nothing, _) => Action.say "Nothing to amend."
      | .ok (_, buffer) => do
          Action.changeBuffer fun _ => buffer
          Action.say (buffer.numbered around.settings.base)
      pure .next

/-- How a line amends the buffer: after the name come the number of a line or two numbers, and
the new text.  The name is a part of the pattern. -/
def amendPattern (name : String) : String :=
  "^" ++ name ++ "(?:\\s*(-?\\d+)(?:\\.\\.(-?\\d+))?)?(?:\\s+(.+))?$"

/-- Registers a command with a pattern that matches any line in few ways. -/
def registerPattern (registry : Registry) (command : Command) (source : String) : Registry :=
  match Matcher.ofSimplePattern command.name source with
  | .ok matcher => registry.register (command.withMatcher matcher)
  | .error _ => registry

/-- Registers another name of a command. -/
def registerAlias (registry : Registry) (matcher : Except Error Matcher) (target : String) :
    Registry :=
  match matcher with
  | .error _ => registry
  | .ok matcher =>
      match registry.addAlias matcher target with
      | .ok registry => registry
      | .error _ => registry

/-- Registers the commands on the expression buffer. -/
def registerBuffering (registry : Registry) : Registry :=
  let registry := registry.register <| .named "!"
    ("Clear the input buffer. " ++
      "Useful if the parsing process goes wrong and you get stuck in the read loop.")
    (.fixed 0) clearBuffer
  let registry := registry.register <| .named "show-input"
    "Show the contents of the input buffer for the current multi-line expression."
    (.fixed 0) showInput
  let amend : Command := .named "amend-line"
    ("Amend a line of input in the input buffer. " ++
      "e.g. amend-line 2..3 x + 1, or amend-line 2 ! to delete.")
    (.fixed 3) amendLine
  let registry := registerPattern registry amend (amendPattern "amend-line")
  registerAlias registry (Matcher.ofSimplePattern "%" (amendPattern "%")) "amend-line"

end Console.Commands
