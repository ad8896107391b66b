import Console.Command.Basic
import Console.Words

/-!
# The registry of commands

Commands are tried in the order in which they were registered, and the first one that recognises
a line gets it.  A name belongs to one command: registering it again puts the new command in the
old one's place.  The arguments of a command are what was captured from its line, or the words of
that, as many as it takes.
-/

namespace Console

/-! ## Commands by their names -/

/-- The registered commands, in the order in which they are tried. -/
structure Registry where
  commands : List Command := []

namespace Registry

/-- No commands. -/
def empty : Registry := {}

/-- Puts a command in the place of the one of the same name, or behind all others. -/
def insert (command : Command) : List Command → List Command
  | [] => [command]
  | other :: rest =>
      if other.name = command.name then command :: rest else other :: insert command rest

/-- Registers a command. -/
def register (registry : Registry) (command : Command) : Registry :=
  ⟨insert command registry.commands⟩

/-- The command with a name. -/
def get? (registry : Registry) (name : String) : Option Command :=
  registry.commands.find? (·.name == name)

/-- Removes a command. -/
def unregister (registry : Registry) (name : String) : Registry :=
  ⟨registry.commands.filter (·.name != name)⟩

/-- Another name of a command.  It does what the command does, and if that is itself another name,
it is another name of the command which that one names. -/
def aliasFor (matcher : Matcher) (target : String) (command : Command) : Command :=
  let meant := command.aliasOf.getD target
  { command with
    matcher
    help := "Alias for `" ++ meant ++ "`"
    interpolate := !matcher.isPattern && command.interpolate
    aliasOf := some meant }

/-- Registers another name of a command, by which it is recognised as the matcher says. -/
def addAlias (registry : Registry) (matcher : Matcher) (target : String) : Except Error Registry :=
  match registry.get? target with
  | some command => .ok (registry.register (aliasFor matcher target command))
  | none => .error (.unknownCommand target)

/-- The command that a line invokes, with what it captures. -/
def find? (registry : Registry) (line : String) : Option (Command × Recognized) :=
  registry.commands.findSome? fun command =>
    (command.matcher.recognize? line).map fun recognized => (command, recognized)

/-- Whether a line invokes a command. -/
def invokes (registry : Registry) (line : String) : Bool := (registry.find? line).isSome

/-- The names of the commands. -/
def names (registry : Registry) : List String := registry.commands.map Command.name

/-- What is known of the commands without running them. -/
def catalogue (registry : Registry) : Catalogue := registry.commands.map Command.toSignature

/-- The other names of a command. -/
def aliasesOf (registry : Registry) (name : String) : List String :=
  registry.catalogue.aliasesOf name

/-- The number of commands. -/
def size (registry : Registry) : Nat := registry.commands.length

end Registry

/-! ## Dispatching a line -/

/-- What became of a line. -/
inductive Dispatched where
  /-- No command recognises it. -/
  | noCommand
  | handled (outcome : Outcome)
  deriving DecidableEq, Repr

namespace Arity

/-- Arguments brought to the number that a command is given. -/
def fit : Arity → List (Option String) → List (Option String)
  | fixed count, arguments =>
      arguments.take count ++ List.replicate (count - arguments.length) none
  | variadic, arguments => arguments

end Arity

/-- The arguments that a command is given for what was captured from its line. -/
def Signature.arguments (signature : Signature) (captures : List (Option String)) :
    Except Error (List (Option String)) :=
  if signature.interpolate then
    match captures.filterMap id with
    | [] => .ok (signature.arity.fit [])
    | text :: _ =>
        match wordsOf text with
        | .ok words => .ok (signature.arity.fit (words.map some))
        | .error quote => .error (.unmatchedQuote quote)
  else .ok (signature.arity.fit captures)

/-- Runs the command that a line invokes. -/
def Registry.dispatch (registry : Registry) (around : Surroundings) (line : String) :
    Action Dispatched :=
  match registry.find? line with
  | none => pure .noCommand
  | some (command, recognized) => do
      Action.log ("dispatching `" ++ line ++ "` to " ++ recognized.name)
      let arguments ← Action.ofExcept (command.arguments recognized.captures)
      let outcome ← command.handler around arguments
      pure (.handled outcome)

end Console
