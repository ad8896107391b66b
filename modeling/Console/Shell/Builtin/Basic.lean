import Console.Shell.Condition
import Console.Shell.Utility

/-!
# Commands of the shell

A command that the shell does by itself is a function on its state.  A special one that is refused
ends the script.
-/

namespace Console.Shell

/-- A command of the shell. -/
structure Builtin where
  isSpecial : Bool := false
  /-- Whether arguments that are assignments are taken as one text each. -/
  takesAssignments : Bool := false
  run : List Octets → Work Nat

namespace Builtin

/-- The name as it is compared with others. -/
def text (name : Octets) : String := .ofList name

/-- The commands of the shell itself. -/
def names : List String :=
  [".", ":", "[", "alias", "bg", "break", "cd", "chdir", "command", "continue", "echo", "eval",
   "exec", "exit", "export", "false", "fg", "getopts", "hash", "jobs", "kill", "local", "printf",
   "pwd", "read", "readonly", "return", "set", "shift", "test", "times", "trap", "true", "type",
   "ulimit", "umask", "unalias", "unset", "wait"]

/-- Whether a name is that of a command of the shell itself. -/
def isOwn (name : Octets) : Bool := names.contains (text name)

/-- Writes to the output. -/
def say (text : Octets) : Work Nat := do
  if ← Work.writeTo 1 text then pure 0
  else
    Work.complain ((← get).commandName.getD [] ++ ": I/O error".toList)
    pure 1

/-- The options in front of arguments, each with its value, and the arguments after them.  A letter
comes with whether it takes a value; the number bounds the letters in one argument. -/
def options (letters : List (Char × Bool)) : List Octets →
    Work (List (Char × Octets) × List Octets)
  | [] => pure ([], [])
  | argument :: rest =>
      match argument with
      | ['-', '-'] => pure ([], rest)
      | '-' :: c :: more =>
          let found := (c :: more).takeWhile fun c => letters.lookup c == some false
          match (c :: more).drop found.length with
          | [] => do
              let (others, rest) ← options letters rest
              pure (found.map (·, []) ++ others, rest)
          | letter :: value =>
              if letters.lookup letter != some true then
                Work.refuse ("Illegal option -".toList ++ [letter])
              else if !value.isEmpty then do
                let (others, rest) ← options letters rest
                pure (found.map (·, []) ++ (letter, value) :: others, rest)
              else
                match rest with
                | [] => Work.refuse ("No arg for -".toList ++ [letter] ++ " option".toList)
                | value :: rest => do
                    let (others, rest) ← options letters rest
                    pure (found.map (·, []) ++ (letter, value) :: others, rest)
      | argument => pure ([], argument :: rest)

/-- The number that an argument is. -/
def number (argument : Octets) : Work Nat :=
  match count? argument with
  | some n => pure n
  | none => Work.refuse ("Illegal number: ".toList ++ argument)

/-! ## Writing and testing -/

/-- Writes what a format makes of arguments. -/
def printf (arguments : List Octets) : Work Nat := do
  let (_, arguments) ← options [] arguments
  match arguments with
  | [] => Work.refuse "usage: printf format [arg ...]".toList
  | format :: arguments =>
      let formatting := formatted format arguments
      for complaint in formatting.complaints.reverse do Work.complain complaint
      match formatting.refusal with
      | none =>
          let status ← say formatting.written.reverse
          pure (max status formatting.status)
      | some text =>
          Work.complain text
          let _ ← Work.writeTo 1 formatting.written.reverse
          Work.setStatus 2
          throw .refused

/-- What holds of files. -/
def facts : Work Condition.Facts := do
  let state ← get
  let resultOf {α : Type} (work : Work (Option α)) : Option α :=
    match work state with
    | .ok result _ => result
    | .error _ _ => none
  pure
    { node := fun name => resultOf (Utility.nodeOf? name)
      canRun := fun name => (resultOf (some <$> Utility.canRun name)).getD false
      isSame := fun left right =>
        match resultOf (Work.placeOf? left), resultOf (Work.placeOf? right) with
        | some left, some right => left == right
        | _, _ => false
      time := fun name =>
        (resultOf (Work.placeOf? name)).map fun names => (state.system.traitsOf names).time }

/-- Tests a condition. -/
def test (words : List Octets) : Work Nat := do
  match Condition.holds (← facts) words with
  | .ok holds => pure (if holds then 0 else 1)
  | .error fault => Work.refuse fault.message

/-- Tests a condition in brackets. -/
def bracket (words : List Octets) : Work Nat :=
  if words.getLast? = some [']'] then test words.dropLast else Work.refuse "missing ]".toList

end Builtin

end Console.Shell
