import Console.Shell.Builtin.Processes
import Console.Shell.Builtin.Surroundings

/-!
# Commands of the shell by name

The commands that the shell does by itself, by their names.
-/

namespace Console.Shell.Builtin

/-! ## Going on and stopping -/

/-- Leaves loops, or goes on with their next turn. -/
def leave (stop : Nat → Stop) (arguments : List Octets) : Work Nat := do
  let count ← match arguments with | [] => pure 1 | argument :: _ => number argument
  let loops := (← get).loops
  if count = 0 then Work.refuse "Illegal number: 0".toList
  else if loops = 0 then pure 0
  else
    Work.setStatus 0
    throw (stop (min count loops))

/-- The status that is given as an argument, or that of the latest command. -/
def statusOr (arguments : List Octets) : Work Nat := do
  match arguments with
  | [] => pure (← get).status
  | argument :: _ => number argument

/-- Ends the shell. -/
def exit (arguments : List Octets) : Work Nat := do
  let status ← statusOr arguments
  throw (.exit (.status (status % 256)))

/-- Ends a function. -/
def finish (arguments : List Octets) : Work Nat := do
  let status ← statusOr arguments
  Work.setStatus status
  throw .finish

/-! ## By name -/

/-- The command of the shell with a name.  A text is run as a script by a function that is given,
and `settle` runs one process in the background, or all. -/
def ofName? (runText : Octets → Work Unit) (settle : Option Nat → Work Unit) (name : String) :
    Option Builtin :=
  match name with
  | ":" => some { isSpecial := true, run := fun _ => pure 0 }
  | "true" => some { run := fun _ => pure 0 }
  | "false" => some { run := fun _ => pure 1 }
  | "echo" => some { run := fun arguments => say (echoText arguments) }
  | "printf" => some { run := printf }
  | "test" => some { run := test }
  | "[" => some { run := bracket }
  | "read" => some { run := read }
  | "cd" | "chdir" => some { run := cd }
  | "pwd" => some { run := pwd }
  | "kill" => some { run := kill runText }
  | "wait" => some { run := wait settle }
  | "getopts" => some { run := getopts }
  | "umask" => some { run := umask }
  | "alias" => some { takesAssignments := true, run := defineAliases }
  | "unalias" => some { run := removeAliases }
  | "hash" => some { run := hash }
  | "ulimit" => some { run := ulimit }
  | "fg" | "bg" => some { run := resume }
  | "jobs" => some { run := showJobs }
  | "times" =>
      some { isSpecial := true
             run := fun _ =>
               say "0m0.000000s 0m0.000000s\n0m0.000000s 0m0.000000s\n".toList }
  | "break" => some { isSpecial := true, run := leave .leave }
  | "continue" => some { isSpecial := true, run := leave .renew }
  | "exit" => some { isSpecial := true, run := exit }
  | "return" => some { isSpecial := true, run := finish }
  | "set" => some { isSpecial := true, run := configure }
  | "shift" => some { isSpecial := true, run := shift }
  | "trap" => some { isSpecial := true, run := trap }
  | "unset" => some { isSpecial := true, run := unset }
  | "export" =>
      some { isSpecial := true, takesAssignments := true,
             run := marking name (·.isExported) ({ · with isExported := true }) }
  | "readonly" =>
      some { isSpecial := true, takesAssignments := true,
             run := marking name (·.isReadOnly) ({ · with isReadOnly := true }) }
  | "local" => some { isSpecial := true, takesAssignments := true, run := localise }
  | "eval" =>
      some { isSpecial := true
             run := fun arguments => do
               runText ([' '].intercalate arguments)
               pure (← get).status }
  | _ => none

end Console.Shell.Builtin
