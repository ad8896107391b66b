import Console.Shell.Utility.Columns
import Console.Shell.Utility.Compare
import Console.Shell.Utility.Copies
import Console.Shell.Utility.Directories
import Console.Shell.Utility.Editing
import Console.Shell.Utility.Expression
import Console.Shell.Utility.Numbers
import Console.Shell.Utility.Order
import Console.Shell.Written

/-!
# Programs by name

The programs that scripts can run, and where they are found.
-/

namespace Console.Shell.Utility

/-- The options in front of the arguments of `echo`: whether the line is ended, and whether
backslashes have a meaning. -/
def echoOptions (endsLine hasEscapes : Bool) : List Octets → Bool × Bool × List Octets
  | [] => (endsLine, hasEscapes, [])
  | argument :: rest =>
      match argument with
      | '-' :: c :: letters =>
          if (c :: letters).all fun c => c = 'n' || c = 'e' || c = 'E' then
            let escapes := (c :: letters).foldl
              (fun on c => if c = 'e' then true else if c = 'E' then false else on) hasEscapes
            echoOptions (endsLine && !(c :: letters).contains 'n') escapes rest
          else (endsLine, hasEscapes, argument :: rest)
      | argument => (endsLine, hasEscapes, argument :: rest)

/-- Writes its arguments. -/
def echo : Utility := fun arguments => do
  let (endsLine, hasEscapes, arguments) := echoOptions true false arguments
  let text := [' '].intercalate arguments
  if hasEscapes then
    let written := echoText arguments
    say (if !endsLine && written.getLast? = some '\n' then written.dropLast else written)
  else say (text ++ if endsLine then ['\n'] else [])
  pure 0

/-- Writes what a format makes of arguments. -/
def printf : Utility := fun arguments => do
  match arguments with
  | [] => complain "printf" "missing operand" 1
  | format :: arguments =>
      let formatting := formatted format arguments
      say formatting.written.reverse
      match formatting.refusal with
      | some text => complain "printf" (Octets.toText text) 1
      | none => pure formatting.status

/-- The parameters that are for all processes, class by class and the oldest first in each. -/
def environment (state : State) : List (Octets × Octets) :=
  let exported := state.bindings.reverse.filterMap fun (name, entry) =>
    if entry.isExported then entry.value.map (name, ·) else none
  exported.mergeSort fun left right => Work.nameClass left.1 ≤ Work.nameClass right.1

/-- Shows definitions, or the values that they give to some names. -/
def printDefinitions (shown : List (Octets × Octets)) : Utility := fun names => do
  match names with
  | [] =>
      say (ofLines (shown.map fun (name, value) => name ++ '=' :: value))
      pure 0
  | names => do
      let values := names.filterMap fun name => shown.lookup name
      say (ofLines values)
      pure (if values.length = names.length then 0 else 1)

/-- Writes its arguments again and again; as often as anybody may want to read them. -/
def yes : Utility := fun arguments => do
  let line := if arguments.isEmpty then ['y'] else [' '].intercalate arguments
  say (ofLines (List.replicate 2000 line))
  pure 0

/-- The length of a time in milliseconds; none if it is no time. -/
def duration? (text : Octets) : Option Nat :=
  let units : List (Octets × Nat) :=
    [([], 1), (['s'], 1), (['m'], 60), (['h'], 3600), (['d'], 86400)]
  match FractionFront.pointed? 10 text with
  | none => none
  | some (digits, places, rest) =>
      (units.lookup rest).map fun unit =>
        (digitsOf 10 digits).1 * unit * 1000 / Nat.pow 10 places

/-- Waits for some time. -/
def sleep : Utility := fun times => do
  if times.isEmpty then complainOfUse "sleep" "missing operand" 1
  else
    match times.find? fun time => (duration? time).isNone with
    | some time =>
        complainOfUse "sleep" ("invalid time interval '" ++ Octets.toText time ++ "'") 1
    | none => do
        Work.pass (total (times.filterMap duration?))
        pure 0

/-- Shows who runs the program. -/
def identity : Utility := fun arguments => do
  match arguments.map String.ofList with
  | ["-u"] | ["-g"] => say ['0', '\n']
  | ["-un"] | ["-gn"] | ["-nu"] | ["-ng"] => say "root\n".toList
  | _ => say "uid=0(root) gid=0(root) groups=0(root)\n".toList
  pure 0

/-- The program with a name. -/
def ofName? (name : String) : Option Utility :=
  match name with
  | "true" => some fun _ => pure 0
  | "false" => some fun _ => pure 1
  | "sleep" => some sleep
  | "sync" | "chown" => some fun _ => pure 0
  | "chmod" => some chmod
  | "echo" => some echo
  | "printf" => some printf
  | "printenv" => some fun names => do printDefinitions (environment (← get)) names
  | "pwd" => some fun _ => do
      say (Octets.ofText (Directory.text (← get).place) ++ ['\n'])
      pure 0
  | "yes" => some yes
  | "id" => some identity
  | "whoami" => some fun _ => identity ["-un".toList]
  | "uname" => some fun _ => do
      say "Linux\n".toList
      pure 0
  | "cat" => some cat
  | "rm" => some rm
  | "unlink" => some rm
  | "cp" => some cp
  | "mv" => some mv
  | "ln" => some ln
  | "install" => some install
  | "truncate" => some truncate
  | "dd" => some dd
  | "touch" => some touch
  | "mkdir" => some mkdir
  | "rmdir" => some rmdir
  | "ls" => some ls
  | "mktemp" => some mktemp
  | "head" => some head
  | "tail" => some tail
  | "wc" => some wc
  | "tr" => some tr
  | "rev" => some rev
  | "tac" => some tac
  | "sort" => some sort
  | "uniq" => some uniq
  | "cut" => some cut
  | "paste" => some paste
  | "nl" => some nl
  | "fold" => some fold
  | "cmp" => some cmp
  | "comm" => some comm
  | "diff" => some diff
  | "tee" => some tee
  | "basename" => some basename
  | "dirname" => some dirname
  | "seq" => some seq
  | "expr" => some expr
  | "grep" => some grep
  | "egrep" => some fun arguments => grep (['-', 'E'] :: arguments)
  | "fgrep" => some fun arguments => grep (['-', 'F'] :: arguments)
  | "sed" => some sed
  | _ => none

/-- The names of the programs that run programs or conditions. -/
def starters : List String :=
  ["sh", "dash", "bash", "awk", "mawk", "find", "env", "nohup", "nice", "setsid", "timeout",
   "xargs", "test", "[", "which"]

/-- Whether there is a program with a name. -/
def isProgram (name : String) : Bool := (ofName? name).isSome || starters.contains name

/-- The name of a file in the directory that programs are kept in. -/
def inBin? (name : Octets) : Option String :=
  match (Octets.splitAt (· == '/') name).filter (!·.isEmpty) with
  | [first, second, base] =>
      if name.head? = some '/' && first = "usr".toList && second = "bin".toList then
        some (.ofList base)
      else none
  | [first, base] =>
      if name.head? = some '/' && first = "bin".toList then some (.ofList base) else none
  | _ => none

/-- The program that a path leads to. -/
def programAt? (path : Octets) : Option String := (inBin? path).filter isProgram

/-- The beginning of the files that machines run as they are, which is no text. -/
def machineCode : Utf8.Bytes := [0x7f, 0x45, 0x4c, 0x46, 0x02, 0x01, 0x01, 0x00, 0xff]

/-- What a name leads to; programs are files. -/
def nodeOf? (name : Octets) : Work (Option Node) := do
  match ← Work.nodeOf? name with
  | some node => pure (some node)
  | none => pure ((programAt? name).map fun _ => .file machineCode)

/-- Whether a name leads to a file that can be run, or to a directory. -/
def canRun (name : Octets) : Work Bool := do
  match ← Work.find? name with
  | some (_, .directory) => pure true
  | some (names, _) =>
      pure ((programAt? name).isSome || ((← get).system.traitsOf names).mode &&& 0o111 != 0)
  | none => pure (programAt? name).isSome

/-! ## Looking for programs -/

/-- Where programs are looked for unless it is said otherwise. -/
def standardPath : Octets := "/usr/local/sbin:/usr/local/bin:/usr/sbin:/usr/bin:/sbin:/bin".toList

/-- The parameter of a shell that says where programs are, if it has not been given one. -/
def standardEntry : Octets × Variable := ("PATH".toList, { value := some standardPath })

/-- What a name means that is to be run. -/
inductive Executable where
  /-- A program by its name. -/
  | program (path : Octets) (name : String)
  /-- A file with a script. -/
  | script (path : Octets)
  deriving DecidableEq, Repr

namespace Executable

/-- The path that is run. -/
def path : Executable → Octets
  | program path _ => path
  | script path => path

end Executable

/-- Why nothing can be run. -/
inductive Absence where
  | missing
  /-- There is something that is no program. -/
  | denied
  deriving DecidableEq, Repr

/-- What a path leads to that can be run. -/
def executableAt (path : Octets) : Work (Except Absence Executable) := do
  match programAt? path with
  | some name => pure (.ok (.program path name))
  | none =>
      match ← nodeOf? path with
      | none => pure (.error .missing)
      | some (.file _) => do
          pure (if ← canRun path then .ok (.script path) else .error .denied)
      | some _ => pure (.error .denied)

/-- The places in a list of directories where a name may be. -/
def candidates (places name : Octets) : List Octets :=
  (Octets.splitAt (· == ':') places).map fun place =>
    if place.isEmpty then name else place ++ '/' :: name

/-- What is found first in some places; what is there and cannot be run is passed over, but counts
if there is nothing else. -/
def firstOf : List Octets → Work (Except Absence Executable)
  | [] => pure (.error .missing)
  | path :: rest => do
      match ← executableAt path with
      | .ok found => pure (.ok found)
      | .error absence => do
          match ← firstOf rest with
          | .error .missing => pure (.error absence)
          | result => pure result

/-- What a name leads to in a list of directories; a name with a slash leads there by itself. -/
def searchIn (places name : Octets) : Work (Except Absence Executable) :=
  if name.contains '/' then executableAt name else firstOf (candidates places name)

/-- What a name leads to. -/
def search (name : Octets) : Work (Except Absence Executable) := do
  searchIn ((Work.lookUp (← get) "PATH".toList).getD []) name

end Console.Shell.Utility
