import Console.Shell.Number
import Console.Shell.Job
import Console.Shell.Script
import Console.Shell.System

/-!
# The state of a shell

Parameters, functions, options and open files, and how commands go on or stop.  What a command
does is a function of the state; it can stop the commands around it, and whatever has happened up
to then stays.

A shell is in a directory, given by the names from where relative paths start.  A path that a
script uses is followed from there; for one that is absolute the directory where relative paths
start has a name of its own.
-/

namespace Console.Shell

/-! ## Directories -/

namespace Directory

/-- The names of the directory where relative paths start, from the root on. -/
def home : List String := ["tmp", "console"]

/-- The steps of a path from the directory where relative paths start, if the path is absolute and
leads there. -/
def stepsFromHome? (path : Path) : Option (List String) :=
  if path.start = ["/"] && home.isPrefixOf path.steps then some (path.steps.drop home.length)
  else none

/-- The names after one more step. -/
def enter (names : List String) (step : String) : List String :=
  if step = "." then names
  else if step = ".." then Path.parent names
  else names ++ [step]

/-- The names of the directory that a path leads to, whatever the files are. -/
def along (names : List String) (text : String) : List String :=
  let path := Path.ofText text
  match stepsFromHome? path with
  | some steps => steps.foldl enter []
  | none => path.steps.foldl enter (if path.start.isEmpty then names else path.start)

/-- A directory as the beginning of paths. -/
def path : List String → String
  | "/" :: rest => "/" ++ String.join (rest.map (· ++ "/"))
  | names => String.join (names.map (· ++ "/"))

/-- A directory as an absolute path. -/
def text (names : List String) : String :=
  match names with
  | "/" :: rest => "/" ++ "/".intercalate rest
  | names =>
      let inside := names.dropWhile (· == "..")
      let around := home.take (home.length - (names.length - inside.length))
      "/" ++ "/".intercalate (around ++ inside)

/-- The path that a text means in a directory. -/
def resolve (names : List String) (text : String) : String :=
  let path := Path.ofText text
  match stepsFromHome? path with
  | some steps => "/".intercalate (if path.isEnded then "." :: steps ++ [""] else "." :: steps)
  | none => if text.isEmpty || !path.start.isEmpty then text else Directory.path names ++ text

end Directory

/-! ## Parameters and options -/

/-- A named parameter. -/
structure Variable where
  value : Option Octets := none
  isExported : Bool := false
  isReadOnly : Bool := false
  deriving DecidableEq, Repr

/-- The options of a shell. -/
structure Options where
  /-- The shell ends at the first command that fails. -/
  strict : Bool := false
  /-- Parameters that are missing are faults. -/
  nounset : Bool := false
  /-- Commands are shown before they are run. -/
  traced : Bool := false
  /-- Names are not matched with files. -/
  noglob : Bool := false
  /-- Commands are read and not run. -/
  noexec : Bool := false
  /-- Files are not written anew. -/
  noclobber : Bool := false
  /-- Parameters are for all processes. -/
  allexport : Bool := false
  /-- Lines of files are shown when they are read. -/
  verbose : Bool := false
  /-- The letters of the other options that are on, which change nothing else. -/
  others : List Char := []
  deriving DecidableEq, Repr

namespace Options

/-- The options with the one of a letter changed; none if there is no such option.  Of two ways to
edit lines only one can be on. -/
def set? (options : Options) (isOn : Bool) (letter : Char) : Option Options :=
  match letter with
  | 'e' => some { options with strict := isOn }
  | 'u' => some { options with nounset := isOn }
  | 'x' => some { options with traced := isOn }
  | 'f' => some { options with noglob := isOn }
  | 'n' => some { options with noexec := isOn }
  | 'C' => some { options with noclobber := isOn }
  | 'a' => some { options with allexport := isOn }
  | 'v' => some { options with verbose := isOn }
  | 'b' | 'i' | 'I' | 'p' | 's' | 'V' | 'E' =>
      let isKept (other : Char) : Bool :=
        other != letter && !(isOn && [['V', 'E'], ['E', 'V']].contains [letter, other])
      let others := options.others.filter isKept
      some { options with others := if isOn then letter :: others else others }
  | 'm' | ' ' => some options
  | _ => none

/-- The names of options with their letters. -/
def names : List (String × Char) :=
  [("errexit", 'e'), ("noglob", 'f'), ("ignoreeof", 'I'), ("interactive", 'i'), ("monitor", 'm'),
   ("noexec", 'n'), ("stdin", 's'), ("xtrace", 'x'), ("verbose", 'v'), ("vi", 'V'), ("emacs", 'E'),
   ("noclobber", 'C'), ("allexport", 'a'), ("notify", 'b'), ("nounset", 'u'), ("privileged", 'p'),
   ("nolog", ' '), ("debug", ' ')]

/-- The letter of an option with a name. -/
def letterOf? (name : String) : Option Char := names.lookup name

/-- Whether the option of a letter is on. -/
def isOn (options : Options) (letter : Char) : Bool :=
  match letter with
  | 'e' => options.strict
  | 'u' => options.nounset
  | 'x' => options.traced
  | 'f' => options.noglob
  | 'n' => options.noexec
  | 'C' => options.noclobber
  | 'a' => options.allexport
  | 'v' => options.verbose
  | letter => options.others.contains letter

/-- The letters of the options that are on. -/
def letters (options : Options) : Octets := "pubaCEVvxsniIfe".toList.filter options.isOn

end Options

/-- Where the options of a script are read next: the number of a word, and how much has been read of
the word before it if there is more to come. -/
structure OptionPlace where
  index : Nat := 1
  offset : Option Nat := none
  deriving DecidableEq, Repr

/-- How a shell stands, but for what it has in the background. -/
structure Standing where
  system : System
  /-- The location that a file name leads to. -/
  locate : String → Location
  /-- The names of the directory that the shell is in. -/
  place : List String := []
  name : Octets
  arguments : List Octets := []
  /-- The numbers of the streams that descriptors lead to. -/
  descriptors : List (Nat × Nat) := [(0, 0), (1, 1), (2, 2)]
  bindings : List (Octets × Variable) := []
  /-- What the parameters of a function were outside of it; none outside functions. -/
  locals : Option (List (Octets × Option Variable)) := none
  /-- The options that come back when the function ends. -/
  localOptions : Option Options := none
  optionPlace : OptionPlace := {}
  functions : List (Octets × Command) := []
  /-- Where programs have been found by their names, the latest last, and whether they have to be
  looked for again. -/
  found : List (Octets × Octets × Bool) := []
  /-- Words that stand for texts, in order. -/
  aliases : List (Octets × Octets) := []
  options : Options := {}
  /-- What is taken off the permissions of new files. -/
  mask : Nat := 0o022
  /-- The status of the latest command. -/
  status : Nat := 0
  /-- The status of the latest command whose output went into a word. -/
  substituted : Nat := 0
  /-- What is to be done at signals; number 0 is the end of the shell. -/
  traps : List (Nat × Octets) := []
  /-- The texts in scripts, by their numbers. -/
  documents : List Word := []
  /-- The number of loops around. -/
  loops : Nat := 0
  /-- The number of the shell as a process. -/
  process : Nat
  /-- Whether this is a part of the shell that runs by itself. -/
  isInner : Bool := false
  /-- The number of the latest process in the background. -/
  background : Option Nat := none
  /-- What the shell knows of the commands that it has put in the background. -/
  jobs : Jobs := []
  /-- The processes of the shells that wait for this one, the nearest first. -/
  around : List Nat := []
  /-- Whether a program has written what could not be written. -/
  hasLostOutput : Bool := false
  /-- The redirections of the commands that read what this one writes.  Their files are made before
  a program has started. -/
  later : List Redirection := []
  /-- Whether the script has ended with the line of commands that is run. -/
  isAtEnd : Bool := false
  /-- The line of the command, and its name while it is one of the shell's own. -/
  line : Nat := 1
  commandName : Option Octets := none

/-- A command that is to run in the background, and how the shell stood when it was put there. -/
structure Pending where
  process : Nat
  command : Command
  standing : Standing
  /-- The signal that ends it, and when. -/
  signal : Option (Nat × Int) := none

/-- How a shell stands. -/
structure State extends Standing where
  /-- The commands in the background, in order, which run when they are waited for. -/
  pending : List Pending := []

/-- How commands stop those around them. -/
inductive Stop where
  /-- The loops around end, as many as said. -/
  | leave (loops : Nat)
  /-- The outermost of as many loops goes on with its next turn. -/
  | renew (loops : Nat)
  /-- The function or the file ends. -/
  | finish
  /-- The command cannot be done, which most commands are not worth going on after. -/
  | refused
  /-- The shell ends. -/
  | exit (ending : Ending)
  deriving DecidableEq, Repr

/-- What commands do. -/
abbrev Work := EStateM Stop State

namespace Work

/-! ## Streams -/

/-- The number of the stream that a descriptor leads to. -/
def streamOf? (descriptor : Nat) : Work (Option Nat) := do
  pure ((← get).descriptors.lookup descriptor)

/-- Writes to a descriptor; whether it could be done. -/
def writeTo (descriptor : Nat) (text : Octets) : Work Bool := do
  let state ← get
  match (state.descriptors.lookup descriptor).bind (state.system.write? · text) with
  | some system =>
      set { state with system }
      pure true
  | none => pure text.isEmpty

/-- What a descriptor has still to give. -/
def remaining (descriptor : Nat) : Work Octets := do
  let state ← get
  match state.descriptors.lookup descriptor with
  | some number => pure (state.system.remaining number)
  | none => pure []

/-- Goes on past characters that have been read from a descriptor. -/
def advance (descriptor count : Nat) : Work Unit := modify fun state =>
  match state.descriptors.lookup descriptor with
  | some number => { state with system := state.system.advance number count }
  | none => state

/-- All that a descriptor has still to give, which is taken. -/
def readAll (descriptor : Nat) : Work Octets := do
  let text ← remaining descriptor
  advance descriptor text.length
  pure text

/-- Makes a descriptor lead to a stream, or to none. -/
def redirect (descriptor : Nat) (stream : Option Nat) : Work Unit := modify fun state =>
  let others := state.descriptors.filter (·.1 != descriptor)
  { state with
    descriptors :=
      match stream with
      | some number => (descriptor, number) :: others
      | none => others }

/-- Adds a stream to the system. -/
def addStream (stream : Stream) : Work Nat := do
  let state ← get
  let (number, system) := state.system.add stream
  set { state with system }
  pure number

/-- Lets time pass; what is running ends if it gets a signal before all of the time is over. -/
def pass (milliseconds : Nat) : Work Unit := do
  let state ← get
  let system := state.system
  let time := system.now + milliseconds
  match system.deadline.filter fun (deadline, _) => deadline < time with
  | none => set { state with system := { system with now := time } }
  | some (deadline, signal) =>
      set { state with system := { system with now := max system.now deadline } }
      throw (.exit (.signal signal))

/-! ## Complaints -/

/-- Writes a complaint, after the name of the script and the line. -/
def complain (text : Octets) : Work Unit := do
  let state ← get
  let command := match state.commandName with | some name => name ++ [':', ' '] | none => []
  let place := state.name ++ [':', ' '] ++ countOctets state.line ++ [':', ' ']
  let _ ← writeTo 2 (place ++ command ++ text ++ ['\n'])

/-- Complains, and gives up the command. -/
def refuse {α : Type} (text : Octets) : Work α := do
  complain text
  modify ({ · with status := 2 })
  throw .refused

/-- Sets the status. -/
def setStatus (status : Nat) : Work Unit := modify ({ · with status })

/-! ## Named parameters -/

/-- The value of a named parameter. -/
def lookUp (state : State) (name : Octets) : Option Octets :=
  (state.bindings.lookup name).bind (·.value)

/-- Puts a parameter in place of the one with its name. -/
def putVariable (name : Octets) (entry : Option Variable) : Work Unit := modify fun state =>
  let others := state.bindings.filter (·.1 != name)
  { state with
    bindings := match entry with | some entry => (name, entry) :: others | none => others }

/-- Gives a parameter a value, whatever else depends on it. -/
def assignAlone (name value : Octets) : Work Unit := do
  let state ← get
  let before := (state.bindings.lookup name).getD {}
  if before.isReadOnly then refuse (name ++ ": is read only".toList)
  else
    putVariable name
      (some { before with value, isExported := before.isExported || state.options.allexport })

/-- The parameter that says where the options of a script are read. -/
def optionIndexName : Octets := "OPTIND".toList

/-- Reads the options of a script from a word on. -/
def startOptions (index : Octets) : Work Unit := do
  match count? index with
  | some index => modify ({ · with optionPlace := { index := max index 1 } })
  | none => refuse ("Illegal number: ".toList ++ index)

/-- The parameter that says where programs are. -/
def pathName : Octets := "PATH".toList

/-- Gives a parameter a value. -/
def assign (name value : Octets) : Work Unit := do
  let isFixed := ((← get).bindings.lookup name).any (·.isReadOnly)
  if name = optionIndexName && !isFixed then startOptions value
  if name = pathName && !isFixed then modify ({ · with found := [] })
  assignAlone name value

/-- The number of the class of a name; what is kept by name is listed class by class. -/
def nameClass (name : Octets) : Nat :=
  ((name.head?.map (·.toNat * 16)).getD 0 + total (name.map Char.toNat)) % 39

/-- The number of the class of a command; commands that have been found are listed class by
class. -/
def commandClass (name : Octets) : Nat :=
  ((name.head?.map (·.toNat * 16)).getD 0 + total (name.map Char.toNat)) % 31

/-- Remembers where a program has been found. -/
def keepFound (name path : Octets) : Work Unit := modify fun state =>
  { state with found := state.found.filter (·.1 != name) ++ [(name, path, false)] }

/-- The characters that separate fields. -/
def separators : Work Octets := do
  pure ((lookUp (← get) "IFS".toList).getD [' ', '\t', '\n'])

/-! ## Files -/

/-- The location that a name leads to. -/
def location (name : Octets) : Work Location := do
  let state ← get
  let text := Octets.toText name
  match state.locate text with
  | .scratch => pure .scratch
  | .path text => pure (.path (Directory.resolve state.place text))

/-- Where a name leads, and what is there. -/
def find? (name : Octets) : Work (Option (List String × Node)) := do
  let state ← get
  match ← location name with
  | .scratch => pure (state.system.storage.scratch.map fun bytes => ([], .file bytes))
  | .path text =>
      match state.system.storage.find text with
      | .ok (names, node) => pure (node.map (names, ·))
      | .error _ => pure none

/-- What a name leads to. -/
def nodeOf? (name : Octets) : Work (Option Node) := do
  pure ((← find? name).map (·.2))

/-- The names along the path that a name leads to. -/
def placeOf? (name : Octets) : Work (Option (List String)) := do
  pure ((← find? name).map (·.1))

end Work

end Console.Shell
