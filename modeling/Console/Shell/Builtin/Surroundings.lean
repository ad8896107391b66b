import Console.Shell.Builtin.Parameters

/-!
# Commands on what is around a shell

What names mean besides parameters, the directory that the shell is in, and what it leaves of
permissions.
-/

namespace Console.Shell.Builtin

/-! ## Aliases -/

/-- An alias with what it stands for. -/
def aliasLine (entry : Octets × Octets) : Octets :=
  entry.1 ++ '=' :: quotedValue entry.2 ++ ['\n']

/-- Makes words stand for texts, or shows what they stand for. -/
def defineAliases (arguments : List Octets) : Work Nat := do
  if arguments.isEmpty then
    say (((← get).aliases.mergeSort fun left right =>
      Work.nameClass left.1 ≤ Work.nameClass right.1).flatMap aliasLine)
  else
    let mut status := 0
    for argument in arguments do
      let length := 1 + ((argument.drop 1).takeWhile (· != '=')).length
      let name := argument.take length
      let entries := (← get).aliases
      match argument.drop length, entries.lookup name with
      | [], some text =>
          let _ ← say (aliasLine (name, text))
      | [], none =>
          let _ ← Work.writeTo 2 ("alias: ".toList ++ name ++ " not found\n".toList)
          status := 1
      | _ :: text, _ =>
          modify fun state =>
            { state with
              aliases :=
                if (entries.lookup name).isNone then entries ++ [(name, text)]
                else entries.map fun entry => if entry.1 == name then (name, text) else entry }
    pure status

/-- Takes the meaning from aliases. -/
def removeAliases (arguments : List Octets) : Work Nat := do
  let (given, names) ← options [('a', false)] arguments
  if !given.isEmpty then
    modify ({ · with aliases := [] })
    pure 0
  else
    let mut status := 0
    for name in names do
      if ((← get).aliases.lookup name).isNone then
        let _ ← Work.writeTo 2 ("unalias: ".toList ++ name ++ " not found\n".toList)
        status := 1
      modify fun state => { state with aliases := state.aliases.filter (·.1 != name) }
    pure status

/-! ## Programs and bounds -/

/-- Shows where programs have been found, or looks for programs. -/
def hash (arguments : List Octets) : Work Nat := do
  let (given, names) ← options [('r', false)] arguments
  if !given.isEmpty then
    modify ({ · with found := [] })
    pure 0
  else if names.isEmpty then
    let entries := (← get).found.mergeSort fun left right =>
      Work.commandClass left.1 ≤ Work.commandClass right.1
    say (entries.flatMap fun (_, path, isStale) => path ++ if isStale then ['*', '\n'] else ['\n'])
  else
    let mut status := 0
    for name in names do
      let isOwn := (← get).functions.any (·.1 == name) || isOwn name
      unless isOwn || name.contains '/' do
        match ← Utility.search name with
        | .ok found => Work.keepFound name found.path
        | .error _ =>
            Work.complain (name ++ ": not found".toList)
            status := 1
    pure status

/-- Shows how much the shell may use of something; there are few bounds. -/
def ulimit (arguments : List Octets) : Work Nat := do
  let letters := "HStfdscmlpnvwr".toList
  let (given, arguments) ← options (letters.map (·, false)) arguments
  let kinds := (given.map (·.1)).filter fun letter => letter != 'H' && letter != 'S'
  if !arguments.isEmpty then pure 0
  else
    match kinds.getLast? with
    | some 'n' => say "1048576\n".toList
    | some 's' => say "8192\n".toList
    | some 'r' => say "0\n".toList
    | _ => say "unlimited\n".toList

/-! ## Directories -/

/-- The directory that is meant by a path for `cd`, and whether it is to be shown: that of the
first of the directories in `CDPATH` that has it, unless the path says where it starts. -/
def destination (target : Octets) : Work (Octets × Bool) := do
  let startsItself : Bool :=
    match Octets.splitAt (· == '/') target with
    | first :: _ => target.head? == some '/' || first == ['.'] || first == ['.', '.']
    | [] => false
  let state ← get
  match if startsItself then none else Work.lookUp state "CDPATH".toList with
  | none => pure (target, false)
  | some places =>
      let paths := (Octets.splitAt (· == ':') places).map fun place =>
        (if place.isEmpty then target else place ++ '/' :: target, !place.isEmpty)
      match ← paths.findM? fun (path, _) => do
          pure ((← Work.nodeOf? path) == some .directory) with
      | some found => pure found
      | none => pure (target, false)

/-- Goes to another directory. -/
def cd (arguments : List Octets) : Work Nat := do
  let (_, arguments) ← options [('L', false), ('P', false)] arguments
  let state ← get
  let valueOf (name : String) : Octets := (Work.lookUp state name.toList).getD []
  let (target, isBack) :=
    match arguments with
    | [] => (valueOf "HOME", false)
    | ['-'] :: _ => (valueOf "OLDPWD", true)
    | argument :: _ => (argument, false)
  let target := if target.isEmpty then ['.'] else target
  let (path, isElsewhere) ← destination target
  let place := Directory.along state.place (Octets.toText path)
  if state.system.storage.node? place == some .directory then
    let before := valueOf "PWD"
    let now := Octets.ofText (Directory.text place)
    modify fun state =>
      { state with
        place
        found := state.found.map fun (name, path, _) => (name, path, true) }
    Work.putVariable "OLDPWD".toList (some { value := some before, isExported := true })
    Work.putVariable "PWD".toList (some { value := some now, isExported := true })
    if isBack || isElsewhere then say (now ++ ['\n']) else pure 0
  else Work.refuse ("can't cd to ".toList ++ target)

/-- Shows the directory that the shell is in. -/
def pwd (arguments : List Octets) : Work Nat := do
  let _ ← options [('L', false), ('P', false)] arguments
  say (Octets.ofText (Directory.text (← get).place) ++ ['\n'])

/-- What a mask leaves for the owner, the group and others, in letters. -/
def maskText (mask : Nat) : Octets :=
  let letters (shift : Nat) : Octets :=
    let bits := 7 - mask / shift % 8
    [(4, 'r'), (2, 'w'), (1, 'x')].filterMap fun (bit, letter) =>
      if bits / bit % 2 = 1 then some letter else none
  "u=".toList ++ letters 64 ++ ",g=".toList ++ letters 8 ++ ",o=".toList ++ letters 1

/-- Permissions with the changes that letters ask for, clause by clause; none if they mean nothing.
`whom` holds the places of those whose permissions are meant, the first number bounds the steps, and
`given` holds the permissions to begin with. -/
def permissions? (given : Nat) : Nat → (whom : Nat) → Octets → (now : Nat) → Option Nat
  | 0, _, _, _ => none
  | _, _, [], now => some now
  | bound + 1, whom, text, now =>
      let places : List (Char × Nat) := [('a', 0o111), ('u', 0o100), ('g', 0o010), ('o', 0o001)]
      let people := text.takeWhile fun c => (places.lookup c).isSome
      let whom := people.foldl (fun whom c => whom ||| (places.lookup c).getD 0) whom
      let whom := if whom = 0 then 0o111 else whom
      match text.drop people.length with
      | [] => some now
      | sign :: rest =>
          let bits (c : Char) : Option Nat :=
            if c = 'r' then some 4 else if c = 'w' then some 2 else if c = 'x' then some 1
            else if c = 'u' then some (given / 64) else if c = 'g' then some (given / 8)
            else if c = 'o' then some given else if c = 'X' then some (min (given &&& 0o111) 1)
            else if c = 's' then some 0 else none
          let letters := rest.takeWhile fun c => (bits c).isSome
          let value := letters.foldl (fun value c => value ||| (bits c).getD 0) 0
          let value := value % 8 * whom
          let changed : Option Nat :=
            if sign = '-' then some (now &&& (0o777 ^^^ value))
            else if sign = '+' then some (now ||| value)
            else if sign = '=' then some (value ||| (now &&& (0o777 ^^^ whom * 7)))
            else none
          match changed, rest.drop letters.length with
          | none, _ => none
          | some now, ',' :: rest => permissions? given bound 0 rest now
          | some now, [] => some now
          | some now, c :: rest =>
              if c = '-' || c = '+' || c = '=' then permissions? given bound whom (c :: rest) now
              else none

/-- Shows what is taken off the permissions of new files, or changes it. -/
def umask (arguments : List Octets) : Work Nat := do
  let (given, arguments) ← options [('S', false)] arguments
  let mask := (← get).mask
  match arguments with
  | [] =>
      let digit (shift : Nat) : Char := Char.ofNat ('0'.toNat + mask / shift % 8)
      say ((if given.isEmpty then [digit 512, digit 64, digit 8, digit 1] else maskText mask) ++
        ['\n'])
  | argument :: _ =>
      if argument.head?.any isDigit then
        let (value, _, rest) := digitsOf 8 argument
        if rest.isEmpty then modify ({ · with mask := value % 512 })
        else let _ ← Work.refuse (α := Unit) ("Illegal number: ".toList ++ argument)
      else
        let now := 0o777 - mask
        match permissions? now (argument.length + 1) 0 argument now with
        | some now => modify ({ · with mask := 0o777 - now % 512 })
        | none => let _ ← Work.refuse (α := Unit) ("Illegal mode: ".toList ++ argument)
      pure 0

end Console.Shell.Builtin
