import Console.Shell.Utility.Files

/-!
# Programs on directories

Removing files and directories, making directories, and listing what is in them.
-/

namespace Console.Shell.Utility

/-! ## Removing -/

/-- Whether the node with a path is below a directory. -/
def isBelow (directory path : List String) : Bool :=
  directory.isPrefixOf path && path.length ≠ directory.length

/-- What is said when a node is removed. -/
def removalText (name : Octets) (node : Node) : Octets :=
  (if node == .directory then "removed directory '" else "removed '").toList ++ name ++
    ['\'', '\n']

/-- Removes a directory with all that is in it, and says so if that is wanted. -/
def removeAll (isSaid : Bool) (name : Octets) (path : List String) : Work Unit := do
  if isSaid then
    let below := (← get).system.storage.nodes.filter fun (other, _) => isBelow path other
    let ordered := below.mergeSort fun left right => right.1.length ≤ left.1.length
    for (other, node) in ordered do
      let rest := Octets.ofText ("/".intercalate (other.drop path.length))
      say (removalText (name ++ '/' :: rest) node)
    say (removalText name .directory)
  changeStorage fun storage =>
    { storage with nodes := storage.nodes.filter fun (other, _) => !path.isPrefixOf other }
  modify fun state => { state with system := state.system.forgetting }

/-- Whether the next line of the input agrees to a question. -/
def agrees (question : String) : Work Bool := do
  let _ ← Work.writeTo 2 (Octets.ofText question)
  let line := ((Octets.lines (← Work.remaining 0)).head?).getD []
  Work.advance 0 line.length
  pure (line.head?.any fun c => c = 'y' || c = 'Y')

/-- Removes a file, or a directory if that is wanted. -/
def removeNode (given : List (Char × Octets)) (name : Octets) : Work Nat := do
  let force := has given 'f'
  let isDeep := has given 'r' || has given 'R'
  let isDots := lastName name == ['.'] || lastName name == ['.', '.']
  let state ← get
  match ← Work.find? name with
  | some (path, .directory) =>
      let isEmpty := !state.system.storage.nodes.any fun (other, _) => isBelow path other
      if !isDeep && !has given 'd' then
        complain "rm" ("cannot remove " ++ quoted name ++ ": Is a directory") 1
      else if isDots then
        complain "rm" ("refusing to remove '.' or '..' directory: skipping " ++ quoted name) 1
      else if !isDeep && !isEmpty then
        complain "rm" ("cannot remove " ++ quoted name ++ ": Directory not empty") 1
      else
        removeAll (has given 'v') name path
        pure 0
  | found =>
      match state.system.remove (← Work.location name) with
      | .ok system =>
          let isEmpty := match found with | some (_, .file []) => true | _ => false
          let kind := if isEmpty then "regular empty file " else "regular file "
          if has given 'i' && !force &&
              !(← agrees ("rm: remove " ++ kind ++ quoted name ++ "? ")) then
            pure 0
          else
            modify ({ · with system := system })
            if has given 'v' then say (removalText name (.file []))
            pure 0
      | .error cause =>
          if force && (cause = .notFound || cause = .notADirectory) then pure 0
          else complain "rm" ("cannot remove " ++ quoted name ++ ": " ++ causeText cause) 1

/-- Removes files, and directories with all that is in them if wanted. -/
def rm : Utility :=
  withOptions "rm" ("frRivd".toList.map (·, false)) 1 fun given names => do
    if names.isEmpty then
      if has given 'f' then pure 0 else complainOfUse "rm" "missing operand" 1
    else
      let statuses ← names.mapM (removeNode given)
      pure (statuses.foldl max 0)

/-! ## Making directories -/

/-- Makes a directory. -/
def makeDirectory (given : List (Char × Octets)) (name : Octets) : Work Nat := do
  let refused (cause : String) : Work Nat :=
    complain "mkdir" ("cannot create directory " ++ quoted name ++ ": " ++ cause) 1
  let announce (path : Octets) : Work Unit := do
    if has given 'v' then
      say ("mkdir: created directory '".toList ++ path ++ ['\'', '\n'])
  let bare := (name.reverse.dropWhile (· == '/')).reverse
  match ← Work.location (if bare.isEmpty then name else bare) with
  | .scratch => refused "File exists"
  | .path text =>
      match (← get).system.storage.find text with
      | .ok (names, none) =>
          let state ← get
          let open' := 0o777 &&& (0o777 ^^^ state.mask)
          let wanted := (given.lookup 'm').bind (Permissions.changed? state.mask true · 0o777)
          changeStorage (·.put names .directory)
          changeTraits names fun _ => ⟨wanted.getD open', state.system.now⟩
          announce name
          pure 0
      | .ok (_, some node) =>
          if has given 'p' && node == .directory then pure 0 else refused "File exists"
      | .error cause =>
          if has given 'p' && cause = .notFound then
            let parts := Octets.splitAt (· == '/') bare
            for count in List.range parts.length do
              let path := ['/'].intercalate (parts.take (count + 1))
              if (← Work.nodeOf? path).isNone && !path.isEmpty then announce path
            changeStorage (·.place text .directory)
            pure 0
          else refused (causeText cause)

/-- Makes directories. -/
def mkdir : Utility :=
  withOptions "mkdir" [('p', false), ('v', false), ('m', true)] 1 fun given names => do
    if names.isEmpty then complainOfUse "mkdir" "missing operand" 1
    else
      let statuses ← names.mapM (makeDirectory given)
      pure (statuses.foldl max 0)

/-- Removes a directory with nothing in it. -/
def removeDirectory (given : List (Char × Octets)) (name : Octets) : Work Nat := do
  let refused (cause : String) : Work Nat :=
    complain "rmdir" ("failed to remove " ++ quoted name ++ ": " ++ cause) 1
  match ← Work.find? name with
  | some (names, .directory) =>
      if lastName name == ['.'] then refused "Invalid argument"
      else
        let isEmpty := !(← get).system.storage.nodes.any fun (other, _) => isBelow names other
        if isEmpty then
          if has given 'v' then
            say ("rmdir: removing directory, '".toList ++ name ++ ['\'', '\n'])
          changeStorage fun storage =>
            { storage with nodes := storage.nodes.filter (·.1 != names) }
          modify fun state => { state with system := state.system.forgetting }
          pure 0
        else refused "Directory not empty"
  | some _ => refused "Not a directory"
  | none => refused "No such file or directory"

/-- Removes directories with nothing in them, and those around them if wanted. -/
def rmdir : Utility :=
  withOptions "rmdir" [('p', false), ('v', false)] 1 fun given names => do
    if names.isEmpty then complainOfUse "rmdir" "missing operand" 1
    else
      let mut status := 0
      for name in names do
        let parts := Octets.splitAt (· == '/') name
        let paths := if has given 'p' then
            (List.range parts.length).map fun count =>
              ['/'].intercalate (parts.take (parts.length - count))
          else [name]
        for path in paths do
          status := max status (← removeDirectory given path)
      pure status

/-! ## Listing -/

/-- The names in a directory with what they lead to, in order. -/
def entriesOf (names : List String) : Work (List (Octets × Node)) := do
  let found := (← get).system.storage.nodes.filterMap fun (path, node) =>
    if path.length = names.length + 1 && path.dropLast = names then
      path.getLast?.map fun name => (Octets.ofText name, node)
    else none
  pure (found.mergeSort fun left right => Octets.isBefore left.1 right.1)

/-- The names in a directory as they are listed, each in a line. -/
def listed (given : List (Char × Octets)) (entries : List (Octets × Node)) : Octets :=
  let shown := entries.map fun (name, node) =>
    let name := if has given 'Q' then '"' :: name ++ ['"'] else name
    if node == .directory && (has given 'p' || has given 'F') then name ++ ['/'] else name
  let shown := if has given 'r' then shown.reverse else shown
  if has given 'm' then
    if shown.isEmpty then [] else ", ".toList.intercalate shown ++ ['\n']
  else ofLines shown

/-- The directories below one, each with a name and its path, in order; the number bounds how deep
they are. -/
def directoriesBelow : Nat → Octets × List String → Work (List (Octets × List String))
  | 0, _ => pure []
  | bound + 1, (name, path) => do
      let inside := (← entriesOf path).filter fun (name, node) =>
        node == .directory && name.head? != some '.'
      let before := if name.getLast? = some '/' then name else name ++ ['/']
      let found ← inside.mapM fun (inner, _) =>
        directoriesBelow bound (before ++ inner, path ++ [Octets.toText inner])
      pure ((name, path) :: found.flatten)

/-- Lists files and what is in directories. -/
def ls : Utility :=
  withOptions "ls" ("1aAdpFrRCxmQUlitS".toList.map (·, false)) 2 fun given names => do
    let names := if names.isEmpty then [['.']] else names.mergeSort Octets.isBefore
    let mut status := 0
    let mut files : List (Octets × Node) := []
    let mut directories : List (Octets × List String) := []
    for name in names do
      match ← Work.find? name with
      | some (path, .directory) =>
          if has given 'd' then files := files ++ [(name, .directory)]
          else directories := directories ++ [(name, path)]
      | some (_, node) => files := files ++ [(name, node)]
      | none =>
          let cause := match ← contentOf name with | .error cause => cause | .ok _ => .notFound
          status ← complain "ls" ("cannot access " ++ quoted name ++ ": " ++ causeText cause) 2
    say (listed given files)
    let isTitled := 1 < names.length || has given 'R'
    if has given 'R' then
      directories := (← directories.mapM (directoriesBelow 100)).flatten
    let mut isFirst := files.isEmpty
    for (name, path) in directories do
      unless isFirst do say ['\n']
      isFirst := false
      if isTitled then say (name ++ [':', '\n'])
      let entries ← entriesOf path
      let entries :=
        if has given 'a' then (['.'], .directory) :: (['.', '.'], .directory) :: entries
        else if has given 'A' then entries
        else entries.filter (·.1.head? != some '.')
      say (listed given entries)
    pure status

end Console.Shell.Utility
