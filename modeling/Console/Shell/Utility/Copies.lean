import Console.Shell.Utility.Files

/-!
# Copies of files

Copying and moving files and directories, and giving files second names.
-/

namespace Console.Shell.Utility

/-- The name that a file gets in a directory, or the name itself if there is no such directory. -/
def targetFor (target source : Octets) : Work Octets := do
  if (← Work.nodeOf? target) == some .directory then
    let name := lastName source
    let isDots := name == ['.'] || name == ['.', '.']
    pure (if isDots then target
      else target ++ (if target.getLast? = some '/' then [] else ['/']) ++ name)
  else pure target

/-- The nodes in a directory as they are in another one. -/
def copyBelow (before after : List String) (storage : Storage) : Storage :=
  let found := storage.nodes.filter fun (path, _) =>
    before.isPrefixOf path && path.length ≠ before.length
  found.foldl (fun storage (path, node) => storage.put (after ++ path.drop before.length) node)
    (if (storage.node? after).isSome then storage else storage.put after .directory)

/-- Gives a copy the permissions of what it is a copy of, if it is new, and its time if it is to be
kept. -/
def keepTraits (isWhole isNew : Bool) (source target : Octets) : Work Unit := do
  match ← Work.placeOf? source, ← Work.placeOf? target with
  | some before, some after =>
      let state ← get
      let traits := state.system.traitsOf before
      changeTraits after fun found =>
        if isWhole then traits
        else if isNew then { found with mode := Permissions.without traits.mode state.mask }
        else found
  | _, _ => pure ()

/-- Copies a file or, if that is wanted, a directory. -/
def copyFile (given : List (Char × Octets)) (source target : Octets) : Work Nat := do
  let isDeep := has given 'r' || has given 'R' || has given 'a'
  match ← contentOf source with
  | .error .isADirectory =>
      if !isDeep then
        complain "cp" ("-r not specified; omitting directory " ++ quoted source) 1
      else
        let target ← targetFor target source
        match ← pathOf? source, ← pathOf? target with
        | some (before, _), some (after, node) =>
            if before.isPrefixOf after then
              complain "cp" ("cannot copy a directory, " ++ quoted source ++ ", into itself, " ++
                quoted target) 1
            else if node.all (· == .directory) then
              changeStorage (copyBelow before after)
              pure 0
            else
              complain "cp" ("cannot overwrite non-directory " ++ quoted target ++
                " with directory " ++ quoted source) 1
        | _, _ =>
            complain "cp"
              ("cannot create directory " ++ quoted target ++ ": No such file or directory") 1
  | .error cause =>
      complain "cp" ("cannot stat " ++ quoted source ++ ": " ++ causeText cause) 1
  | .ok text =>
      let target ← targetFor target source
      let state ← get
      let location ← Work.location target
      let there ← Work.placeOf? target
      if there.isSome && there == (← Work.placeOf? source) then
        complain "cp" (quoted source ++ " and " ++ quoted target ++ " are the same file") 1
      else if has given 'n' && there.isSome then pure 0
      else
        match state.system.overwrite state.mask location (Octets.toBytes text) with
        | .ok system =>
            set { state with system }
            keepTraits (has given 'p' || has given 'a') there.isNone source target
            if has given 'v' then
              say (Octets.ofText (quoted source ++ " -> " ++ quoted target) ++ ['\n'])
            pure 0
        | .error cause =>
            let cause := if cause = .isADirectory then .notADirectory else cause
            complain "cp"
              ("cannot create regular file " ++ quoted target ++ ": " ++ causeText cause) 1

/-- The sources and the target of a program that copies or moves; a directory may be given as an
option. -/
def sourcesAndTarget (program : String) (given : List (Char × Octets)) (names : List Octets)
    (work : Octets → Octets → Work Nat) : Work Nat := do
  let run (sources : List Octets) (target : Octets) : Work Nat := do
    let statuses ← sources.mapM (work · target)
    pure (statuses.foldl max 0)
  match given.lookup 't', names, names.getLast? with
  | _, [], _ => complainOfUse program "missing file operand" 1
  | some target, names, _ =>
      if (← Work.nodeOf? target) == some .directory then run names target
      else
        complain program ("target directory " ++ quoted target ++ ": No such file or directory") 1
  | none, [source], _ =>
      complainOfUse program ("missing destination file operand after " ++ quoted source) 1
  | none, names, some target =>
      match ← Work.nodeOf? target with
      | some .directory => run names.dropLast target
      | node =>
          if names.length ≤ 2 then run names.dropLast target
          else
            let cause := if node.isSome then "Not a directory" else "No such file or directory"
            complain program ("target " ++ quoted target ++ ": " ++ cause) 1
  | _, _, none => pure 1

/-- Copies files. -/
def cp : Utility :=
  withOptions "cp" ("fpavrRnid".toList.map (·, false) ++ [('t', true)]) 1 fun given names =>
    sourcesAndTarget "cp" given names (copyFile given)

/-- Puts a path in place of another one at the beginning of paths. -/
def rename (before after : List String) (storage : Storage) : Storage :=
  { storage with nodes := storage.nodes.map fun (path, node) =>
      if before.isPrefixOf path then (after ++ path.drop before.length, node) else (path, node) }

/-- Puts what is known of files under their new paths. -/
def renameTraits (before after : List String) : Work Unit := modify fun state =>
  let others := state.system.traits.filter fun (path, _) => !after.isPrefixOf path
  let traits := others.map fun (path, traits) =>
    if before.isPrefixOf path then (after ++ path.drop before.length, traits) else (path, traits)
  { state with system := { state.system with traits } }

/-- Moves a directory. -/
def moveDirectory (source target : Octets) : Work Nat := do
  match ← pathOf? source, ← pathOf? target with
  | some (before, _), some (after, node) =>
      if before.isPrefixOf after then
        complain "mv" ("cannot move " ++ quoted source ++ " to a subdirectory of itself, " ++
          quoted target) 1
      else
        let isFull := (← get).system.storage.nodes.any fun (path, _) =>
          after.isPrefixOf path && path.length ≠ after.length
        match node with
        | none =>
            changeStorage (rename before after)
            renameTraits before after
            pure 0
        | some .directory =>
            if isFull then
              complain "mv" ("cannot overwrite " ++ quoted target ++ ": Directory not empty") 1
            else
              changeStorage fun storage =>
                rename before after
                  { storage with nodes := storage.nodes.filter (·.1 != after) }
              renameTraits before after
              pure 0
        | some _ =>
            complain "mv" ("cannot overwrite non-directory " ++ quoted target ++
              " with directory " ++ quoted source) 1
  | _, _ =>
      complain "mv" ("cannot move " ++ quoted source ++ " to " ++ quoted target ++
        ": No such file or directory") 1

/-- Moves a file or a directory. -/
def moveFile (given : List (Char × Octets)) (source target : Octets) : Work Nat := do
  let target ← targetFor target source
  match ← Work.nodeOf? source with
  | none =>
      let cause := match ← contentOf source with | .error cause => cause | .ok _ => .notFound
      complain "mv" ("cannot stat " ++ quoted source ++ ": " ++ causeText cause) 1
  | some .directory => moveDirectory source target
  | some _ =>
      let location ← Work.location source
      let there ← Work.placeOf? target
      if there.isSome && there == (← Work.placeOf? source) then
        complain "mv" (quoted source ++ " and " ++ quoted target ++ " are the same file") 1
      else if has given 'n' && there.isSome then pure 0
      else
        let state ← get
        let bytes := (state.system.storage.content location).toOption.getD []
        let traits := (state.system.namesAt? location).map state.system.traitsOf
        let copied := state.system.overwrite state.mask (← Work.location target) bytes
        match copied.bind (·.remove location) with
        | .ok system =>
            set { state with system }
            if let some names ← Work.placeOf? target then
              changeTraits names fun found => traits.getD found
            if has given 'v' then
              say (Octets.ofText ("renamed " ++ quoted source ++ " -> " ++ quoted target) ++ ['\n'])
            pure 0
        | .error .isADirectory =>
            complain "mv" ("cannot overwrite directory " ++ quoted target ++
              " with non-directory") 1
        | .error cause =>
            complain "mv" ("cannot move " ++ quoted source ++ " to " ++ quoted target ++ ": " ++
              causeText cause) 1

/-- Moves files. -/
def mv : Utility :=
  withOptions "mv" ("fvni".toList.map (·, false) ++ [('t', true)]) 1 fun given names =>
    sourcesAndTarget "mv" given names (moveFile given)

/-- Gives a file a second name. -/
def linkFile (given : List (Char × Octets)) (source target : Octets) : Work Nat := do
  let kind := if has given 's' then "symbolic" else "hard"
  let target ← targetFor target source
  match ← contentOf source with
  | .error .isADirectory =>
      complain "ln" (Octets.toText source ++ ": hard link not allowed for directory") 1
  | .error cause =>
      complain "ln" ("failed to access " ++ quoted source ++ ": " ++ causeText cause) 1
  | .ok text =>
      let state ← get
      if (← Work.nodeOf? target).isSome && !has given 'f' then
        complain "ln" ("failed to create " ++ kind ++ " link " ++ quoted target ++
          ": File exists") 1
      else
        match state.system.overwrite state.mask (← Work.location target) (Octets.toBytes text) with
        | .ok system =>
            set { state with system }
            keepTraits true true source target
            pure 0
        | .error cause =>
            complain "ln" ("failed to create " ++ kind ++ " link " ++ quoted target ++ ": " ++
              causeText cause) 1

/-- Gives files second names. -/
def ln : Utility :=
  withOptions "ln" ("sfvn".toList.map (·, false)) 1 fun given names =>
    match names with
    | [source] => linkFile given source ['.']
    | names => sourcesAndTarget "ln" given names (linkFile given)

/-- Copies files to where they are used, or makes directories. -/
def install : Utility :=
  withOptions "install" ("dDcv".toList.map (·, false) ++ "mogt".toList.map (·, true)) 1
    fun given names => do
      if has given 'd' then
        for name in names do
          if let .path text := ← Work.location name then
            if (← Work.nodeOf? name).isNone then changeStorage (·.place text .directory)
        pure 0
      else sourcesAndTarget "install" given names fun source target => do
        let status ← copyFile [] source target
        if let some names ← Work.placeOf? (← targetFor target source) then
          let mode := (given.lookup 'm').bind (Permissions.changed? 0 false · 0)
          changeTraits names ({ · with mode := mode.getD 0o755 })
        pure status

end Console.Shell.Utility
