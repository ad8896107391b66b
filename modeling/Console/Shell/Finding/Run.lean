import Console.Shell.Finding.Criterion
import Console.Shell.Utility.Directories

/-!
# Looking through directories

A search goes through directories, works out a criterion for all that is found, and does what the
criterion says: `Finding.find` is the program for it.
-/

namespace Console.Shell.Finding

open Utility (quoted say)

/-- Something that has been found. -/
structure Found where
  /-- Where the search started, as it was said. -/
  start : Octets
  /-- The path as it is shown. -/
  path : Octets
  /-- The names along the path. -/
  names : List String
  node : Node
  depth : Nat := 0

/-- How a search stands. -/
structure Progress where
  /-- What is in the latest directory is not looked at. -/
  isPruned : Bool := false
  isOver : Bool := false
  status : Nat := 0
  /-- The programs that are run at the end, with the paths for each, the latest first. -/
  batches : List (List Octets × List Octets) := []

/-- What a search does. -/
abbrev Searching := StateT Progress Work

/-- Complains, which shows in the status at the end. -/
def complain (text : String) : Searching Unit := do
  let _ ← Utility.complain "find" text 1
  modify ({ · with status := 1 })

/-! ## What is found -/

/-- The letter for a kind of nodes. -/
def letterOf : Node → Char
  | .file _ => 'f'
  | .directory => 'd'
  | .sink => 'c'

/-- The number of bytes of a node, where a directory has one block. -/
def sizeOfNode : Node → Nat
  | .file content => content.length
  | .directory => 4096
  | .sink => 0

/-- The path in front of the last name. -/
def placeOf (path : Octets) : Octets :=
  let bare := (path.reverse.dropWhile (· == '/')).reverse
  if bare.length != path.length then bare
  else
    match bare.reverse.dropWhile (· != '/') with
    | [] => ['.']
    | [_] => ['/']
    | _ :: place => place.reverse

/-- The last name of a path, as formats have it. -/
def lastOf (path : Octets) : Octets :=
  let ending := path.reverse.takeWhile (· == '/')
  ((path.reverse.drop ending.length).takeWhile (· != '/')).reverse ++ ending

/-- How many names lead to something. -/
def linksOf (found : Found) : Work Nat := do
  if found.node != .directory then pure 1
  else
    let inside ← Utility.entriesOf found.names
    pure (2 + (inside.filter fun (_, node) => node == .directory).length)

/-- What a letter in a format stands for; none if it stands for nothing. -/
def field? (found : Found) (letter : Char) : Work (Option Octets) := do
  let traits := (← get).system.traitsOf found.names
  let blocks := (sizeOfNode found.node + 4095) / 4096
  match letter with
  | 'p' => pure (some found.path)
  | 'f' => pure (some (lastOf found.path))
  | 'h' => pure (some (placeOf found.path))
  | 'H' => pure (some found.start)
  | 'P' => pure (some ((found.path.drop found.start.length).dropWhile (· == '/')))
  | 's' => pure (some (countOctets (sizeOfNode found.node)))
  | 'b' => pure (some (countOctets (8 * blocks)))
  | 'k' => pure (some (countOctets (4 * blocks)))
  | 'y' | 'Y' => pure (some [letterOf found.node])
  | 'm' => pure (some (Permissions.digits traits.mode))
  | 'M' =>
      let kind := match found.node with | .file _ => '-' | node => letterOf node
      pure (some (kind :: Permissions.letters traits.mode))
  | 'n' => do pure (some (countOctets (← linksOf found)))
  | 'd' => pure (some (countOctets found.depth))
  | 'u' | 'g' => pure (some "root".toList)
  | 'U' | 'G' => pure (some ['0'])
  | 'l' => pure (some [])
  | _ => pure none

/-- What a format makes of what has been found; the number bounds the length of the format. -/
def formatted (found : Found) : Nat → Octets → Work Octets
  | 0, _ | _, [] => pure []
  | fuel + 1, c :: rest =>
      match c, rest with
      | '%', '%' :: rest => do pure ('%' :: (← formatted found fuel rest))
      | '%', rest => do
          let (layout, after, _) := ({ arguments := [] } : Formatting).layout rest
          let same : Octets := '%' :: rest.take (rest.length - after.length)
          match after with
          | 'T' :: letter :: after => do
              let time := ((← get).system.traitsOf found.names).time
              pure (Times.fieldOf time letter ++ (← formatted found fuel after))
          | letter :: after =>
              match ← field? found letter with
              | some text => do pure (layout.text text ++ (← formatted found fuel after))
              | none => do pure (same ++ letter :: (← formatted found fuel after))
          | [] => pure same
      | '\\', 'c' :: _ => pure []
      | '\\', next :: rest => do
          if isOctal next || "abfnrtv\\".toList.contains next then
            let (c, rest) := escapeOf (next :: rest)
            pure (c :: (← formatted found fuel rest))
          else pure ('\\' :: next :: (← formatted found fuel rest))
      | c, rest => do pure (c :: (← formatted found fuel rest))

/-! ## Criteria -/

/-- The length of a unit of age in milliseconds. -/
def AgeUnit.length : AgeUnit → Int
  | day => 86400000
  | minute => 60000

/-- Whether something is so old: ages are counted in whole days that have passed, or in minutes that
have begun. -/
def isAged (unit : AgeUnit) (amount : Amount) (age : Int) : Bool :=
  match unit, amount with
  | .day, amount => 0 ≤ age && amount.has (age.fdiv unit.length).toNat
  | .minute, .less limit => age < limit * unit.length
  | .minute, .more limit => limit * unit.length < age
  | .minute, .exactly number =>
      (number - 1 : Int) * unit.length < age && age ≤ number * unit.length

/-- Whether a test holds. -/
def Test.holds (found : Found) (test : Test) : Work Bool := do
  let state ← get
  let traits := state.system.traitsOf found.names
  match test with
  | .constant holds => pure holds
  | .name isWhole ignoresCase pattern =>
      let text := if isWhole then found.path else Utility.lastName found.path
      pure (pattern.covers (if ignoresCase then text.map Char.toLower else text))
  | .path regex =>
      -- the longest match at the start has to be the whole path
      pure ((LineMatch.from? regex 0 none found.path).any fun match_ =>
        match_.start = 0 && match_.length = found.path.length)
  | .kind letters => pure (letters.contains (letterOf found.node))
  | .empty =>
      match found.node with
      | .directory => do pure (← Utility.entriesOf found.names).isEmpty
      | .file content => pure content.isEmpty
      | .sink => pure false
  | .newer file =>
      match ← Work.placeOf? file with
      | some names => pure ((state.system.traitsOf names).time < traits.time)
      | none => pure false
  | .newerThan time => pure (time < traits.time)
  | .size unit amount => pure (amount.has ((sizeOfNode found.node + unit - 1) / unit))
  | .age unit amount => pure (isAged unit amount (state.system.now - traits.time))
  | .permissions mode sharing =>
      pure (match sharing with
        | .exactly => traits.mode = mode
        | .all => traits.mode &&& mode = mode
        | .any => mode = 0 || traits.mode &&& mode != 0)
  | .links amount => do pure (amount.has (← linksOf found))
  | .canRun => pure (traits.mode &&& 0o111 != 0)
  | .same file => do pure ((← Work.placeOf? file) == some found.names)

/-- A word of a command with a path in place of every pair of braces. -/
def filled (path : Octets) : Octets → Octets
  | '\x7b' :: '\x7d' :: rest => path ++ filled path rest
  | c :: rest => c :: filled path rest
  | [] => []

/-- Shows a text, or adds it to a file. -/
def put (file : Option Octets) (text : Octets) : Work Unit := do
  match file with
  | none => say text
  | some name =>
      let state ← get
      let before := ((← Utility.contentOf name).toOption).getD []
      match state.system.overwrite state.mask (← Work.location name)
          (Octets.toBytes (before ++ text)) with
      | .ok system => set { state with system }
      | .error _ => pure ()

/-- Removes what has been found; whether it could be done. -/
def remove (found : Found) : Searching Bool := do
  let refused (cause : String) : Searching Bool := do
    complain ("cannot delete " ++ quoted found.path ++ ": " ++ cause)
    pure false
  if Utility.lastName found.path == ['.'] then pure true
  else if found.node == .directory then
    if (← Utility.entriesOf found.names).isEmpty then
      Utility.changeStorage fun storage =>
        { storage with nodes := storage.nodes.filter (·.1 != found.names) }
      modifyThe State fun state => { state with system := state.system.forgetting }
      pure true
    else refused "Directory not empty"
  else
    let state ← getThe State
    match state.system.remove (← Work.location found.path) with
    | .ok system => do
        set { state with system }
        pure true
    | .error cause => refused (causeText cause)

/-- Does something with what has been found; whether it has come to a good end.  `start` runs a
program. -/
def Action.perform (start : Octets → List Octets → Work Nat) (found : Found) (action : Action) :
    Searching Bool := do
  match action with
  | .print file ending => do
      put file (found.path ++ ending)
      pure true
  | .write file format => do
      put file (← formatted found (format.length + 1) format)
      pure true
  | .delete => remove found
  | .prune => do
      modify ({ · with isPruned := true })
      pure true
  | .quit => do
      modify ({ · with isOver := true })
      pure true
  | .run isAsked program =>
      match program.map (filled found.path) with
      | [] => pure false
      | name :: rest => do
          let question :=
            "< " ++ Octets.toText name ++ " ... " ++ Octets.toText found.path ++ " > ? "
          let isAllowed ← if isAsked then Utility.agrees question else pure true
          if isAllowed then pure ((← start name rest) = 0) else pure false
  | .collect program => do
      modify fun progress =>
        let paths := (progress.batches.lookup program).getD []
        let others := progress.batches.filter (·.1 != program)
        { progress with batches := others ++ [(program, found.path :: paths)] }
      pure true

/-- Whether a criterion holds; after the end of the search nothing is done any more. -/
def Criterion.holds (start : Octets → List Octets → Work Nat) (found : Found) :
    Criterion → Searching Bool
  | .test wanted => wanted.holds found
  | .action wanted => do
      if (← get).isOver then pure false else wanted.perform start found
  | .not criterion => do pure (!(← criterion.holds start found))
  | .both left right => do
      if ← left.holds start found then right.holds start found else pure false
  | .either left right => do
      if ← left.holds start found then pure true else right.holds start found
  | .sequence left right => do
      let _ ← left.holds start found
      right.holds start found

/-! ## Directories -/

/-- Works out the criterion of a plan for something, and for all that is in it.  The number bounds
how deep directories are in one another. -/
def visit (plan : Plan) (start : Octets → List Octets → Work Nat) : Nat → Found → Searching Unit
  | 0, _ => pure ()
  | bound + 1, found => do
      let settings := plan.settings
      let judge : Searching Unit := do
        if settings.leastDepth ≤ found.depth && !(← get).isOver then
          let _ ← plan.criterion.holds start found
      modify ({ · with isPruned := false })
      unless settings.isDeepFirst do judge
      let isOpen := found.node == .directory && !(← get).isPruned && !(← get).isOver &&
        settings.mostDepth.all (found.depth < ·)
      if isOpen then
        if (← getThe State).system.storage.node? found.names == some .directory then
          let front := if found.path.getLast? = some '/' then found.path else found.path ++ ['/']
          for (name, node) in ← Utility.entriesOf found.names do
            visit plan start bound
              { start := found.start, path := front ++ name
                names := found.names ++ [Octets.toText name], node, depth := found.depth + 1 }
        else complain (quoted found.path ++ ": No such file or directory")
      if settings.isDeepFirst then judge

/-- Goes through all places where a plan starts, and runs the programs that wait for the end. -/
def Plan.run (plan : Plan) (start : Octets → List Octets → Work Nat) : Searching Unit := do
  for path in plan.starts do
    unless (← get).isOver do
      match ← Work.find? path with
      | some (names, node) => visit plan start 1000 { start := path, path, names, node }
      | none =>
          let cause :=
            match ← Utility.contentOf path with
            | .error cause => cause
            | .ok _ => .notFound
          complain (quoted path ++ ": " ++ causeText cause)
  for (program, paths) in (← get).batches do
    if let name :: rest := program ++ paths.reverse then
      if (← start name rest) != 0 then modify ({ · with status := 1 })

/-- The files that actions write to. -/
def targets (criterion : Criterion) : List Octets :=
  criterion.actions.filterMap fun action =>
    match action with
    | .print file _ | .write file _ => file
    | _ => none

/-- Empties the files that a search writes to, and makes sure that those are there that something is
compared with; the complaint about the first one that fails. -/
def prepare (criterion : Criterion) : Work (Option String) := do
  let mut refusal : Option String := none
  for name in criterion.references do
    if refusal.isNone && (← Work.nodeOf? name).isNone then
      refusal := some (quoted name ++ ": No such file or directory")
  for name in targets criterion do
    if refusal.isNone then
      let state ← get
      match state.system.overwrite state.mask (← Work.location name) [] with
      | .ok system => set { state with system }
      | .error cause => refusal := some (quoted name ++ ": " ++ causeText cause)
  pure refusal

/-- Looks for files; `start` runs a program with arguments. -/
def find (start : Octets → List Octets → Work Nat) : Utility := fun arguments => do
  match Plan.read (← get).system.now arguments with
  | .error fault => Utility.complain "find" fault.message 1
  | .ok plan =>
      match ← prepare plan.criterion with
      | some refusal => Utility.complain "find" refusal 1
      | none => do
          let ((), progress) ← (plan.run start).run {}
          pure progress.status

end Console.Shell.Finding
