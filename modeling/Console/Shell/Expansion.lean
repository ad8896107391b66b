import Console.Shell.Arithmetic
import Console.Shell.Fields
import Console.Shell.State

/-!
# Expansion of words

What words come to: parameters, outputs of commands and sums are replaced by their values, the
result is cut into fields, and fields that are patterns become the names that they match.  The
output of commands is found by a function that is given.
-/

namespace Console.Shell

/-- What the result of an expansion is for. -/
structure Mode where
  /-- It is cut into fields, rather than taken as one text. -/
  isFields : Bool := false
  /-- It is also cut where the word itself has separators. -/
  isCut : Bool := false
  /-- Tildes in it stand for home directories. -/
  hasHomes : Bool := false
  /-- It is the value of an assignment. -/
  isAssigned : Bool := false

namespace Work

/-- A text that comes from an expansion. -/
def expanded (mode : Mode) (isQuoted : Bool) (text : Octets) : List Cell :=
  text.map fun c => .glyph ⟨c, isQuoted, !isQuoted && mode.isFields⟩

/-- The values of a parameter; none if it is missing. -/
def valuesOf (parameter : Parameter) : Work (Option (List Octets)) := do
  let state ← get
  pure <| match parameter with
    | .argument 0 => some [state.name]
    | .argument (index + 1) => (state.arguments[index]?).map ([·])
    | .arguments | .joined => some state.arguments
    | .count => some [countOctets state.arguments.length]
    | .process => some [countOctets state.process]
    | .status => some [countOctets state.status]
    | .background => state.background.map fun number => [countOctets number]
    | .options => some [state.options.letters]
    | .named name => (lookUp state name).map ([·])

/-- What a parameter is called. -/
def nameOf : Parameter → Octets
  | .argument index => countOctets index
  | .arguments => ['@']
  | .joined => ['*']
  | .count => ['#']
  | .process => ['$']
  | .status => ['?']
  | .background => ['!']
  | .options => ['-']
  | .named name => name

/-- Values as one text, with the first separator between them. -/
def joinedValues (values : List Octets) : Work Octets := do
  pure (((← separators).take 1).intercalate values)

/-- Whether the values of a parameter stay apart. -/
def isApart (mode : Mode) (isQuoted : Bool) (parameter : Parameter) : Bool :=
  mode.isFields && (parameter = .arguments || (parameter = .joined && !isQuoted))

/-- The cells of the values of a parameter. -/
def valueCells (mode : Mode) (isQuoted : Bool) (parameter : Parameter) (values : List Octets) :
    Work (List Cell) := do
  if isApart mode isQuoted parameter then
    let field (text : Octets) : List Cell :=
      (if isQuoted then [.quotes] else []) ++ expanded mode isQuoted text
    pure ([Cell.boundary].intercalate (values.map field))
  else pure (expanded mode isQuoted (← joinedValues values))

/-- Refuses a parameter that is missing. -/
def refuseMissing {α : Type} (parameter : Parameter) : Work α :=
  refuse (nameOf parameter ++ ": parameter not set".toList)

/-- The values of a parameter that is used for what it is; one that is missing is empty unless
that is a fault. -/
def valuesNeeded (parameter : Parameter) : Work (List Octets) := do
  match ← valuesOf parameter with
  | some values => pure values
  | none => if (← get).options.nounset then refuseMissing parameter else pure []

/-- The value of an arithmetic expression. -/
def sum (text : Octets) : Work Octets := do
  let state ← get
  match (Sum.ofOctets text).value (lookUp state) false [] with
  | .error .overflow => throw (.exit (.signal 8))
  | .error fault => refuse (fault.message text)
  | .ok (value, given) =>
      for (name, value) in given.reverse do assign name (integerOctets value)
      pure (integerOctets value)

/-! ## Home directories -/

/-- The directories that the users of a system start in. -/
def homes : List (String × String) :=
  [("root", "/root"), ("daemon", "/usr/sbin"), ("bin", "/bin"), ("sys", "/dev"), ("sync", "/bin"),
   ("games", "/usr/games"), ("man", "/var/cache/man"), ("lp", "/var/spool/lpd"),
   ("mail", "/var/mail"), ("news", "/var/spool/news"), ("uucp", "/var/spool/uucp"),
   ("proxy", "/bin"), ("www-data", "/var/www"), ("backup", "/var/backups"), ("list", "/var/list"),
   ("irc", "/run/ircd"), ("nobody", "/nonexistent"), ("_apt", "/nonexistent")]

/-- The cells of a text as it is written. -/
def plainCells (mode : Mode) (text : Octets) : List Cell :=
  text.map fun c => .glyph ⟨c, false, mode.isCut⟩

/-- The cells of a stretch of a word in which a tilde in front, with the name of a user or without,
is replaced by a home directory.  The name ends at a slash, or at the end of the stretch if nothing
of the word belongs to it after that. -/
def stretchCells (mode : Mode) (home : Option Octets) (isComplete : Bool) (text : Octets) :
    List Cell :=
  match text with
  | '~' :: more =>
      let name := more.takeWhile (· != '/')
      let rest := more.drop name.length
      let found :=
        if name.isEmpty then home else (homes.lookup (.ofList name)).map (·.toList)
      match if rest.isEmpty && !isComplete then none else found with
      | some home => home.map (fun c => .glyph ⟨c, true, false⟩) ++ plainCells mode rest
      | none => plainCells mode text
  | text => plainCells mode text

/-- The cells of a text in a word; `isStart` says whether it begins the word and `isLast` whether it
ends it.  In an assignment a colon begins a stretch of its own. -/
def textCells (mode : Mode) (isStart isLast : Bool) (text : Octets) : Work (List Cell) := do
  if !mode.hasHomes then pure (plainCells mode text)
  else
    let home := lookUp (← get) "HOME".toList
    let stretches := if mode.isAssigned then Octets.splitAt (· == ':') text else [text]
    let cells := stretches.mapIdx fun index stretch =>
      if index = 0 && !isStart then plainCells mode stretch
      else stretchCells mode home (isLast || index + 1 < stretches.length) stretch
    pure ((plainCells mode [':']).intercalate cells)

mutual

/-- What parts of a word come to, of which something stands in front unless `isStart`. -/
def cellsOf (output : List Command → Work Octets) (mode : Mode) (isStart : Bool) :
    List Part → Work (List Cell)
  | [] => pure []
  | .plain text :: rest => do
      let first ← textCells mode isStart rest.isEmpty text
      let others ← cellsOf output mode false rest
      pure (first ++ others)
  | part :: rest => do
      let first ← cellsOfPart output mode part
      let others ← cellsOf output mode false rest
      pure (first ++ others)

/-- What a part of a word comes to. -/
def cellsOfPart (output : List Command → Work Octets) (mode : Mode) :
    Part → Work (List Cell)
  | .plain text => pure (plainCells mode text)
  | .quoted text => pure (.quotes :: text.map fun c => .glyph ⟨c, true, false⟩)
  | .output isQuoted commands => do pure (expanded mode isQuoted (← output commands))
  | .sum isQuoted expression => do
      let cells ← cellsOf output {} true expression
      pure (expanded mode isQuoted (← sum (textOf (glyphsOf cells))))
  | .parameter isQuoted parameter use => cellsOfUse output mode isQuoted parameter use

/-- What a parameter comes to. -/
def cellsOfUse (output : List Command → Work Octets) (mode : Mode) (isQuoted : Bool)
    (parameter : Parameter) : Use → Work (List Cell)
  | .value => do valueCells mode isQuoted parameter (← valuesNeeded parameter)
  | .size => do
      let text ← joinedValues (← valuesNeeded parameter)
      pure (expanded mode isQuoted (countOctets text.length))
  | .trimmed side longest pattern => do
      let values ← valuesNeeded parameter
      let text ← joinedValues values
      let glob := Glob.ofGlyphs (glyphsOf (← cellsOf output { hasHomes := true } true pattern))
      let texts := if isApart mode isQuoted parameter then values else [text]
      valueCells mode isQuoted parameter (glob.trimAll side longest texts)
  | .invalid => refuse "Bad substitution".toList
  | .substitute how nullToo word => do
      let values ← valuesOf parameter
      let isMissing :=
        match values with
        | none => true
        | some values => nullToo && (values.isEmpty || values == [[]])
      let value := valueCells mode isQuoted parameter (values.getD [])
      let inner : Mode := { mode with isCut := mode.isFields && !isQuoted, hasHomes := true }
      match how with
      | .default =>
          if isMissing then cellsOf output inner true word else value
      | .replacement =>
          if isMissing then pure [] else cellsOf output inner true word
      | .assigned =>
          if isMissing then
            let text := textOf (glyphsOf (← cellsOf output { hasHomes := true } true word))
            match parameter with
            | .named name =>
                assign name text
                pure (expanded mode isQuoted text)
            | _ => refuse (nameOf parameter ++ ": bad variable name".toList)
          else value
      | .complaint =>
          if isMissing then
            if word.isEmpty then
              refuse (nameOf parameter ++ ": parameter not set".toList ++
                (if nullToo then " or null".toList else []))
            else
              let text := textOf (glyphsOf (← cellsOf output { hasHomes := true } true word))
              refuse (nameOf parameter ++ [':', ' '] ++ text)
          else value

end

/-- The text that a word comes to, as characters that know whether they were quoted. -/
def glyphs (output : List Command → Work Octets) (word : Word) : Work (List Glyph) := do
  pure (glyphsOf (← cellsOf output { hasHomes := true } true word))

/-- The text that a word comes to. -/
def textOfWord (output : List Command → Work Octets) (word : Word) : Work Octets := do
  pure (textOf (← glyphs output word))

/-- The text that the value of an assignment comes to. -/
def textOfValue (output : List Command → Work Octets) (word : Word) : Work Octets := do
  let mode : Mode := { hasHomes := true, isAssigned := true }
  pure (textOf (glyphsOf (← cellsOf output mode true word)))

/-- The text that a word comes to in which only dollar signs and back quotes have a meaning. -/
def textOfDocument (output : List Command → Work Octets) (word : Word) : Work Octets := do
  pure (textOf (glyphsOf (← cellsOf output {} true word)))

/-! ## Names of files -/

/-- The names in a directory, in order. -/
def namesIn (storage : Storage) (directory : String) : List Octets :=
  match storage.find directory with
  | .ok (names, some .directory) =>
      let found := storage.nodes.filterMap fun (path, _) =>
        if path.length = names.length + 1 && path.dropLast = names then
          path.getLast?.map Octets.ofText
        else none
      found.mergeSort Octets.isBefore
  | _ => []

/-- The names of files that a pattern matches in a directory, component by component: `before` is
the name so far, with a slash at its end. -/
def pathsFrom (storage : Storage) (place : List String) (before : Octets) :
    List (List Glyph) → List Octets
  | [] => []
  | component :: rest =>
      let resolved (name : Octets) : String := Directory.resolve place (Octets.toText name)
      let glob := Glob.ofGlyphs component
      let text := textOf component
      let found :=
        if !glob.isOpen then [text]
        else
          let isHidden := text.head? == some '.'
          ((if isHidden then [['.'], ['.', '.']] else []) ++
              namesIn storage (resolved (if before.isEmpty then ['.'] else before))).filter
            fun name => glob.covers name && (name.head? == some '.') == isHidden
      match rest with
      | [] =>
          (found.map (before ++ ·)).filter fun name =>
            storage.holds (resolved name) || (text.isEmpty && !before.isEmpty)
      | rest => found.flatMap fun name =>
          let next := before ++ name ++ ['/']
          if !glob.isOpen || storage.holds (resolved next) then pathsFrom storage place next rest
          else []

/-- The parts of a field between slashes. -/
def componentsOf : List Glyph → List (List Glyph)
  | [] => [[]]
  | glyph :: rest =>
      match componentsOf rest with
      | [] => [[glyph]]
      | part :: parts =>
          if glyph.char = '/' then [] :: part :: parts else (glyph :: part) :: parts

/-- The names that a field stands for: those of the files that it matches, or else itself. -/
def namesOf (field : List Glyph) : Work (List Octets) := do
  let state ← get
  let pattern := Glob.escaped false field
  if state.options.noglob || !(Glob.ofGlyphs pattern).isOpen then pure [textOf field]
  else
    match pathsFrom state.system.storage state.place [] (componentsOf pattern) with
    | [] => pure [textOf field]
    | names => pure names

/-- The fields that a word comes to. -/
def fieldsOf (output : List Command → Work Octets) (word : Word) : Work (List Octets) := do
  let cells ← cellsOf output { isFields := true, hasHomes := true } true word
  let fields := Fields.ofCells (← separators) cells
  pure (← fields.mapM namesOf).flatten

end Work

end Console.Shell
