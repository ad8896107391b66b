import Console.Shell.Builtin.Basic
import Console.Shell.Expansion

/-!
# Commands on parameters

Parameters are read, shown, marked and removed; arguments and options of the shell are changed.
-/

namespace Console.Shell.Builtin

/-! ## Reading -/

/-- A line of an input, and how many characters it takes; the number is that of the characters.  A
backslash takes the meaning of the character after it, and joins lines. -/
def line (isRaw : Bool) : Nat → Octets → List Glyph × Nat × Bool
  | 0, _ | _, [] => ([], 0, false)
  | fuel + 1, c :: rest =>
      if c = '\n' then ([], 1, true)
      else if c = '\\' && !isRaw then
        match rest with
        | [] => ([], 1, false)
        | '\n' :: rest =>
            let (glyphs, count, isEnded) := line isRaw fuel rest
            (glyphs, count + 2, isEnded)
        | d :: rest =>
            let (glyphs, count, isEnded) := line isRaw fuel rest
            (⟨d, true, false⟩ :: glyphs, count + 2, isEnded)
      else
        let (glyphs, count, isEnded) := line isRaw fuel rest
        (if c = '\x00' then glyphs else ⟨c, false, true⟩ :: glyphs, count + 1, isEnded)

/-- Reads a line into parameters. -/
def read (arguments : List Octets) : Work Nat := do
  let (given, names) ← options [('r', false), ('p', true)] arguments
  if names.isEmpty then Work.refuse "arg count".toList
  else
    let input ← Work.remaining 0
    let (glyphs, count, isEnded) := line (given.any (·.1 == 'r')) input.length input
    Work.advance 0 count
    let fields := fieldsOfLine (← Work.separators) names.length glyphs
    for (name, field) in names.zip fields do
      if isName name then Work.assign name (textOf field)
      else let _ ← Work.refuse (α := Unit) (name ++ ": bad variable name".toList)
    pure (if isEnded then 0 else 1)

/-! ## Parameters -/

/-- A value between single quotes, except that single quotes are between double quotes; the number
bounds the stretches. -/
def quotedStretches : Nat → Octets → Octets
  | 0, _ => []
  | bound + 1, value =>
      let plain := value.takeWhile (· != '\'')
      let rest := value.drop plain.length
      let quotes := rest.takeWhile (· == '\'')
      let after := rest.drop quotes.length
      ['\''] ++ plain ++ ['\''] ++ (if quotes.isEmpty then [] else ['"'] ++ quotes ++ ['"']) ++
        (if after.isEmpty then [] else quotedStretches bound after)

/-- A value as it can be written in a script. -/
def quotedValue (value : Octets) : Octets := quotedStretches (value.length + 1) value

/-- Shows parameters, each after a word. -/
def shown (word : Octets) (isShown : Variable → Bool) : Work Nat := do
  let found := ((← get).bindings.filter fun (_, entry) => isShown entry).mergeSort
    fun left right => Octets.isBefore left.1 right.1
  say (found.flatMap fun (name, entry) =>
    let value := match entry.value with | some value => '=' :: quotedValue value | none => []
    word ++ name ++ value ++ ['\n'])

/-- Does something with the parameter in each argument, which may give it a value first. -/
def declare (mark : Variable → Variable) (arguments : List Octets) : Work Nat := do
  for argument in arguments do
    let name := argument.takeWhile (· != '=')
    let value := match argument.drop name.length with | [] => none | _ :: value => some value
    if !isName name then
      let _ ← Work.refuse (α := Unit) (name ++ ": bad variable name".toList)
    if let some value := value then Work.assign name value
    Work.putVariable name (some (mark (((← get).bindings.lookup name).getD {})))
  pure 0

/-- Marks parameters, or shows those that are marked. -/
def marking (word : String) (isMarked : Variable → Bool) (mark : Variable → Variable)
    (arguments : List Octets) : Work Nat := do
  let (given, names) ← options [('p', false)] arguments
  if names.isEmpty || !given.isEmpty then shown (word.toList ++ [' ']) isMarked
  else declare mark names

/-- Makes parameters local to the function that is run. -/
def localise (arguments : List Octets) : Work Nat := do
  for argument in arguments do
    let state ← get
    match state.locals with
    | none => let _ ← Work.refuse (α := Unit) "not in a function".toList
    | some saved =>
        if argument = ['-'] then
          set { state with localOptions := state.localOptions.getD state.options }
        else
          let name := argument.takeWhile (· != '=')
          unless saved.any (·.1 == name) do
            set { state with locals := some ((name, state.bindings.lookup name) :: saved) }
          let _ ← declare id [argument]
  pure 0

/-- Removes parameters or functions. -/
def unset (arguments : List Octets) : Work Nat := do
  let (given, names) ← options [('f', false), ('v', false)] arguments
  for name in names do
    if given.any (·.1 == 'f') then
      modify fun state => { state with functions := state.functions.filter (·.1 != name) }
    else if !isName name then
      let _ ← Work.refuse (α := Unit) (name ++ ": bad variable name".toList)
    else
      let before := (← get).bindings.lookup name
      if before.any (·.isReadOnly) then
        let _ ← Work.refuse (α := Unit) (name ++ ": is read only".toList)
      if name = Work.optionIndexName then Work.startOptions []
      if name = Work.pathName then modify ({ · with found := [] })
      Work.putVariable name none
  pure 0

/-- Takes arguments off. -/
def shift (arguments : List Octets) : Work Nat := do
  let count ← match arguments with | [] => pure 1 | argument :: _ => number argument
  let state ← get
  if state.arguments.length < count then Work.refuse "can't shift that many".toList
  else
    set { state with arguments := state.arguments.drop count, optionPlace := {} }
    pure 0

/-- Changes the option of a letter. -/
def setLetter (isOn : Bool) (letter : Char) : Work Unit := do
  match (← get).options.set? isOn letter with
  | some options =>
      modify ({ · with options })
      if letter = 'm' && isOn then
        Work.complain "can't access tty; job control turned off".toList
  | none => Work.refuse ("Illegal option ".toList ++ [if isOn then '-' else '+', letter])

/-- Shows all options by their names, as a list or as commands that set them. -/
def showOptions (isList : Bool) : Work Nat := do
  let letters := (← get).options.letters
  let lines := Options.names.map fun (name, letter) =>
    let isOn := letters.contains letter
    if isList then
      name.toList ++ List.replicate (16 - name.length) ' ' ++ (if isOn then "on" else "off").toList
    else "set ".toList ++ [if isOn then '-' else '+'] ++ "o ".toList ++ name.toList
  say ((if isList then "Current option settings\n".toList else []) ++ lines.flatMap (· ++ ['\n']))

/-- Changes the option with a name, or shows all of them if there is no name. -/
def setNamed (isOn : Bool) (name : Option Octets) : Work Unit := do
  match name with
  | none => let _ ← showOptions isOn
  | some name =>
      match Options.letterOf? (text name) with
      | some letter => setLetter isOn letter
      | none => Work.refuse ("Illegal option -o ".toList ++ name)

/-- Changes options letter by letter; the letter for options with names takes these from the
arguments after it. -/
def setLetters (isOn : Bool) : Octets → List Octets → Work Unit
  | [], _ => pure ()
  | letter :: letters, names =>
      if letter = 'o' then do
        setNamed isOn names.head?
        setLetters isOn letters (names.drop 1)
      else do
        setLetter isOn letter
        setLetters isOn letters names

/-- Reads options up to the arguments; none if the arguments stay as they are. -/
def setOptions : List Octets → Work (Option (List Octets))
  | [] => pure none
  | argument :: rest =>
      match argument with
      | ['-', '-'] => pure (some rest)
      | ['-'] => do
          setLetters false ['x', 'v'] []
          pure (if rest.isEmpty then none else some rest)
      | c :: letters =>
          if c != '-' && c != '+' then pure (some (argument :: rest))
          else do
            setLetters (c == '-') letters rest
            setOptions (rest.drop (letters.count 'o'))
      | [] => pure (some (argument :: rest))
  termination_by arguments => arguments.length
  decreasing_by simp only [List.length_drop, List.length_cons]; omega

/-- Changes options and arguments. -/
def configure (arguments : List Octets) : Work Nat := do
  if arguments.isEmpty then shown [] (·.value.isSome)
  else
    if let some arguments ← setOptions arguments then
      modify ({ · with arguments, optionPlace := {} })
    pure 0

/-- What follows after a letter in a list of options; a colon after a letter belongs to it. -/
def afterLetter? (letter : Char) : Octets → Option Octets
  | [] => none
  | c :: rest =>
      if c = letter then some rest
      else
        match rest with
        | ':' :: rest => afterLetter? letter rest
        | rest => afterLetter? letter rest

/-- What reading an option comes to. -/
structure OptionRead where
  /-- The letter that the parameter gets. -/
  letter : Char := '?'
  /-- What becomes of the parameter for values of options: nothing, or it gets a value, or none. -/
  value : Option (Option Octets) := none
  place : OptionPlace
  complaint : String := ""
  isOver : Bool := false

/-- Reads the next option in words, from a place on. -/
def readOption (letters : Octets) (words : List Octets) (place : OptionPlace) : OptionRead :=
  let isSilent := letters.head? = some ':'
  let rest :=
    match place.offset, words[place.index - 2]? with
    | some offset, some word => if place.index < 2 then [] else word.drop offset
    | _, _ => []
  -- the characters that are left of a word of options, and the number of the word after it
  let current : Option (Octets × Nat) :=
    if !rest.isEmpty then some (rest, place.index)
    else
      match words[place.index - 1]? with
      | some ('-' :: c :: more) => some (c :: more, place.index + 1)
      | _ => none
  match current with
  | none => { place := { place with offset := none }, isOver := true }
  | some ([], next) => { place := ⟨next, none⟩, isOver := true }
  | some (letter :: rest, next) =>
      if letter = '-' && rest.isEmpty && next != place.index then
        { place := ⟨next, none⟩, isOver := true }
      else
        let size := ((words[next - 2]?).map List.length).getD 0
        let onwards : OptionPlace := ⟨next, some (size - rest.length)⟩
        let failed (shown : Char) (place : OptionPlace) (complaint : String) : OptionRead :=
          if isSilent then { letter := shown, value := some (some [letter]), place }
          else { value := some none, place, complaint }
        match afterLetter? letter letters with
        | none => failed '?' onwards ("Illegal option -" ++ letter.toString)
        | some (':' :: _) =>
            match rest, words[next - 1]? with
            | [], none => failed ':' ⟨next, none⟩ ("No arg for -" ++ letter.toString ++ " option")
            | [], some value => { letter, value := some (some value), place := ⟨next + 1, none⟩ }
            | rest, _ => { letter, value := some (some rest), place := ⟨next, none⟩ }
        | some _ => { letter, value := some (some []), place := onwards }

/-- Reads the next option of a script. -/
def getopts (arguments : List Octets) : Work Nat := do
  match arguments with
  | letters :: name :: given =>
      let state ← get
      let words := if given.isEmpty then state.arguments else given
      let place := if words.length + 1 < state.optionPlace.index then {} else state.optionPlace
      let read := readOption letters words place
      unless read.complaint.isEmpty do
        let _ ← Work.writeTo 2 (Octets.ofText read.complaint ++ ['\n'])
      match read.value with
      | some (some value) => Work.assign "OPTARG".toList value
      | some none => Work.putVariable "OPTARG".toList none
      | none => pure ()
      Work.assignAlone Work.optionIndexName (countOctets read.place.index)
      if isName name then Work.assign name [read.letter]
      else let _ ← Work.refuse (α := Unit) (name ++ ": bad variable name".toList)
      modify ({ · with optionPlace := read.place })
      pure (if read.isOver then 1 else 0)
  | _ => Work.refuse "Usage: getopts optstring var [arg...]".toList

end Console.Shell.Builtin
