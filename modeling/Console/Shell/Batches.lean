import Console.Shell.Utility

/-!
# Commands made of words

A program is run with words that are read from the input, as many at a time as are wanted:
`Batches.xargs` is the program that does so.  Words stand between blanks, quotes hold them together,
and a backslash takes the meaning from the character after it; or a character is chosen that ends
words, and nothing else has a meaning.
-/

namespace Console.Shell.Batches

/-- How words are read and put together. -/
structure Form where
  /-- The character that ends words, if one has been chosen. -/
  ending : Option Char := none
  mostWords : Option Nat := none
  mostLines : Option Nat := none
  /-- The length that a command may have, with one more character for each word. -/
  mostText : Nat := 131072
  /-- The text that stands for a line in a command. -/
  blank : Option Octets := none
  /-- The word that ends the input. -/
  last : Option Octets := none
  /-- Whether a program is run at all if there are no words. -/
  runsEmpty : Bool := true
  isShown : Bool := false
  file : Option Octets := none

/-! ## Words -/

/-- A word of the input, and whether a line ends behind it. -/
structure Item where
  word : Octets
  endsLine : Bool := false

/-- The words of a text, and the quote that is not closed if there is one.  `quote` is the one that
is open, `current` is what there is of a word, and `isByLines` says that lines are words.  A line
with a blank at its end goes on in the next one. -/
def itemsFrom (isByLines : Bool) (quote : Option Char) (current : Option Octets) :
    Octets → List Item × Option Char
  | [] => (current.toList.map ({ word := ·, endsLine := true }), quote)
  | c :: rest =>
      let now := current.getD []
      let goOn (quote : Option Char) (current : Option Octets) :=
        itemsFrom isByLines quote current rest
      let finish (endsLine : Bool) : List Item × Option Char :=
        let (others, fault) := goOn none none
        (current.toList.map ({ word := ·, endsLine }) ++ others, fault)
      match quote with
      | some mark =>
          if c = '\n' then ([], quote)
          else if c = mark then goOn none (some now)
          else goOn quote (some (now ++ [c]))
      | none =>
          match c, rest with
          | '\n', _ => finish true
          | '\\', [] => finish true
          | '\\', next :: rest => itemsFrom isByLines none (some (now ++ [next])) rest
          | '\'', _ | '"', _ => goOn (some c) (some now)
          | c, _ =>
              if c = ' ' || c = '\t' then
                if isByLines then goOn none (current.map (· ++ [c]))
                else finish false
              else goOn none (some (now ++ [c]))

/-- The words of an input, and the quote that is not closed if there is one. -/
def Form.items (form : Form) (input : Octets) : List Item × Option Char :=
  match form.ending with
  | some mark =>
      let parts := Octets.splitAt (· == mark) input
      let parts := if parts.getLast? = some [] then parts.dropLast else parts
      (parts.map ({ word := · }), none)
  | none =>
      let (items, fault) := itemsFrom form.blank.isSome none none input
      match form.last with
      | some last => (items.takeWhile (·.word != last), fault)
      | none => (items, fault)

/-! ## Commands -/

/-- A text with another one in place of all occurrences of a word; the number bounds them. -/
def withText (word text : Octets) : Nat → Octets → Octets
  | 0, rest => rest
  | _, [] => []
  | bound + 1, c :: rest =>
      if word.isPrefixOf (c :: rest) then
        text ++ withText word text bound ((c :: rest).drop word.length)
      else c :: withText word text bound rest

/-- Words that one command gets, the latest first, with how many there are, how many lines end among
them, and how long the command is. -/
structure Group where
  words : List Octets := []
  count : Nat := 0
  lines : Nat := 0
  size : Nat

/-- The group with one more word. -/
def Group.add (group : Group) (item : Item) : Group :=
  { words := item.word :: group.words
    count := group.count + 1
    lines := group.lines + if item.endsLine then 1 else 0
    size := group.size + item.word.length + 1 }

/-- Whether a group can take no more words, of which this is the next one. -/
def Form.isFull (form : Form) (group : Group) (item : Item) : Bool :=
  group.count != 0 &&
    (form.mostWords.any (· ≤ group.count) || form.mostLines.any (· ≤ group.lines) ||
      form.mostText < group.size + item.word.length + 1)

/-- Words in groups that are not too large, after one that is being filled; `front` is the length of
a command without words. -/
def Form.groups (form : Form) (front : Nat) : Group → List Item → List Group
  | group, [] => if group.count = 0 then [] else [group]
  | group, item :: rest =>
      if form.isFull group item then
        group :: form.groups front (Group.add { size := front } item) rest
      else form.groups front (group.add item) rest

/-- The commands that are made of words. -/
def Form.commands (form : Form) (command : List Octets) (items : List Item) : List (List Octets) :=
  let command := if command.isEmpty then ["echo".toList] else command
  match form.blank with
  | some word =>
      items.map fun item =>
        command.take 1 ++
          (command.drop 1).map fun argument => withText word item.word argument.length argument
  | none =>
      let front := total (command.map (·.length + 1))
      if items.isEmpty then if form.runsEmpty then [command] else []
      else
        (form.groups front { size := front } items).map fun group => command ++ group.words.reverse

/-! ## Options -/

/-- What is wrong with options. -/
inductive Fault where
  | option (fault : Utility.OptionFault)
  | notNumber (letter : Char) (text : Octets)
  | tooSmall (letter : Char) (text : Octets)
  | badEnding (text : Octets)
  deriving DecidableEq, Repr

/-- The wording of the fault. -/
def Fault.message : Fault → String
  | option fault => fault.message
  | notNumber letter text =>
      "invalid number \"" ++ Octets.toText text ++ "\" for -" ++ letter.toString ++ " option"
  | tooSmall letter text =>
      "value " ++ Octets.toText text ++ " for -" ++ letter.toString ++ " option should be >= 1"
  | badEnding text =>
      "Invalid input delimiter specification " ++ Octets.toText text ++
        ": the delimiter must be either a single character or an escape sequence starting with \\."

/-- The long names of options, with their letters. -/
def longNames : List (String × Char) :=
  [("null", '0'), ("arg-file", 'a'), ("delimiter", 'd'), ("eof", 'E'), ("replace", 'I'),
   ("max-lines", 'L'), ("max-args", 'n'), ("max-procs", 'P'), ("interactive", 'p'),
   ("no-run-if-empty", 'r'), ("max-chars", 's'), ("verbose", 't'), ("exit", 'x'),
   ("open-tty", 'o')]

/-- The options in front of a command, each with its value, and the command. -/
def optionsOf : List Octets → Except Fault (List (Char × Octets) × List Octets)
  | [] => .ok ([], [])
  | argument :: rest =>
      match argument with
      | ['-', '-'] => .ok ([], rest)
      | '-' :: '-' :: _ => .error (.option (.unknownName argument))
      | '-' :: letters => letterFrom letters rest
      | argument => .ok ([], argument :: rest)
where
  /-- The options that letters and the arguments after them say. -/
  letterFrom : Octets → List Octets → Except Fault (List (Char × Octets) × List Octets)
    | [], rest => optionsOf rest
    | letter :: more, rest =>
        let add (value : Octets) (found : Except Fault (List (Char × Octets) × List Octets)) :=
          found.map fun (given, rest) => ((letter, value) :: given, rest)
        if "0prtxo".toList.contains letter then add [] (letterFrom more rest)
        else if letter = 'i' then
          (optionsOf rest).map fun (given, rest) =>
            (('I', if more.isEmpty then ['\x7b', '\x7d'] else more) :: given, rest)
        else if letter = 'l' then
          (optionsOf rest).map fun (given, rest) =>
            (('L', if more.isEmpty then ['1'] else more) :: given, rest)
        else if letter = 'e' then
          (optionsOf rest).map fun (given, rest) =>
            (if more.isEmpty then given else ('E', more) :: given, rest)
        else if !"aEIdLnPs".toList.contains letter then .error (.option (.unknown letter))
        else if !more.isEmpty then add more (optionsOf rest)
        else
          match rest with
          | value :: rest => add value (optionsOf rest)
          | [] => .error (.option (.noValue letter))

/-- The form after an option. -/
def Form.after (form : Form) (letter : Char) (value : Octets) : Except Fault Form := do
  let number : Except Fault Nat :=
    match digitsOf 10 value with
    | (_, 0, _) => .error (.notNumber letter value)
    | (0, _, []) => .error (.tooSmall letter value)
    | (number, _, []) => .ok number
    | _ => .error (.notNumber letter value)
  match letter with
  | '0' => pure { form with ending := some '\x00' }
  | 'd' =>
      match value with
      | [c] => pure { form with ending := some c }
      | '\\' :: rest =>
          match escapeOf rest with
          | (c, []) => pure { form with ending := some c }
          | _ => .error (.badEnding value)
      | _ => .error (.badEnding value)
  | 'n' => pure { form with mostWords := some (← number), mostLines := none }
  | 'L' => pure { form with mostLines := some (← number), mostWords := none, blank := none }
  | 's' => pure { form with mostText := ← number }
  | 'I' => pure { form with blank := some value }
  | 'E' => pure { form with last := some value }
  | 'a' => pure { form with file := some value }
  | 'r' => pure { form with runsEmpty := false }
  | 't' => pure { form with isShown := true }
  | _ => pure form

/-- The form that options say. -/
def Form.ofOptions (given : List (Char × Octets)) : Except Fault Form :=
  given.foldlM (fun form (letter, value) => form.after letter value) {}

/-! ## Running -/

/-- How commands have ended so far. -/
structure Outcome where
  status : Nat := 0
  /-- Whether no more commands are run. -/
  isOver : Bool := false

/-- Runs a command, unless one before has ended everything. -/
def runNext (start : Octets → List Octets → Work Ending) (isShown : Bool) (outcome : Outcome)
    (command : List Octets) : Work Outcome := do
  match command with
  | [] => pure outcome
  | name :: rest =>
      if outcome.isOver then pure outcome
      else
        if isShown then
          let _ ← Work.writeTo 2 ([' '].intercalate command ++ ['\n'])
        let text := Octets.toText name
        let isMissing := (← Utility.search name).toOption.isNone
        match ← start name rest with
        | .status 0 => pure outcome
        | .status 255 => do
            let _ ← Utility.complain "xargs" (text ++ ": exited with status 255; aborting") 1
            pure ⟨124, true⟩
        | .status status =>
            pure (if isMissing then ⟨status, true⟩ else { outcome with status := 123 })
        | .signal number => do
            let _ ← Utility.complain "xargs" (text ++ ": terminated by signal " ++ natText number) 1
            pure ⟨125, true⟩

/-- Runs a program with words from the input; `start` runs a program. -/
def xargs (start : Octets → List Octets → Work Ending) : Utility := fun arguments => do
  let read : Except Fault (Form × List Octets) := do
    let (given, command) ← optionsOf (expanded arguments)
    pure (← Form.ofOptions given, command)
  match read with
  | .error (.badEnding text) => Utility.complain "xargs" (Fault.badEnding text).message 1
  | .error fault => Utility.complainOfUse "xargs" fault.message 1
  | .ok (form, command) => do
      let input : Except IoCause Octets ←
        match form.file with
        | some name => Utility.contentOf name
        | none => do pure (.ok (← Work.readAll 0))
      match input with
      | .error cause =>
          let name := Octets.toText (form.file.getD [])
          Utility.complain "xargs"
            ("Cannot open input file '" ++ name ++ "': " ++ causeText cause) 1
      | .ok input => do
          let (items, quote) := form.items input
          if let some quote := quote then
            let kind := if quote = '"' then "double" else "single"
            let _ ← Utility.complain "xargs" ("unmatched " ++ kind ++
              " quote; by default quotes are special to xargs unless you use the -0 option") 1
          let commands :=
            if quote.isSome && items.isEmpty then [] else form.commands command items
          let outcome ← commands.foldlM (runNext start form.isShown) {}
          pure (if quote.isSome then 1 else outcome.status)
where
  /-- Arguments with the long options in front as short ones. -/
  expanded (arguments : List Octets) : List Octets :=
    let front := arguments.takeWhile fun argument => argument.head? = some '-'
    Utility.withShortNames longNames front ++ arguments.drop front.length

end Console.Shell.Batches
