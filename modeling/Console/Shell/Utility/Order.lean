import Console.Shell.Utility.Texts

/-!
# Lines in order

Sorting lines, by the whole line or by parts of it, and taking together those that are alike.
-/

namespace Console.Shell.Utility

/-- How two texts are compared. -/
structure Collation where
  isNumeric : Bool := false
  ignoresCase : Bool := false
  isReversed : Bool := false
  skipsBlanks : Bool := false
  deriving DecidableEq, Repr

namespace Collation

/-- The collation with what a letter says; none if the letter says nothing. -/
def add? (collation : Collation) : Char → Option Collation
  | 'n' => some { collation with isNumeric := true }
  | 'f' => some { collation with ignoresCase := true }
  | 'r' => some { collation with isReversed := true }
  | 'b' => some { collation with skipsBlanks := true }
  | _ => none

/-- How many decimal places are looked at. -/
def places : Nat := 30

/-- The number that a text begins with, counted in the smallest decimal places. -/
def leadingNumber (text : Octets) : Int :=
  let text := text.dropWhile isNumberBlank
  let isNegative := text.head? = some '-'
  let (whole, _, rest) := digitsOf 10 (if isNegative then text.drop 1 else text)
  let fraction := match rest with | '.' :: rest => rest.takeWhile Char.isDigit | _ => []
  let digits := (fraction ++ List.replicate places '0').take places
  let value := whole * Nat.pow 10 places + (digitsOf 10 digits).1
  if isNegative then -(value : Int) else value

/-- Compares two texts byte by byte. -/
def bytewise (left right : Octets) : Ordering :=
  if left == right then .eq else if Octets.isBefore left right then .lt else .gt

/-- Compares two texts. -/
def compare (collation : Collation) (left right : Octets) : Ordering :=
  let compared : Ordering :=
    if collation.isNumeric then Ord.compare (leadingNumber left) (leadingNumber right)
    else if collation.ignoresCase then bytewise (left.map Char.toUpper) (right.map Char.toUpper)
    else bytewise left right
  if collation.isReversed then compared.swap else compared

end Collation

/-- A part of lines that is compared: from a character in a field up to another one. -/
structure SortKey where
  field : Nat := 1
  char : Nat := 1
  /-- The last field; none for the end of the line. -/
  lastField : Option Nat := none
  /-- The last character in the last field; zero for its end. -/
  lastChar : Nat := 0
  collation : Collation := {}
  deriving DecidableEq, Repr

namespace SortKey

/-- A text without its first field, and without the separator after it if that is wanted. -/
def afterField (separator : Option Char) (takesSeparator : Bool) (text : Octets) : Octets :=
  match separator with
  | some c =>
      let rest := text.dropWhile (· != c)
      if takesSeparator then rest.drop 1 else rest
  | none => (text.dropWhile isNumberBlank).dropWhile (!isNumberBlank ·)

/-- A text without so many fields. -/
def afterFields (separator : Option Char) (takesLast : Bool) : Nat → Octets → Octets
  | 0, text => text
  | count + 1, text =>
      afterFields separator takesLast count
        (afterField separator (takesLast || 0 < count) text)

/-- The part of a line that is compared. -/
def part (key : SortKey) (separator : Option Char) (line : Octets) : Octets :=
  let skipped (text : Octets) : Octets :=
    if key.collation.skipsBlanks then text.dropWhile isNumberBlank else text
  let start := (skipped (afterFields separator true (key.field - 1) line)).drop (key.char - 1)
  let rest :=
    match key.lastField with
    | none => []
    | some last =>
        if key.lastChar = 0 then afterFields separator false last line
        else (skipped (afterFields separator true (last - 1) line)).drop key.lastChar
  start.take (start.length - rest.length)

/-- A field, a character in it if there is one, letters, and what follows. -/
def place? (collation : Collation) (text : Octets) :
    Option ((Nat × Option Nat × Collation) × Octets) := do
  let (field, count, rest) := digitsOf 10 text
  if count = 0 || field = 0 then none
  let (char, rest) :=
    match rest with
    | '.' :: rest =>
        let (char, _, rest) := digitsOf 10 rest
        (some char, rest)
    | rest => (none, rest)
  let letters := rest.takeWhile Char.isAlpha
  let collation ← letters.foldlM Collation.add? collation
  some ((field, char, collation), rest.drop letters.length)

/-- The key that a text says; one that says nothing of how to compare has the given collation. -/
def read? (general : Collation) (text : Octets) : Option SortKey := do
  let ((field, char, collation), rest) ← place? {} text
  let own (collation : Collation) : Collation := if collation = {} then general else collation
  match rest with
  | [] => some { field, char := char.getD 1, collation := own collation }
  | ',' :: rest =>
      let ((last, lastChar, collation), rest) ← place? collation rest
      if !rest.isEmpty then none
      some
        { field, char := char.getD 1, lastField := some last, lastChar := lastChar.getD 0
          collation := own collation }
  | _ => none

end SortKey

/-- Compares two lines by keys, one after the other. -/
def compareBy (separator : Option Char) (keys : List SortKey) (left right : Octets) : Ordering :=
  keys.foldl
    (fun compared key =>
      compared.then (key.collation.compare (key.part separator left) (key.part separator right)))
    .eq

/-- Lines without those that are like the one before. -/
def distinct (isLike : Octets → Octets → Bool) : List Octets → List Octets
  | [] => []
  | [line] => [line]
  | first :: second :: rest =>
      if isLike first second then distinct isLike (first :: rest)
      else first :: distinct isLike (second :: rest)
termination_by lines => lines.length

/-- The first line that does not come after the one before, with its number. -/
def disorder? (isOrdered : Octets → Octets → Bool) : Nat → List Octets → Option (Nat × Octets)
  | number, first :: second :: rest =>
      if isOrdered first second then disorder? isOrdered (number + 1) (second :: rest)
      else some (number + 1, second)
  | _, _ => none

/-- Sorts lines. -/
def sort : Utility :=
  withOptions "sort" [('r', false), ('n', false), ('u', false), ('f', false), ('b', false),
      ('s', false), ('c', false), ('o', true), ('k', true), ('t', true)] 2 fun given names => do
    let general :=
      given.foldl (fun collation (letter, _) => (collation.add? letter).getD collation) {}
    let separator := (given.lookup 't').bind List.head?
    match (valuesOf given 'k').mapM (SortKey.read? general) with
    | none => complain "sort" "invalid field specification" 2
    | some keys => do
        let (texts, isWhole) ← textsOf "sort" names
        if !isWhole then return 2
        let lines := texts.flatMap fun (_, text) => wholeLines text
        let keys := if keys.isEmpty then [{ collation := general }] else keys
        let byKeys := compareBy separator keys
        let isStable := has given 's' || has given 'u'
        let byAll (left right : Octets) : Ordering :=
          let last := Collation.bytewise left right
          (byKeys left right).then
            (if isStable then .eq else if general.isReversed then last.swap else last)
        if has given 'c' then
          let isOrdered (left right : Octets) : Bool :=
            byAll left right == .lt || (byAll left right == .eq && !has given 'u')
          match disorder? isOrdered 1 lines with
          | none => pure 0
          | some (number, line) =>
              let name := names.head?.getD ['-']
              complain "sort" (Octets.toText (name ++ ':' :: countOctets number ++
                ": disorder: ".toList ++ line)) 1
        else
          let sorted := lines.mergeSort fun left right => byAll left right != .gt
          let isLike (left right : Octets) : Bool := byKeys left right == .eq
          let text := ofLines (if has given 'u' then distinct isLike sorted else sorted)
          match given.lookup 'o' with
          | none => say text
          | some name => let _ ← overwrite "sort" name text
          pure 0

/-- Lines that follow one another and are alike, as the first one with their number. -/
def runsOf (isLike : Octets → Octets → Bool) : List Octets → List (Nat × Octets)
  | [] => []
  | line :: rest =>
      match runsOf isLike rest with
      | [] => [(1, line)]
      | (count, next) :: more =>
          if isLike line next then (count + 1, line) :: more else (1, line) :: (count, next) :: more

/-- Shows lines that follow one another and are alike only once. -/
def uniq : Utility :=
  withOptions "uniq" [('c', false), ('d', false), ('u', false), ('i', false), ('f', true),
      ('s', true), ('w', true)] 1 fun given names => do
    let (texts, isWhole) ← textsOf "uniq" (names.take 1)
    let number (letter : Char) : Option Nat := (given.lookup letter).bind count?
    let compared (line : Octets) : Octets :=
      let line := (SortKey.afterFields none true ((number 'f').getD 0) line).drop
        ((number 's').getD 0)
      let line := match number 'w' with | some width => line.take width | none => line
      if has given 'i' then line.map Char.toUpper else line
    let runs := runsOf (fun left right => compared left == compared right)
      (wholeLines (texts.flatMap (·.2)))
    let chosen := runs.filter fun (count, _) =>
      (!has given 'd' || 1 < count) && (!has given 'u' || count = 1)
    let text := ofLines (chosen.map fun (count, line) =>
      if has given 'c' then (natColumn 7 count).toList ++ ' ' :: line else line)
    match names[1]? with
    | none => say text
    | some name => let _ ← overwrite "uniq" name text
    pure (if isWhole then 0 else 1)

end Console.Shell.Utility
