import Console.Shell.Utility.Texts

/-!
# Parts of lines side by side

Choosing fields and characters of lines, putting lines beside one another, numbering them, and
breaking those that are too long.
-/

namespace Console.Shell.Utility

/-- What is wrong with a list of ranges; `isField` says that fields are numbered. -/
inductive RangeFault where
  | zero
  | decreasing
  | noEnds
  | twoDashes
  | noNumber (text : Octets)
  | tooLarge (text : Octets)
  deriving DecidableEq, Repr

/-- The wording of the fault. -/
def RangeFault.message (isField : Bool) (fault : RangeFault) : String :=
  let kind (field character : String) : String := if isField then field else character
  match fault with
  | zero =>
      kind "fields are numbered from 1" "byte/character positions are numbered from 1"
  | decreasing => "invalid decreasing range"
  | noEnds => "invalid range with no endpoint: -"
  | twoDashes => kind "invalid field range" "invalid byte or character range"
  | noNumber text =>
      kind "invalid field value" "invalid byte/character position" ++ " '" ++
        Octets.toText text ++ "'"
  | tooLarge text =>
      kind "field number" "byte/character offset" ++ " '" ++ Octets.toText text ++ "' is too large"

/-- An end of a range: none if it is not given. -/
def rangeEnd (text : Octets) : Except RangeFault (Option Nat) :=
  if text.isEmpty then .ok none
  else
    let (value, _, rest) := digitsOf 10 text
    if !rest.isEmpty then .error (.noNumber rest)
    else if 0x7FFFFFFFFFFFFFFF < value then .error (.tooLarge text)
    else if value = 0 then .error .zero
    else .ok (some value)

/-- The range that a text means. -/
def range (text : Octets) : Except RangeFault (Nat × Option Nat) :=
  match Octets.splitAt (· == '-') text with
  | [only] => do
      match ← rangeEnd only with
      | some number => .ok (number, some number)
      | none => .error .zero
  | [low, high] => do
      match ← rangeEnd low, ← rangeEnd high with
      | none, none => .error .noEnds
      | none, some high => .ok (1, some high)
      | some low, none => .ok (low, none)
      | some low, some high => if low ≤ high then .ok (low, some high) else .error .decreasing
  | _ => .error .twoDashes

/-- The ranges of numbers in a list of them. -/
def ranges (list : Octets) : Except RangeFault (List (Nat × Option Nat)) :=
  (Octets.splitAt (fun c => c = ',' || c = ' ' || c = '\t') list).mapM range

/-- The items whose numbers are chosen, in stretches that begin where a range does or where
something has been left out. -/
def stretches {α : Type} (isChosen isStart : Nat → Bool) : (index : Nat) → List α → List (List α)
  | _, [] => []
  | index, item :: rest =>
      let others := stretches isChosen isStart (index + 1) rest
      if !isChosen index then others
      else
        match others with
        | next :: others =>
            if isChosen (index + 1) && !isStart (index + 1) then (item :: next) :: others
            else [item] :: next :: others
        | [] => [[item]]

/-- A line with the characters or the fields that are chosen; none if it is left out. -/
def cutLine (given : List (Char × Octets)) (ranges : List (Nat × Option Nat)) (line : Octets) :
    Option Octets :=
  let isInside (index : Nat) : Bool :=
    ranges.any fun (low, high) => low ≤ index && high.all (index ≤ ·)
  let isChosen (index : Nat) : Bool := isInside index != has given 'C'
  let isStart (index : Nat) : Bool :=
    !has given 'C' && ranges.any fun (low, _) =>
      low = index && !ranges.any fun (other, high) => other < index && high.all (index ≤ ·)
  let output := given.lookup 'D'
  match given.lookup 'f' with
  | none => some ((output.getD []).intercalate (stretches isChosen isStart 1 line))
  | some _ =>
      let separator := ((given.lookup 'd').getD ['\t']).head?.getD '\x00'
      if line.contains separator then
        let fields := Octets.splitAt (· == separator) line
        let chosen := (fields.zipIdx.filter fun (_, index) => isChosen (index + 1)).map (·.1)
        some ((output.getD [separator]).intercalate chosen)
      else if has given 's' then none
      else some line

/-- The lines of a text with what is chosen of each; lines may be the fields of the text. -/
def cutText (given : List (Char × Octets)) (ranges : List (Nat × Option Nat)) (text : Octets) :
    Octets :=
  if has given 'f' && given.lookup 'd' == some ['\n'] then
    let chosen := (wholeLines text).zipIdx.filter fun (_, index) =>
      (ranges.any fun (low, high) => low ≤ index + 1 && high.all (index + 1 ≤ ·)) != has given 'C'
    let separator := (given.lookup 'D').getD ['\n']
    if chosen.isEmpty then [] else separator.intercalate (chosen.map (·.1)) ++ ['\n']
  else ofLines ((wholeLines text).filterMap (cutLine given ranges))

/-- Shows fields or characters of lines. -/
def cut : Utility :=
  withOptions "cut"
    [('d', true), ('f', true), ('c', true), ('b', true), ('s', false), ('n', false), ('C', false),
     ('D', true)] 1
    fun given names => do
      match given.filter fun (letter, _) => letter = 'f' || letter = 'c' || letter = 'b' with
      | [] => complainOfUse "cut" "you must specify a list of bytes, characters, or fields" 1
      | _ :: _ :: _ => complainOfUse "cut" "only one list may be specified" 1
      | [(letter, list)] =>
          let isField := letter == 'f'
          if (given.lookup 'd').any (1 < ·.length) then
            complainOfUse "cut" "the delimiter must be a single character" 1
          else if !isField && has given 'd' then
            complainOfUse "cut"
              "an input delimiter may be specified only when operating on fields" 1
          else if !isField && has given 's' then
            complainOfUse "cut"
              ("suppressing non-delimited lines makes sense\n\tonly when operating on fields") 1
          else
            match ranges list with
            | .error fault => complainOfUse "cut" (fault.message isField) 1
            | .ok ranges => filter "cut" (cutText given ranges) names

/-- The separators that a list of characters names, one for each place. -/
def separatorsOf : Octets → List Octets
  | [] => []
  | '\\' :: c :: rest =>
      (match c with
        | 'n' => ['\n']
        | 't' => ['\t']
        | '0' => []
        | c => [c]) :: separatorsOf rest
  | c :: rest => [c] :: separatorsOf rest

/-- Texts one after another with separators between them, which are used in turn. -/
def spliced (separators : List Octets) (texts : List Octets) : Octets :=
  (texts.zipIdx.map fun (text, index) =>
    if index = 0 then text
    else (separators[(index - 1) % separators.length]?).getD [] ++ text).flatten

/-- The rows of columns that may have different lengths. -/
def rowsOf (columns : List (List Octets)) : List (List Octets) :=
  let height := (columns.map List.length).foldl max 0
  (List.range height).map fun index => columns.map fun column => column[index]?.getD []

/-- Puts the lines of files side by side, or those of each file. -/
def paste : Utility :=
  withOptions "paste" [('d', true), ('s', false)] 1 fun given names => do
    let separators := separatorsOf ((given.lookup 'd').getD ['\t'])
    let separators := if separators.isEmpty then [[]] else separators
    let names := if names.isEmpty then [['-']] else names
    let shares := (names.filter (· == ['-'])).length
    let (texts, isWhole) ← textsOf "paste" names.eraseDups
    if !isWhole then return 1
    let linesOf (name : Octets) : List Octets := wholeLines ((texts.lookup name).getD [])
    if has given 's' then
      say (ofLines (names.map fun name => spliced separators (linesOf name)))
    else
      let columns := names.zipIdx.map fun (name, index) =>
        if name = ['-'] then
          let own := ((names.take index).filter (· == ['-'])).length
          ((linesOf name).zipIdx.filter fun (_, index) => index % shares = own).map (·.1)
        else linesOf name
      say (ofLines ((rowsOf columns).map (spliced separators)))
    pure 0

/-- Numbers lines. -/
def nl : Utility :=
  withOptions "nl" [('b', true), ('w', true), ('s', true), ('v', true)] 1 fun given names => do
    let width := ((given.lookup 'w').bind count?).getD 6
    let separator := (given.lookup 's').getD ['\t']
    let first := ((given.lookup 'v').bind count?).getD 1
    let numbersAll := given.lookup 'b' == some ['a']
    let (texts, isWhole) ← textsOf "nl" names
    let mut number := first
    for line in wholeLines (texts.flatMap (·.2)) do
      if given.lookup 'b' != some ['n'] && (numbersAll || !line.isEmpty) then
        say ((natColumn width number).toList ++ separator ++ line ++ ['\n'])
        number := number + 1
      else say (List.replicate (width + separator.length) ' ' ++ line ++ ['\n'])
    pure (if isWhole then 0 else 1)

/-- A line in parts of at most so many characters, each but the last with a line end; where that is
wanted, and can be done, parts end after blanks.  The first number bounds the parts. -/
def folded (atBlanks : Bool) (width : Nat) : Nat → Octets → Octets
  | 0, line => line
  | bound + 1, line =>
      if line.length ≤ width then line
      else
        let part := line.take width
        let blank := (part.reverse.dropWhile (· != ' ')).reverse
        let part := if atBlanks && !blank.isEmpty then blank else part
        part ++ '\n' :: folded atBlanks width bound (line.drop part.length)

/-- Breaks lines that are too long. -/
def fold : Utility :=
  withOptions "fold" [('w', true), ('s', false), ('b', false)] 1 fun given names =>
    let width := max 1 (((given.lookup 'w').bind count?).getD 80)
    filter "fold" (fun text =>
      (Octets.lines text).flatMap fun line =>
        let body := line.takeWhile (· != '\n')
        folded (has given 's') width body.length body ++ line.drop body.length) names

end Console.Shell.Utility
