import Console.Text.Decimal
import Console.Text.Lines

/-!
# Faults in patterns

What is wrong with a pattern, and where.  A fault is shown below the line of the pattern that it
concerns; a pattern of several lines is shown with their numbers.
-/

namespace Console

/-- What is wrong with a pattern. -/
inductive PatternFault where
  | classEscape
  | classRange
  | classRangeLiteral
  | classUnclosed
  | decimalInvalid
  | hexEmpty
  | hexInvalid
  | hexDigit
  | escapeEnd
  | escapeUnknown
  | flagDangling
  | flagDuplicate
  | flagNegationRepeated
  | flagEnd
  | flagUnknown
  | groupName
  | groupNameDuplicate
  | groupNameEmpty
  | groupNameEnd
  | groupUnclosed
  | groupUnopened
  | nesting (limit : Nat)
  | countRange
  | countMissing
  | countUnclosed
  | nothingToRepeat
  | wordLookUnclosed
  | wordLookUnknown
  | wordLookOrCountEnd
  | propertyName
  | propertyUnknown
  | propertyValueUnknown
  | backreference
  | lookAround
  | unicodeNotAllowed
  | brokenCharacters
  deriving DecidableEq, Repr

namespace PatternFault

/-- The wording of the fault. -/
def message : PatternFault → String
  | classEscape => "invalid escape sequence found in character class"
  | classRange => "invalid character class range, the start must be <= the end"
  | classRangeLiteral => "invalid range boundary, must be a literal"
  | classUnclosed => "unclosed character class"
  | decimalInvalid => "decimal literal invalid"
  | hexEmpty => "hexadecimal literal empty"
  | hexInvalid => "hexadecimal literal is not a Unicode scalar value"
  | hexDigit => "invalid hexadecimal digit"
  | escapeEnd => "incomplete escape sequence, reached end of pattern prematurely"
  | escapeUnknown => "unrecognized escape sequence"
  | flagDangling => "dangling flag negation operator"
  | flagDuplicate => "duplicate flag"
  | flagNegationRepeated => "flag negation operator repeated"
  | flagEnd => "expected flag but got end of regex"
  | flagUnknown => "unrecognized flag"
  | groupName => "invalid capture group character"
  | groupNameDuplicate => "duplicate capture group name"
  | groupNameEmpty => "empty capture group name"
  | groupNameEnd => "unclosed capture group name"
  | groupUnclosed => "unclosed group"
  | groupUnopened => "unopened group"
  | nesting limit =>
      "exceed the maximum number of nested parentheses/brackets (" ++ natText limit ++ ")"
  | countRange => "invalid repetition count range, the start must be <= the end"
  | countMissing => "repetition quantifier expects a valid decimal"
  | countUnclosed => "unclosed counted repetition"
  | nothingToRepeat => "repetition operator missing expression"
  | wordLookUnclosed =>
      "special word boundary assertion is either unclosed or contains an invalid character"
  | wordLookUnknown =>
      "unrecognized special word boundary assertion, valid choices are: start, end, start-half " ++
        "or end-half"
  | wordLookOrCountEnd =>
      "found either the beginning of a special word boundary or a bounded repetition on a \\b " ++
        "with an opening brace, but no closing brace"
  | propertyName => "invalid Unicode character class"
  | propertyUnknown => "Unicode property not found"
  | propertyValueUnknown => "Unicode property value not found"
  | backreference => "backreferences are not supported"
  | lookAround => "look-around, including look-ahead and look-behind, is not supported"
  | unicodeNotAllowed => "Unicode not allowed here"
  | brokenCharacters => "pattern can match invalid UTF-8"

end PatternFault

/-- A place in a pattern: the number of characters before it, and its line and its column counted
from one. -/
structure PatternPlace where
  offset : Nat := 0
  line : Nat := 1
  column : Nat := 1
  deriving DecidableEq, Repr

/-- The place after a character. -/
def PatternPlace.after (place : PatternPlace) (c : Char) : PatternPlace :=
  if c = '\n' then ⟨place.offset + 1, place.line + 1, 1⟩
  else ⟨place.offset + 1, place.line, place.column + 1⟩

/-- A stretch of a pattern between two places. -/
structure Stretch where
  start : PatternPlace
  stop : PatternPlace
  deriving DecidableEq, Repr

namespace Stretch

/-- Whether a stretch does not go beyond its line. -/
def isOneLine (stretch : Stretch) : Bool := stretch.start.line == stretch.stop.line

/-- The number of marks below a stretch; an empty one has a mark too. -/
def width (stretch : Stretch) : Nat := max 1 (stretch.stop.column - stretch.start.column)

/-- Orders stretches by where they start, then by where they end. -/
def before (left right : Stretch) : Bool :=
  left.start.offset < right.start.offset ||
    (left.start.offset == right.start.offset && left.stop.offset ≤ right.stop.offset)

/-- From where one stretch starts to where another one ends. -/
def through (first last : Stretch) : Stretch := ⟨first.start, last.stop⟩

end Stretch

/-- A fault, the stretch of the pattern that it concerns, and an earlier stretch that it is in
conflict with. -/
structure PatternMistake where
  fault : PatternFault
  stretch : Stretch
  earlier : Option Stretch := none
  deriving DecidableEq, Repr

namespace PatternMistake

/-- All stretches to show, in their order in the pattern. -/
def stretches (mistake : PatternMistake) : List Stretch :=
  (mistake.stretch :: mistake.earlier.toList).mergeSort Stretch.before

/-- The marks for stretches of one line; `column` is the number of columns already filled. -/
def marks : Nat → List Stretch → List Char
  | _, [] => []
  | column, stretch :: rest =>
      let start := max column (stretch.start.column - 1)
      List.replicate (start - column) ' ' ++ List.replicate stretch.width '^' ++
        marks (start + stretch.width) rest

/-- The lines of a pattern under their margins, each followed by the marks of its stretches. -/
def markedLines (margin : Nat → List Char) (stretches : List Stretch) :
    Nat → List (List Char) → List (List Char)
  | _, [] => []
  | number, line :: rest =>
      let here := stretches.filter fun stretch => stretch.isOneLine && stretch.start.line == number
      let shown := margin number ++ line
      let below := if here.isEmpty then []
        else [List.replicate (margin number).length ' ' ++ marks 0 here]
      shown :: below ++ markedLines margin stretches (number + 1) rest

/-- Where a stretch of several lines starts and ends. -/
def extent (stretch : Stretch) : String :=
  "on line " ++ natText stretch.start.line ++ " (column " ++ natText stretch.start.column ++
    ") through line " ++ natText stretch.stop.line ++ " (column " ++
    natText (stretch.stop.column - 1) ++ ")"

/-- The number of a line in a margin that is wide enough for all of them. -/
def numberMargin (width number : Nat) : List Char :=
  let digits := Text.natDigits number
  List.replicate (width - digits.length) ' ' ++ digits ++ [':', ' ']

/-- The rule above and below a pattern of several lines. -/
def ruler : List Char := List.replicate 79 '~'

/-- The pattern with its marks, and the wording of the fault. -/
def message (mistake : PatternMistake) (source : String) : String :=
  let lines := Text.lines source.toList
  let shown :=
    if source.toList.contains '\n' then
      let last := lines.length + if source.toList.getLast? == some '\n' then 1 else 0
      let width := if last ≤ 1 then 0 else (Text.natDigits last).length
      let long := mistake.stretches.filter fun stretch => !stretch.isOneLine
      ruler :: markedLines (numberMargin width) mistake.stretches 1 lines ++
        ruler :: long.map fun stretch => (extent stretch).toList
    else markedLines (fun _ => List.replicate 4 ' ') mistake.stretches 1 lines
  "regex parse error:\n" ++
    .ofList (shown.flatMap (· ++ ['\n'])) ++ "error: " ++ mistake.fault.message

end PatternMistake

end Console
