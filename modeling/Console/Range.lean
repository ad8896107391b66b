import Console.Text.Blank
import Console.Text.Decimal

/-!
# Line ranges

A selection of lines as it is typed: `N`, `N..M` with its end, `N...M` without it, or `N..`
through the last line.  A negative number counts from the end of the text, so `-1` is the last
line whatever the first line's number is.

Positions are words of 64 bits.  A sum that would leave their range stays at the end of the range;
for a text of fewer than `Int64.maxValue` lines this changes no selection.
-/

namespace Console

/-- The number of the first line. -/
inductive IndexBase where
  | zero
  | one
  deriving DecidableEq, Repr

namespace IndexBase

/-- Numbering from one, or else from zero. -/
def ofBaseOne (baseOne : Bool) : IndexBase := if baseOne then one else zero

/-- The number of the first line. -/
def first : IndexBase → Nat
  | zero => 0
  | one => 1

@[simp] theorem first_zero : first zero = 0 := rfl

@[simp] theorem first_one : first one = 1 := rfl

end IndexBase

/-- The sum of two words, or the end of their range that it would pass. -/
def saturatingAdd (a b : Int64) : Int64 :=
  .ofInt (max Int64.minValue.toInt (min Int64.maxValue.toInt (a.toInt + b.toInt)))

/-- The sum is exact, and then cut to the range of words. -/
theorem toInt_saturatingAdd (a b : Int64) :
    (saturatingAdd a b).toInt =
      max Int64.minValue.toInt (min Int64.maxValue.toInt (a.toInt + b.toInt)) := by
  apply Int64.toInt_ofInt_of_le
  · exact Int.le_max_left ..
  · have within : Int64.minValue.toInt ≤ Int64.maxValue.toInt := by decide
    exact Int.lt_add_one_of_le (Int.max_le.mpr ⟨within, Int.min_le_left ..⟩)

/-- A length as a word, at most the largest word. -/
def wordLength (length : Nat) : Int64 := .ofNat (min length Text.largestInteger)

/-- A run of lines `first, …, last - 1`, which is not empty. -/
structure Span where
  first : Nat
  last : Nat
  deriving DecidableEq, Repr

namespace Span

/-- The number of lines in the span. -/
def length (span : Span) : Nat := span.last - span.first

/-- The members of a list at the positions of the span. -/
def of (span : Span) {α : Type} (items : List α) : List α :=
  (items.drop span.first).take span.length

end Span

/-- A selection of lines as it is typed.  Without an end it is the line `start` alone. -/
structure LineRange where
  start : Int64
  stop : Option Int64 := none
  exclusive : Bool := false
  deriving DecidableEq, Repr

namespace LineRange

/-- The single line with a number. -/
def single (index : Int64) : LineRange := ⟨index, none, false⟩

/-- The lines from one number through another. -/
def inclusive (start stop : Int64) : LineRange := ⟨start, some stop, false⟩

/-- The last line. -/
def last : LineRange := single (-1)

/-- The position, counted from zero, of the line with a number. -/
def position (index : Int64) (length : Nat) (base : IndexBase) : Int64 :=
  if index < 0 then saturatingAdd (wordLength length) index
  else index - .ofNat base.first

/-- The position after the last selected line, for a selection that starts at `start`. -/
def stopPosition (range : LineRange) (start : Int64) (length : Nat) (base : IndexBase) : Int64 :=
  match range.stop with
  | none => start + 1
  | some stop =>
      let found := position stop length base
      if range.exclusive then found else saturatingAdd found 1

/-- The positions a range stands for; `none` if its start is not a line of the text. -/
def bounds (range : LineRange) (length : Nat) (base : IndexBase) : Option (Int64 × Int64) :=
  let start := position range.start length base
  if start < 0 || wordLength length ≤ start then none
  else some (start, range.stopPosition start length base)

/-- The lines a range selects of a text; `none` unless all of them are there. -/
def resolve (range : LineRange) (length : Nat) (base : IndexBase) : Option Span :=
  match range.bounds length base with
  | none => none
  | some (start, stop) =>
      if stop ≤ start || wordLength length < stop then none
      else some ⟨start.toInt.toNat, stop.toInt.toNat⟩

/-- The lines a range selects of a text, its end cut to the last line; `none` if there is no
such line. -/
def clamp (range : LineRange) (length : Nat) (base : IndexBase) : Option Span :=
  match range.bounds length base with
  | none => none
  | some (start, stop) =>
      let stop := if wordLength length < stop then wordLength length else stop
      if stop ≤ start then none else some ⟨start.toInt.toNat, stop.toInt.toNat⟩

/-- A text cut at its first `..`. -/
def splitDots : List Char → Option (List Char × List Char)
  | '.' :: '.' :: rest => some ([], rest)
  | c :: rest => (splitDots rest).map fun (before, after) => (c :: before, after)
  | [] => none

/-- Reads the number of a line, with blank characters around it. -/
def readBound? (text : List Char) : Option Int64 :=
  (Text.readInteger (Text.trim text)).toOption

/-- Reads a range; a third dot leaves the last line out, and an open end is the last line. -/
def parse? (text : List Char) : Option LineRange :=
  let text := Text.trim text
  match splitDots text with
  | none => (readBound? text).map single
  | some (start, rest) =>
      let (exclusive, stop) :=
        match rest with
        | '.' :: rest => (true, rest)
        | _ => (false, rest)
      (readBound? start).bind fun start =>
        if Text.allBlank stop then some (inclusive start (-1))
        else (readBound? stop).map fun stop => ⟨start, some stop, exclusive⟩

/-- Reads a range from a text. -/
def ofText? (text : String) : Option LineRange := parse? text.toList

/-- The characters of a range. -/
def render (range : LineRange) : List Char :=
  match range.stop with
  | none => Text.intDigits range.start.toInt
  | some stop =>
      Text.intDigits range.start.toInt ++ (if range.exclusive then "...".toList else "..".toList) ++
        Text.intDigits stop.toInt

/-- The text of a range. -/
def text (range : LineRange) : String := .ofList range.render

end LineRange

end Console
