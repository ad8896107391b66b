import Console.Text.Hexadecimal

/-!
# Ranges of characters

A set of characters written as a list of code point ranges.  The properties of
characters that the console needs are tables of this form, one module each.
-/

namespace Console.Text

/-- Inclusive ranges of code points, disjoint and in ascending order. -/
abbrev Ranges := List (Nat × Nat)

namespace Ranges

/-- Whether `code` lies in one of the ranges.  The search ends at the first range above it. -/
def contains : Ranges → Nat → Bool
  | [], _ => false
  | (first, last) :: rest, code =>
      if code < first then false else code ≤ last || contains rest code

/-- Whether a character lies in one of the ranges. -/
def has (ranges : Ranges) (c : Char) : Bool := ranges.contains c.toNat

/-- The set of one character. -/
def single (c : Char) : Ranges := [(c.toNat, c.toNat)]

/-- The set of the characters between two, both included. -/
def between (first last : Char) : Ranges := [(first.toNat, last.toNat)]

/-- A range followed by ranges in ascending order of their starts, with those joined that overlap
or touch. -/
def joinFrom (first last : Nat) : Ranges → Ranges
  | [] => [(first, last)]
  | (start, stop) :: rest =>
      if start ≤ last + 1 then joinFrom first (max last stop) rest
      else (first, last) :: joinFrom start stop rest

/-- Ranges in ascending order of their starts, with those joined that overlap or touch. -/
def joined : Ranges → Ranges
  | [] => []
  | (first, last) :: rest => joinFrom first last rest

/-- Orders ranges by where they start. -/
def startsFirst (left right : Nat × Nat) : Bool := left.1 ≤ right.1

/-- The set of the characters in any of the given ranges, which may come in any order. -/
def ofList (ranges : List (Nat × Nat)) : Ranges := joined (ranges.mergeSort startsFirst)

/-- A range among others in ascending order of their starts; `rest` goes on with those behind it. -/
def place (range : Nat × Nat) (rest : Ranges → Ranges) : Ranges → Ranges
  | [] => range :: rest []
  | other :: others =>
      if startsFirst range other then range :: rest (other :: others)
      else other :: place range rest others

/-- The ranges of two sets in ascending order of their starts. -/
def interleave : Ranges → Ranges → Ranges
  | [], right => right
  | range :: left, right => place range (interleave left) right

/-- The characters in either of two sets. -/
def union (left right : Ranges) : Ranges := joined (interleave left right)

/-- The code points from `start` on that are in none of the ranges. -/
def gaps (start : Nat) : Ranges → Ranges
  | [] => if start ≤ 0x10FFFF then [(start, 0x10FFFF)] else []
  | (first, last) :: rest =>
      if start < first then (start, first - 1) :: gaps (last + 1) rest else gaps (last + 1) rest

/-- The code points that are no characters. -/
def surrogates : Ranges := [(0xD800, 0xDFFF)]

/-- The characters that are not in a set. -/
def complement (ranges : Ranges) : Ranges := gaps 0 (union ranges surrogates)

/-- The characters in both of two sets. -/
def inter (left right : Ranges) : Ranges := complement (union (complement left) (complement right))

/-- The characters in the first of two sets and not in the second. -/
def diff (left right : Ranges) : Ranges := inter left (complement right)

/-- The characters in exactly one of two sets. -/
def symmetricDiff (left right : Ranges) : Ranges := union (diff left right) (diff right left)

/-- Whether all characters of a set are ASCII characters. -/
def isAscii (ranges : Ranges) : Bool := ranges.all fun (_, last) => last < 0x80

/-- The only character of a set. -/
def single? : Ranges → Option Char
  | [(first, last)] => if first = last then scalar? first else none
  | _ => none

/-- Ranges written as hexadecimal code points with blanks between them, such as
`41-5A 61-7A AA`, on any number of lines. -/
def ofHex (lines : List String) : Ranges :=
  lines.flatMap fun line =>
    (line.splitOn " ").filterMap fun item =>
      match (item.splitOn "-").map fun code => hexNumber? code.toList with
      | [some code] => some (code, code)
      | [some first, some last] => some (first, last)
      | _ => none

end Ranges

end Console.Text
