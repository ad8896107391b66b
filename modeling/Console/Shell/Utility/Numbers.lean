import Console.Shell.Utility.Texts
import Console.Text.Rounded

/-!
# Counting

Counting from one number to another.
-/

namespace Console.Shell.Utility

/-! ## Counting -/

/-- A number with decimal places. -/
structure Decimal where
  /-- The number, counted in the smallest of its places. -/
  units : Int
  places : Nat
  deriving DecidableEq, Repr

namespace Decimal

/-- The number that a text is. -/
def read? (text : Octets) : Option Decimal :=
  let isNegative := text.head? = some '-'
  let digits := if isNegative || text.head? = some '+' then text.drop 1 else text
  let (whole, count, rest) := digitsOf 10 digits
  let signed (units places : Nat) : Decimal := ⟨if isNegative then -units else units, places⟩
  match rest with
  | [] => if count = 0 then none else some (signed whole 0)
  | '.' :: rest =>
      let (fraction, places, rest) := digitsOf 10 rest
      if rest.isEmpty && 0 < count + places then
        some (signed (whole * Nat.pow 10 places + fraction) places)
      else none
  | _ => none

/-- The number counted in so many places, which are not fewer. -/
def unitsAt (places : Nat) (number : Decimal) : Int :=
  number.units * (Nat.pow 10 (places - number.places) : Nat)

/-- A number that is counted in so many places; zeros fill it up to a width. -/
def text (places width : Nat) (units : Int) : Octets :=
  let digits := Text.Rounded.withPoint false places (Text.natDigits units.natAbs)
  let sign := if units < 0 then ['-'] else []
  sign ++ List.replicate (width - sign.length - digits.length) '0' ++ digits

end Decimal

/-- The options in front of the numbers for `seq`: the separator, and whether all numbers are
equally wide. -/
def seqOptions (separator : Octets) (isEven : Bool) : List Octets → Octets × Bool × List Octets
  | ['-', 'w'] :: rest => seqOptions separator true rest
  | ['-', 's'] :: separator :: rest => seqOptions separator isEven rest
  | ('-' :: 's' :: c :: separator) :: rest => seqOptions (c :: separator) isEven rest
  | ['-', '-'] :: rest => (separator, isEven, rest)
  | rest => (separator, isEven, rest)

/-- Shows numbers one after another. -/
def seq : Utility := fun arguments => do
  let (separator, isEven, words) := seqOptions ['\n'] false arguments
  match words.find? fun word => (Decimal.read? word).isNone with
  | some word =>
      complainOfUse "seq" ("invalid floating point argument: '" ++ Octets.toText word ++ "'") 1
  | none =>
      let one : Decimal := ⟨1, 0⟩
      match words.filterMap Decimal.read? with
      | [] => complainOfUse "seq" "missing operand" 1
      | [last] => count separator isEven one one last
      | [first, last] => count separator isEven first one last
      | [first, step, last] => count separator isEven first step last
      | _ =>
          complainOfUse "seq"
            ("extra operand '" ++ Octets.toText (words[3]?.getD []) ++ "'") 1
where
  /-- Counts in steps from a number up or down to another one. -/
  count (separator : Octets) (isEven : Bool) (first step last : Decimal) : Work Nat := do
    let places := max (max first.places step.places) last.places
    let shown := max first.places step.places
    let low := first.unitsAt places
    let by_ := step.unitsAt places
    let high := last.unitsAt places
    if by_ = 0 then
      complainOfUse "seq" "invalid Zero increment value: '0'" 1
    else
      let number := ((if 0 < by_ then (high - low) / by_ else (low - high) / (-by_)) + 1).toNat
      let unit : Int := (Nat.pow 10 (places - shown) : Nat)
      let values := (List.range number).map fun (index : Nat) => (low + by_ * (index : Int)) / unit
      let widths := [low / unit, high / unit].map fun value => (Decimal.text shown 0 value).length
      let width := if isEven then widths.foldl max 0 else 0
      unless values.isEmpty do
        say (separator.intercalate (values.map (Decimal.text shown width)) ++ ['\n'])
      pure 0

end Console.Shell.Utility
