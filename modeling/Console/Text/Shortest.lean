import Console.Text.Decimal

/-!
# Shortest decimal text of a floating point number

A finite number is `mantissa * 2 ^ exponent`.  Of all decimals that a correctly rounding reader
takes for that number, its text is one with the fewest digits, and of those the nearest.  It is
written positionally, without an exponent.

Everything is counted in quarters of the unit `2 ^ exponent`, so that the ends of the interval
that rounds to the number are whole: the next numbers above and below are four quarters away,
except that below a power of two the distance is half of that.
-/

namespace Console.Text.Shortest

/-- A positive number `quarters / 4 * 2 ^ exponent` with the interval that rounds to it; the ends
belong to the interval if `closed`. -/
structure Target where
  quarters : Nat
  low : Nat
  high : Nat
  exponent : Int
  closed : Bool

/-- The target of a mantissa and an exponent.  `narrow` marks the least mantissa of a binade,
whose lower neighbour is nearer. -/
def Target.of (mantissa : Nat) (exponent : Int) (narrow : Bool) : Target where
  quarters := 4 * mantissa
  low := 4 * mantissa - if narrow then 1 else 2
  high := 4 * mantissa + 2
  exponent := exponent - 2
  closed := mantissa % 2 == 0

/-- The step of the grid of multiples of `10 ^ k`, and the size of a quarter, in one common
unit. -/
def Target.scale (target : Target) (k : Int) : Nat × Nat :=
  (Nat.pow 2 (-target.exponent).toNat * Nat.pow 10 k.toNat,
    Nat.pow 2 target.exponent.toNat * Nat.pow 10 (-k).toNat)

/-- Whether `digits * 10 ^ k` lies in the interval. -/
def Target.holds (target : Target) (k : Int) (digits : Nat) : Bool :=
  let (step, quarter) := target.scale k
  let point := digits * step
  if target.closed then target.low * quarter ≤ point && point ≤ target.high * quarter
  else target.low * quarter < point && point < target.high * quarter

/-- The multiple of `10 ^ k` in the interval that is nearest to the number; the upper one of
two equally near. -/
def Target.nearest? (target : Target) (k : Int) : Option Nat :=
  let (step, quarter) := target.scale k
  let below := target.quarters * quarter / step
  let above := below + 1
  let upper := above * step - target.quarters * quarter ≤ target.quarters * quarter - below * step
  if upper && target.holds k above then some above
  else if target.holds k below && 0 < below then some below
  else if target.holds k above then some above
  else none

/-- Looks for the coarsest grid with a point in the interval, from `10 ^ k` down. -/
def Target.search (target : Target) : Nat → Int → Nat × Int
  | 0, k => (0, k)
  | fuel + 1, k =>
      match target.nearest? k with
      | some digits => (digits, k)
      | none => target.search fuel (k - 1)

/-- The shortest decimal `digits * 10 ^ k` for a number; no double reaches `10 ^ 309`, and every
double is told apart from its neighbours by multiples of `10 ^ -324`. -/
def Target.shortest (target : Target) : Nat × Int := target.search 640 309

/-- The bit in front of a fraction of 52 bits, which normal numbers have without showing it. -/
def hiddenBit : Nat := 0x10000000000000

/-- The digits of `digits * 10 ^ k` in positional notation. -/
def positional (digits : Nat) (k : Int) : List Char :=
  let text := natDigits digits
  if 0 ≤ k then text ++ List.replicate k.toNat '0'
  else
    let places := (-k).toNat
    let padded := List.replicate (places + 1 - text.length) '0' ++ text
    padded.take (padded.length - places) ++ '.' :: padded.drop (padded.length - places)

end Console.Text.Shortest

namespace Console

open Text.Shortest in
/-- The text of a floating point number: the shortest decimal that reads back, positional, without
a fraction if there is none; `NaN` without a sign, `inf`, `-inf` and `-0`. -/
def floatText (x : Float) : String :=
  let bits := x.toBits.toNat
  let negative := bits >>> 63 == 1
  let biased := (bits >>> 52) % 2048
  let fraction := bits % hiddenBit
  if biased == 2047 && fraction != 0 then "NaN"
  else
    let magnitude :=
      if biased == 2047 then "inf".toList
      else if biased == 0 && fraction == 0 then ['0']
      else
        let target :=
          if biased == 0 then Target.of fraction (-1074) false
          else
            Target.of (hiddenBit + fraction) (Int.ofNat biased - 1075) (fraction == 0 && 1 < biased)
        let (digits, k) := target.shortest
        positional digits k
    .ofList (if negative then '-' :: magnitude else magnitude)

end Console
