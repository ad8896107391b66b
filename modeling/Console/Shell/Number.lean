import Console.Text.Decimal
import Console.Text.Hexadecimal
import Console.Text.Octets
import Console.Text.Rounded

/-!
# Numbers in scripts

Integers are words of 64 bits.  They are read from the beginning of a text as far as it goes: after
blanks and a sign come digits, whose base may be given by what they begin with.  Floating point
numbers are read in the same way; they may have a point and a power, of ten behind decimal digits
and of two behind hexadecimal ones, or be given as the name of infinity or of what is no number.
-/

namespace Console.Shell

/-- The sum of some numbers. -/
def total (numbers : List Nat) : Nat := numbers.foldl (· + ·) 0

/-- An integer at the beginning of a text. -/
structure IntegerFront where
  /-- The integer, however great it is. -/
  exact : Int
  /-- What follows after its digits. -/
  rest : Octets
  deriving DecidableEq, Repr

namespace IntegerFront

/-- The integer, or the end of the range that it is beyond. -/
def value (front : IntegerFront) : Int64 :=
  .ofInt (max Int64.minValue.toInt (min Int64.maxValue.toInt front.exact))

/-- Whether the integer is beyond the range of words with a sign. -/
def isBeyond (front : IntegerFront) : Bool := front.value.toInt != front.exact

/-- The integer as a word without a sign, and whether it is beyond their range.  A negative one
counts from the end of the range. -/
def unsigned (front : IntegerFront) : Nat × Bool :=
  let size := 0x10000000000000000
  if size ≤ front.exact.natAbs then (size - 1, true)
  else ((front.exact.emod size).toNat, false)

end IntegerFront

/-- Whether a character is blank in front of an integer. -/
def isNumberBlank (c : Char) : Bool := c = ' ' || ('\t' ≤ c && c ≤ '\r')

/-- The value of a digit in a base. -/
def digitOf? (base : Nat) (c : Char) : Option Nat :=
  (Text.hexValue? c).filter (· < base)

/-- The digits in a base at the beginning of a text: their value, their number and what follows. -/
def digitsOf (base : Nat) : Octets → Nat × Nat × Octets
  | [] => (0, 0, [])
  | text => go 0 0 text
where
  /-- Goes on after digits that have been read. -/
  go (value count : Nat) : Octets → Nat × Nat × Octets
    | [] => (value, count, [])
    | c :: rest =>
        match digitOf? base c with
        | some digit => go (value * base + digit) (count + 1) rest
        | none => (value, count, c :: rest)

/-- The base that a letter shows after a zero. -/
def shownBase? (c : Char) : Option Nat :=
  if c = 'x' || c = 'X' then some 16 else if c = 'b' || c = 'B' then some 2 else none

/-- The digits at the beginning of a text, in base ten or in a base that they show themselves. -/
def magnitudeOf (isOpenBase : Bool) (text : Octets) : Nat × Nat × Octets :=
  match isOpenBase, text with
  | true, '0' :: x :: rest =>
      match shownBase? x with
      | some base =>
          let (value, count, after) := digitsOf base rest
          if count = 0 then (0, 1, x :: rest) else (value, count, after)
      | none => digitsOf 8 text
  | _, text => digitsOf 10 text

/-- The integer at the beginning of a text; none if there is no digit. -/
def integerFront? (isOpenBase : Bool) (text : Octets) : Option IntegerFront :=
  let text := text.dropWhile isNumberBlank
  let isNegative := text.head? = some '-'
  let digits := if isNegative || text.head? = some '+' then text.drop 1 else text
  let (value, count, rest) := magnitudeOf isOpenBase digits
  if count = 0 then none else some ⟨if isNegative then -value else value, rest⟩

/-- The integer that a text is, with blanks around it. -/
def integer? (isOpenBase : Bool) (text : Octets) : Option Int64 :=
  match integerFront? isOpenBase text with
  | none => none
  | some front =>
      if front.isBeyond || !front.rest.all isNumberBlank then none else some front.value

/-- The number that a text is, if it is one that a command can count with. -/
def count? (text : Octets) : Option Nat :=
  match integer? false text with
  | none => none
  | some value => if value < 0 || 0x7FFFFFFF < value then none else some value.toInt.toNat

/-- The text of an integer. -/
def integerOctets (value : Int64) : Octets := Text.intDigits value.toInt

/-- The text of a natural number. -/
def countOctets (n : Nat) : Octets := Text.natDigits n

/-! ## Numbers with a fraction -/

/-- The size of a floating point number, whatever its sign. -/
inductive Magnitude where
  | finite (x : Float)
  | infinite
  | noNumber

/-- A floating point number at the beginning of a text. -/
structure FractionFront where
  isNegative : Bool := false
  magnitude : Magnitude
  /-- What follows after it. -/
  rest : Octets
  /-- Whether it is too great, or so small that it has lost digits. -/
  isBeyond : Bool := false

namespace FractionFront

/-- The name that a text begins with, in any case, and what follows it. -/
def afterName? (name : String) (text : Octets) : Option Octets :=
  if name.toList.isPrefixOf (text.map Char.toLower) then some (text.drop name.length) else none

/-- Infinity, or what is no number, at the beginning of a text. -/
def named? (text : Octets) : Option (Magnitude × Octets) :=
  match afterName? "infinity" text, afterName? "inf" text, afterName? "nan" text with
  | some rest, _, _ | none, some rest, _ => some (.infinite, rest)
  | none, none, some rest =>
      let note := (rest.drop 1).takeWhile fun c => c.isAlphanum || c = '_'
      let isNoted := rest.head? = some '(' && (rest.drop (note.length + 1)).head? = some ')'
      some (.noNumber, if isNoted then rest.drop (note.length + 2) else rest)
  | none, none, none => none

/-- The digits in a base at the beginning of a text, with a point: all of them, the number of those
after the point, and what follows; none if there is no digit. -/
def pointed? (base : Nat) (text : Octets) : Option (Octets × Nat × Octets) :=
  let isDigitHere (c : Char) : Bool := (digitOf? base c).isSome
  let whole := text.takeWhile isDigitHere
  let rest := text.drop whole.length
  let places := if rest.head? = some '.' then (rest.drop 1).takeWhile isDigitHere else []
  if whole.isEmpty && places.isEmpty then none
  else
    some (whole ++ places, places.length,
      if rest.head? = some '.' then rest.drop (places.length + 1) else rest)

/-- The power after a letter at the beginning of a text, and what follows it; there is none without
digits. -/
def power (letter : Char) (text : Octets) : Int × Octets :=
  match text with
  | c :: after =>
      let isDown := after.head? = some '-'
      let digits := if isDown || after.head? = some '+' then after.drop 1 else after
      let (value, count, rest) := digitsOf 10 digits
      if c.toLower != letter || count = 0 then (0, text)
      else (if isDown then -(min value 20000 : Nat) else (min value 20000 : Nat), rest)
  | [] => (0, [])

/-- The number nearest to a natural number times a power of ten. -/
def ofDecimal (digits : Nat) (power : Int) (rest : Octets) : FractionFront :=
  if digits = 0 then { magnitude := .finite 0, rest }
  else
    let x := Float.ofScientific digits (power < 0) power.natAbs
    let (numerator, denominator) := Text.Rounded.quotient x
    let isExact : Bool :=
      numerator * Nat.pow 10 (-power).toNat == denominator * digits * Nat.pow 10 power.toNat
    let isSmall : Bool := x < Float.ofScientific 22250738585072014 true 324
    if x.isInf then { magnitude := .infinite, rest, isBeyond := true }
    else { magnitude := .finite x, rest, isBeyond := isSmall && !isExact }

/-- The number nearest to a natural number times a power of two. -/
def ofBinary (digits : Nat) (power : Int) (rest : Octets) : FractionFront :=
  let down := (-power).toNat
  ofDecimal (digits * Nat.pow 2 power.toNat * Nat.pow 5 down) (-Int.ofNat down) rest

/-- A number without a sign at the beginning of a text. -/
def unsigned? (text : Octets) : Option FractionFront :=
  match named? text with
  | some (magnitude, rest) => some { magnitude, rest }
  | none =>
      let hex :=
        match text with
        | '0' :: x :: after => if x = 'x' || x = 'X' then pointed? 16 after else none
        | _ => none
      match hex with
      | some (digits, places, rest) =>
          let (power, rest) := power 'p' rest
          some (ofBinary (digitsOf 16 digits).1 (power - 4 * places) rest)
      | none =>
          (pointed? 10 text).map fun (digits, places, rest) =>
            let (power, rest) := power 'e' rest
            ofDecimal (digitsOf 10 digits).1 (power - places) rest

end FractionFront

/-- The number at the beginning of a text, with blanks and a sign in front; none if there is no
number. -/
def fractionFront? (text : Octets) : Option FractionFront :=
  let text := text.dropWhile isNumberBlank
  let isNegative := text.head? = some '-'
  let text := if isNegative || text.head? = some '+' then text.drop 1 else text
  (FractionFront.unsigned? text).map ({ · with isNegative })

end Console.Shell
