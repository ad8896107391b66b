import Console.Text.Shortest

/-!
# Floating point numbers with a number of digits

A number is a quotient of natural numbers, and is rounded to a number of decimal places, of digits
or of hexadecimal places; a half goes to the even neighbour.
-/

namespace Console.Text.Rounded

/-- The magnitude of a finite number as a quotient. -/
def quotient (x : Float) : Nat × Nat :=
  let bits := x.toBits.toNat
  let biased := (bits >>> 52) % 2048
  let fraction := bits % Shortest.hiddenBit
  let mantissa := if biased == 0 then fraction else Shortest.hiddenBit + fraction
  let exponent : Int := if biased == 0 then -1074 else Int.ofNat biased - 1075
  (mantissa * Nat.pow 2 exponent.toNat, Nat.pow 2 (-exponent).toNat)

/-- A quotient rounded to the nearest natural number, a half to the even one. -/
def nearest (numerator denominator : Nat) : Nat :=
  let below := numerator / denominator
  let twice := 2 * (numerator % denominator)
  if denominator < twice || (twice = denominator && below % 2 = 1) then below + 1 else below

/-- A quotient times a power of ten, rounded. -/
def scaled (numerator denominator : Nat) (power : Int) : Nat :=
  nearest (numerator * Nat.pow 10 power.toNat) (denominator * Nat.pow 10 (-power).toNat)

/-- Digits with a point in front of the last ones. -/
def withPoint (keepsPoint : Bool) (places : Nat) (digits : List Char) : List Char :=
  let digits := List.replicate (places + 1 - digits.length) '0' ++ digits
  let whole := digits.take (digits.length - places)
  if places = 0 && !keepsPoint then whole else whole ++ '.' :: digits.drop whole.length

/-- A number with so many decimal places. -/
def fixed (keepsPoint : Bool) (places : Nat) (x : Float) : List Char :=
  let (numerator, denominator) := quotient x
  withPoint keepsPoint places (natDigits (scaled numerator denominator places))

/-- The power of ten of the first digit of a quotient, from a power on downwards. -/
def leadingPower (numerator denominator : Nat) : Nat → Int → Int
  | 0, power => power
  | fuel + 1, power =>
      if denominator * Nat.pow 10 power.toNat ≤ numerator * Nat.pow 10 (-power).toNat then power
      else leadingPower numerator denominator fuel (power - 1)

/-- A number as so many digits after the first one and a power of ten. -/
def digitsAndPower (places : Nat) (x : Float) : List Char × Int :=
  let (numerator, denominator) := quotient x
  if numerator = 0 then (List.replicate (places + 1) '0', 0)
  else
    let power := leadingPower numerator denominator 640 309
    let digits := natDigits (scaled numerator denominator (Int.ofNat places - power))
    if digits.length = places + 2 then (digits.dropLast, power + 1) else (digits, power)

/-- A number with an exponent, and so many places before it. -/
def exponential (keepsPoint : Bool) (places : Nat) (x : Float) : List Char :=
  let (digits, power) := digitsAndPower places x
  let exponent := natDigits power.natAbs
  withPoint keepsPoint places digits ++ ['e', if power < 0 then '-' else '+'] ++
    List.replicate (2 - exponent.length) '0' ++ exponent

/-- A decimal without the zeros at its end, and without a point at its end. -/
def withoutZeros (digits : List Char) : List Char :=
  if digits.contains '.' then
    let kept := (digits.reverse.dropWhile (· == '0'))
    (if kept.head? = some '.' then kept.drop 1 else kept).reverse
  else digits

/-- A number in the shorter of the two forms, with at most so many digits. -/
def general (keepsZeros : Bool) (count : Nat) (x : Float) : List Char :=
  let count := max count 1
  let (_, power) := digitsAndPower (count - 1) x
  if -4 ≤ power && power < count then
    let text := fixed keepsZeros (Int.ofNat count - 1 - power).toNat x
    if keepsZeros then text else withoutZeros text
  else
    let text := exponential keepsZeros (count - 1) x
    if keepsZeros then text
    else withoutZeros (text.takeWhile (· != 'e')) ++ text.dropWhile (· != 'e')

/-- A number with hexadecimal digits and a power of two: so many places, or as many as it needs.
Its first digit is one, but for what is smaller than that allows. -/
def hexadecimal (keepsPoint : Bool) (places : Option Nat) (x : Float) : List Char :=
  let bits := x.toBits.toNat
  let biased := (bits >>> 52) % 2048
  let fraction := bits % Shortest.hiddenBit
  let mantissa := if biased == 0 then fraction else Shortest.hiddenBit + fraction
  let power : Int := if mantissa = 0 then 0 else if biased = 0 then -1022 else biased - 1023
  let exact := 13
  let digits (places : Nat) : List Char :=
    let kept := nearest (mantissa * Nat.pow 16 (places - exact)) (Nat.pow 16 (exact - places))
    withPoint keepsPoint places (Nat.toDigits 16 kept)
  let text :=
    match places with
    | some places => digits places
    | none =>
        let zeros := ((withPoint true exact (Nat.toDigits 16 mantissa)).reverse.takeWhile
          (· == '0')).length
        digits (exact - min zeros exact)
  text ++ ['p', if power < 0 then '-' else '+'] ++ natDigits power.natAbs

end Console.Text.Rounded
