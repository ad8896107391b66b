import Console.Shell.Report.Program
import Console.Shell.Written

/-!
# Values of report programs

A value is a number or a text.  A text that has been read counts as a number where values are
compared, if it looks like one.  `Datum.toText` and `Datum.toNumber` turn values into one another,
and `Report.format` writes values as a format says.
-/

namespace Console.Shell.Report

/-- A value. -/
inductive Datum where
  /-- What nothing has been assigned to; it counts as zero and as the empty text. -/
  | unset
  | number (x : Float)
  | text (text : Octets)
  /-- A text that has been read. -/
  | input (text : Octets)
  deriving Inhabited

/-- A number as a floating point number. -/
def floatOf (isNegative : Bool) : Magnitude → Float
  | .finite x => if isNegative then -x else x
  | .infinite => if isNegative then -(1.0 / 0.0) else 1.0 / 0.0
  | .noNumber => 0.0 / 0.0

/-- The number at the beginning of a text; zero if there is none. -/
def numberFront (text : Octets) : Float :=
  match fractionFront? text with
  | some front => floatOf front.isNegative front.magnitude
  | none => 0

/-- Whether a whole text looks like a number. -/
def isNumeric (text : Octets) : Bool :=
  let start := text.dropWhile fun c => isNumberBlank c || c = '-' || c = '+'
  (start.head?.any fun c => c.isDigit || c = '.') &&
    (fractionFront? text).any fun front => front.rest.all isNumberBlank

/-- The greatest integer that is written with all its digits. -/
def greatestWhole : Int := 18446744073709551615

/-- The integer next to a number on the way to zero, within the range of words. -/
def truncated (x : Float) : Int :=
  if x.isNaN then Int64.minValue.toInt
  else if x.isInf then if 0 < x then Int64.maxValue.toInt else Int64.minValue.toInt
  else
    let (numerator, denominator) := Text.Rounded.quotient x
    let size : Int := (numerator / denominator : Nat)
    if 0 ≤ x then min size greatestWhole
    else if -size < Int64.minValue.toInt then Int64.minValue.toInt + 1
    else -size

/-- A number that is an integer and is written with all its digits. -/
def wholeNumber? (x : Float) : Option Int :=
  if x.floor == x && -9223372036854775808.0 ≤ x && x ≤ 18446744073709551616.0 then
    some (truncated x)
  else none

/-! ## Formats -/

/-- A number as a directive for numbers with a fraction writes it. -/
def fractionText (layout : Layout) (letter : Char) (x : Float) : Octets :=
  let isNegative : Bool := x < 0 || x.isNaN || (x == 0 && 1.0 / x < 0)
  let magnitude : Magnitude :=
    if x.isNaN then .noNumber else if x.isInf then .infinite else .finite x.abs
  layout.fraction letter isNegative magnitude

/-- The layout and the letter of a directive for one number; none if a format has none. -/
def numberDirective? (format : Octets) : Option (Octets × Layout × Char × Octets) :=
  let before := format.takeWhile (· != '%')
  match format.drop before.length with
  | _ :: text =>
      let (layout, rest, _) := ({ arguments := [] } : Formatting).layout text
      match rest with
      | letter :: rest => some (before, layout, letter, rest)
      | [] => none
  | [] => none

/-- The text of a number: an integer has its digits, and any other number is written as a format
says. -/
def numberText (format : Octets) (x : Float) : Octets :=
  match wholeNumber? x, numberDirective? format with
  | some value, _ => Text.intDigits value
  | none, some (before, layout, letter, rest) => before ++ fractionText layout letter x ++ rest
  | none, none => format

namespace Datum

/-- The number that a value counts as. -/
def toNumber : Datum → Float
  | unset => 0
  | number x => x
  | .text found | .input found => numberFront found

/-- The text that a value counts as, where a format says how numbers are written. -/
def toText (format : Octets) : Datum → Octets
  | unset => []
  | number x => numberText format x
  | .text found | .input found => found

/-- Whether a value counts as a number where values are compared. -/
def isNumber : Datum → Bool
  | unset | number _ => true
  | text _ => false
  | .input found => isNumeric found

/-- Whether a value counts as true. -/
def isTrue : Datum → Bool
  | unset => false
  | number x => x != 0
  | .text found => !found.isEmpty
  | .input found => if isNumeric found then numberFront found != 0 else !found.isEmpty

/-- The value of a condition. -/
def ofBool (holds : Bool) : Datum := .number (if holds then 1 else 0)

/-- Whether two values compare as said: as numbers if both are, and else as texts. -/
def compares (format : Octets) (comparison : Comparison) (left right : Datum) : Bool :=
  if left.isNumber && right.isNumber then
    let left := left.toNumber
    let right := right.toNumber
    match comparison with
    | .less => left < right
    | .atMost => left ≤ right
    | .equal => left == right
    | .unequal => left != right
    | .greater => right < left
    | .atLeast => right ≤ left
  else
    let left := left.toText format
    let right := right.toText format
    match comparison with
    | .less => left != right && Octets.isBefore left right
    | .atMost => Octets.isBefore left right
    | .equal => left == right
    | .unequal => left != right
    | .greater => left != right && Octets.isBefore right left
    | .atLeast => Octets.isBefore right left

end Datum

/-- What an operation makes of two numbers. -/
def Operation.apply (operation : Operation) (left right : Float) : Float :=
  match operation with
  | .add => left + right
  | .subtract => left - right
  | .multiply => left * right
  | .divide => left / right
  | .remainder => remainder left right
  | .power => left.pow right
where
  /-- What is left over by a division whose quotient is rounded towards zero; it is exact. -/
  remainder (left right : Float) : Float :=
    if left.isNaN || right.isNaN || left.isInf || right == 0 then 0.0 / 0.0
    else if right.isInf then left
    else
      let (leftNumerator, leftDenominator) := Text.Rounded.quotient left
      let (rightNumerator, rightDenominator) := Text.Rounded.quotient right
      let rest := (leftNumerator * rightDenominator) % (rightNumerator * leftDenominator)
      let denominator := leftDenominator * rightDenominator
      let bits := Nat.log2 denominator
      let size := Float.scaleB (Float.ofNat (rest / Nat.gcd rest denominator))
        (-(Int.ofNat (bits - Nat.log2 (Nat.gcd rest denominator))))
      if left < 0 then -size else size

/-- What a format makes of values. -/
structure Formatted where
  text : Octets
  /-- Why it goes no further, if it does not. -/
  refusal : Option String := none

namespace Formatted

/-- What a format makes with a text in front. -/
def after (text : Octets) (formatted : Formatted) : Formatted :=
  { formatted with text := text ++ formatted.text }

/-- Writes values as a format says.  The first number bounds the length of the format, and `index`
is that of the next directive. -/
def ofFormat (numbers : Octets) : Nat → (index : Nat) → Octets → List Datum → Formatted
  | 0, _, format, _ => { text := format }
  | fuel + 1, index, format, values =>
      let tooFew : Formatted := { text := [], refusal := some "not enough arguments passed to" }
      match format with
      | [] => { text := [] }
      | '%' :: '%' :: rest => (ofFormat numbers fuel index rest values).after ['%']
      | '%' :: rest =>
          let stars := rest.takeWhile fun c => !c.isAlpha && c != '%'
          let count := stars.count '*'
          let widths := (values.take count).map fun value =>
            Text.intDigits (truncated value.toNumber)
          let (layout, after, _) := ({ arguments := widths } : Formatting).layout rest
          match after, values.drop count with
          | letter :: after, value :: values =>
              match directed? numbers layout letter value with
              | some written => (ofFormat numbers fuel (index + 1) after values).after written
              | none =>
                  { text := []
                    refusal := some ("improper conversion(number " ++
                      String.ofList (countOctets index) ++ ") in") }
          | _, _ => tooFew
      | c :: rest => (ofFormat numbers fuel index rest values).after [c]
where
  /-- What a directive writes for a value; none if there is no such directive. -/
  directed? (numbers : Octets) (layout : Layout) (letter : Char) (value : Datum) : Option Octets :=
    match letter with
    | 's' => some (layout.text (value.toText numbers))
    | 'c' =>
        let found :=
          match value with
          | .number x => octet (truncated x % 256).toNat
          | value => ((value.toText numbers).head?).getD '\x00'
        some (layout.padded [found])
    | 'd' | 'i' =>
        let value := truncated value.toNumber
        let sign : Octets :=
          if value < 0 then ['-']
          else if layout.has '+' then ['+']
          else if layout.has ' ' then [' ']
          else []
        some (layout.number sign (Text.natDigits value.natAbs))
    | 'o' | 'x' | 'X' | 'u' =>
        some (layout.unsigned letter ((truncated value.toNumber).emod (greatestWhole + 1)).toNat)
    | 'e' | 'E' | 'f' | 'F' | 'g' | 'G' | 'a' | 'A' =>
        some (fractionText layout letter value.toNumber)
    | _ => none

end Formatted

/-- Writes values as a format says. -/
def format (numbers template : Octets) (values : List Datum) : Formatted :=
  Formatted.ofFormat numbers template.length 1 template values

end Console.Shell.Report
