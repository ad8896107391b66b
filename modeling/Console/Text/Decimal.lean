import Console.Text.Classes

/-!
# Decimal integers

Writing integers with the fewest digits, and reading them back within bounds.  A reader works
from left to right and reports the first thing that is wrong, so a number that has already grown
too large is too large whatever follows its digits.
-/

namespace Console

/-- What is wrong with the text of an integer. -/
inductive IntegerError where
  | empty
  | invalidDigit
  | tooLarge
  | tooSmall
  deriving DecidableEq, Repr

namespace IntegerError

/-- The wording of the error. -/
def message : IntegerError → String
  | empty => "cannot parse integer from empty string"
  | invalidDigit => "invalid digit found in string"
  | tooLarge => "number too large to fit in target type"
  | tooSmall => "number too small to fit in target type"

end IntegerError

namespace Text

/-- The digits of a natural number. -/
def natDigits (n : Nat) : List Char := Nat.toDigits 10 n

/-- The text of an integer: its digits after a minus sign if it is negative. -/
def intDigits (i : Int) : List Char :=
  if i < 0 then '-' :: natDigits i.natAbs else natDigits i.natAbs

/-- The value of a decimal digit. -/
def digitValue (c : Char) : Nat := c.toNat - '0'.toNat

/-- Reads the digits that follow a number already read; `overflow` is the error beyond `limit`. -/
def readDigits (limit : Nat) (overflow : IntegerError) : Nat → List Char → Except IntegerError Nat
  | value, [] => .ok value
  | value, c :: rest =>
      if isDigit c then
        let next := value * 10 + digitValue c
        if next ≤ limit then readDigits limit overflow next rest else .error overflow
      else .error .invalidDigit

/-- The largest natural number of 64 bits. -/
def largestCount : Nat := 0xFFFFFFFFFFFFFFFF

/-- The largest integer of 64 bits. -/
def largestInteger : Nat := 0x7FFFFFFFFFFFFFFF

/-- Reads the digits of a number, of which there must be one. -/
def readMagnitude (limit : Nat) (overflow : IntegerError) (digits : List Char) :
    Except IntegerError Nat :=
  if digits.isEmpty then .error .invalidDigit else readDigits limit overflow 0 digits

/-- Reads a natural number of 64 bits, which a plus sign may precede. -/
def readCount : List Char → Except IntegerError Nat
  | [] => .error .empty
  | '+' :: digits => readMagnitude largestCount .tooLarge digits
  | digits => readMagnitude largestCount .tooLarge digits

/-- Reads an integer of 64 bits, which a sign may precede. -/
def readInteger : List Char → Except IntegerError Int64
  | [] => .error .empty
  | '+' :: digits => (readMagnitude largestInteger .tooLarge digits).map fun n => .ofInt n
  | '-' :: digits => (readMagnitude (largestInteger + 1) .tooSmall digits).map fun n => .ofInt (-n)
  | digits => (readMagnitude largestInteger .tooLarge digits).map fun n => .ofInt n

end Text

/-- The text of a natural number. -/
def natText (n : Nat) : String := .ofList (Text.natDigits n)

/-- The text of an integer of 64 bits. -/
def integerText (i : Int64) : String := .ofList (Text.intDigits i.toInt)

/-- A natural number in a column of the given width, at its right. -/
def natColumn (width n : Nat) : String :=
  let digits := Text.natDigits n
  .ofList (List.replicate (width - digits.length) ' ' ++ digits)

/-- Reads a natural number of 64 bits. -/
def readCount (text : String) : Except IntegerError Nat := Text.readCount text.toList

/-- Reads an integer of 64 bits. -/
def readInteger (text : String) : Except IntegerError Int64 := Text.readInteger text.toList

end Console
