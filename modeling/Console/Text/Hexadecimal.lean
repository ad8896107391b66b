/-!
# Hexadecimal numbers

Digits through `f`, written in lower case and read in either.
-/

namespace Console.Text

/-- The lower case hexadecimal digits of a number. -/
def hexDigits (n : Nat) : List Char := Nat.toDigits 16 n

/-- The value of a hexadecimal digit. -/
def hexValue? (c : Char) : Option Nat :=
  if '0' ≤ c && c ≤ '9' then some (c.toNat - '0'.toNat)
  else if 'a' ≤ c && c ≤ 'f' then some (c.toNat - 'a'.toNat + 10)
  else if 'A' ≤ c && c ≤ 'F' then some (c.toNat - 'A'.toNat + 10)
  else none

/-- The value of hexadecimal digits; none of them make zero. -/
def hexNumber? (digits : List Char) : Option Nat :=
  digits.foldl (fun value c => value.bind fun n => (hexValue? c).map (n * 16 + ·)) (some 0)

/-- The character with a code point, if there is one. -/
def scalar? (code : Nat) : Option Char :=
  if Nat.isValidChar code then some (Char.ofNat code) else none

end Console.Text
