import Console.Text.Extenders
import Console.Text.Letters
import Console.Text.Numbers
import Console.Text.Unprintable

/-!
# Classes of characters

The classes that names and quoted texts are defined by, put together from the tables of the
general categories.
-/

namespace Console.Text

/-- Letters and the other characters that count as alphabetic; a name may start with one. -/
def isAlphabetic (c : Char) : Bool := letters.has c || otherAlphabetic.has c

/-- Alphabetic characters and numbers; a name goes on with these. -/
def isAlphanumeric (c : Char) : Bool :=
  isAlphabetic c || decimals.has c || otherNumbers.has c

/-- Whether a character has an image of its own. -/
def isPrintable (c : Char) : Bool := !unprintable.has c

/-- Whether a character extends the one before it. -/
def isExtender (c : Char) : Bool := extenders.has c

/-- The decimal digits that numbers are written with. -/
def isDigit (c : Char) : Bool := '0' ≤ c && c ≤ '9'

end Console.Text
