import Console.Pattern.Property
import Console.Text.Blank
import Console.Text.Numbers

/-!
# Classes of patterns

The classes of characters that a pattern names by an escape or between colons.
-/

namespace Console

/-- The classes that an escape of one letter stands for. -/
inductive EscapeClass where
  | digit
  | blank
  | word
  deriving DecidableEq, Repr

/-- The classes of ASCII characters that have a name. -/
inductive AsciiClass where
  | alnum
  | alpha
  | ascii
  | blank
  | cntrl
  | digit
  | graph
  | lower
  | print
  | punct
  | space
  | upper
  | word
  | xdigit
  deriving DecidableEq, Repr

namespace AsciiClass

/-- The class with a name. -/
def ofName? : String → Option AsciiClass
  | "alnum" => some alnum
  | "alpha" => some alpha
  | "ascii" => some ascii
  | "blank" => some blank
  | "cntrl" => some cntrl
  | "digit" => some digit
  | "graph" => some graph
  | "lower" => some lower
  | "print" => some print
  | "punct" => some punct
  | "space" => some space
  | "upper" => some upper
  | "word" => some word
  | "xdigit" => some xdigit
  | _ => none

/-- The characters of a class. -/
def characters : AsciiClass → Text.Ranges
  | alnum => [(0x30, 0x39), (0x41, 0x5A), (0x61, 0x7A)]
  | alpha => [(0x41, 0x5A), (0x61, 0x7A)]
  | ascii => [(0x00, 0x7F)]
  | blank => [(0x09, 0x09), (0x20, 0x20)]
  | cntrl => [(0x00, 0x1F), (0x7F, 0x7F)]
  | digit => [(0x30, 0x39)]
  | graph => [(0x21, 0x7E)]
  | lower => [(0x61, 0x7A)]
  | print => [(0x20, 0x7E)]
  | punct => [(0x21, 0x2F), (0x3A, 0x40), (0x5B, 0x60), (0x7B, 0x7E)]
  | space => [(0x09, 0x0D), (0x20, 0x20)]
  | upper => [(0x41, 0x5A)]
  | word => [(0x30, 0x39), (0x41, 0x5A), (0x5F, 0x5F), (0x61, 0x7A)]
  | xdigit => [(0x30, 0x39), (0x41, 0x46), (0x61, 0x66)]

end AsciiClass

namespace EscapeClass

/-- The decimal digits of all scripts.  Patterns go by Unicode 16, in which one script less has
digits. -/
def digits : Text.Ranges := Text.decimals.erase (0x11DE0, 0x11DE9)

/-- The characters of a word: alphabetic characters, marks, decimal digits, connectors and the
joiners of zero width. -/
def wordCharacters : Text.Ranges :=
  let named := ["alpha", "joinc"].filterMap Property.find?
  Text.Ranges.ofList <|
    Category.among ["mn", "mc", "me", "nd", "pc"] ++ named.flatMap Property.characters

/-- The characters of a class, of all scripts or of ASCII. -/
def characters (isAscii : Bool) : EscapeClass → Text.Ranges
  | digit => if isAscii then AsciiClass.digit.characters else digits
  | blank => if isAscii then AsciiClass.space.characters else Text.blanks
  | word => if isAscii then AsciiClass.word.characters else wordCharacters

/-- Whether a character belongs to a word. -/
def isWord (isAscii : Bool) (c : Char) : Bool := (word.characters isAscii).has c

end EscapeClass

end Console
