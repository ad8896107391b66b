import Console.Text.Utf8

/-!
# Texts as octets

A program that knows nothing of encodings takes every byte for a character.  Here such a text is
a list of characters below 256, one for each byte, so that what is said about characters holds
for bytes.
-/

namespace Console

/-- A text in which every byte is a character. -/
abbrev Octets := List Char

namespace Octets

/-- The text of bytes. -/
def ofBytes (bytes : Utf8.Bytes) : Octets := bytes.map fun byte => Char.ofNat byte.toNat

/-- The bytes of a text. -/
def toBytes (octets : Octets) : Utf8.Bytes := octets.map fun c => c.toNat.toUInt8

/-- The bytes of a text of any characters, as characters. -/
def ofText (text : String) : Octets := ofBytes (Utf8.ofText text)

/-- The text that octets are the bytes of. -/
def toText (octets : Octets) : String := Utf8.toTextLossy (toBytes octets)

/-- The lines of a text, each with the newline that ends it; the last one may have none. -/
def lines : Octets → List Octets
  | [] => []
  | c :: rest =>
      if c = '\n' then [c] :: lines rest
      else match lines rest with
        | [] => [[c]]
        | line :: more => (c :: line) :: more

/-- The parts of a text between separators, at least one. -/
def splitAt (isSeparator : Char → Bool) : Octets → List Octets
  | [] => [[]]
  | c :: rest =>
      match splitAt isSeparator rest with
      | [] => [[c]]
      | part :: parts => if isSeparator c then [] :: part :: parts else (c :: part) :: parts

/-- A text without the newlines at its end. -/
def withoutFinalNewlines (octets : Octets) : Octets :=
  (octets.reverse.dropWhile (· == '\n')).reverse

/-- Whether a text comes before another one, byte by byte. -/
def isBefore : Octets → Octets → Bool
  | [], _ => true
  | _ :: _, [] => false
  | c :: rest, d :: others => c < d || (c == d && isBefore rest others)

end Octets

end Console
