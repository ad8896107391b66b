import Console.Text.Classes
import Console.Text.Hexadecimal

/-!
# Quoted texts

A text in double quotes, in which every character that could not be read off the screen is
written as an escape: quotes and backslashes, line breaks, tabs and zeros by name, and the other
characters without an image of their own by their code point.
-/

namespace Console.Text

/-- A character as it is written in a quoted text. -/
def escaped (c : Char) : List Char :=
  if c = '"' then ['\\', '"']
  else if c = '\\' then ['\\', '\\']
  else if c = '\n' then ['\\', 'n']
  else if c = '\r' then ['\\', 'r']
  else if c = '\t' then ['\\', 't']
  else if c = '\x00' then ['\\', '0']
  else if isExtender c || !isPrintable c then
    ['\\', 'u', '\x7b'] ++ hexDigits c.toNat ++ ['\x7d']
  else [c]

/-- A text between double quotes, each character escaped where needed. -/
def quoted (text : List Char) : List Char := '"' :: text.flatMap escaped ++ ['"']

end Console.Text

namespace Console

/-- A text between double quotes, each character escaped where needed. -/
def quotedText (text : String) : String := .ofList (Text.quoted text.toList)

end Console
