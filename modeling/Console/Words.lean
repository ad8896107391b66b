import Console.Text.Blank

/-!
# Words of a command line

Blank characters separate words.  In a word, single quotes keep everything between them as it is;
between double quotes a backslash takes away the meaning of a double quote, a backslash, a dollar
sign or a backquote, and stands for itself before anything else; outside quotes a backslash
keeps the next character as it is.  A quote has to be closed.
-/

namespace Console

/-- Where in its word a character is. -/
inductive Quoting where
  /-- Between two words. -/
  | between
  /-- In a word, outside quotes. -/
  | bare
  /-- In a word, after a backslash. -/
  | escape
  | single
  | double
  /-- Between double quotes, after a backslash. -/
  | doubleEscape
  deriving DecidableEq, Repr

/-- The words read so far, newest first, and the characters of the next one, newest first. -/
structure WordReader where
  words : List (List Char) := []
  word : List Char := []
  quoting : Quoting := .between
  deriving Repr

namespace WordReader

/-- Whether a backslash between double quotes takes away the meaning of a character. -/
def hasMeaning (c : Char) : Bool := c = '"' || c = '\\' || c = '$' || c = '\x60'

/-- Adds a character to the word. -/
def keep (reader : WordReader) (c : Char) (quoting : Quoting) : WordReader :=
  { reader with word := c :: reader.word, quoting }

/-- The effect of a character outside quotes. -/
def bareStep (reader : WordReader) (c : Char) : WordReader :=
  if Text.isBlank c then
    match reader.quoting with
    | .between => reader
    | _ => { words := reader.word.reverse :: reader.words, word := [], quoting := .between }
  else if c = '\'' then { reader with quoting := .single }
  else if c = '"' then { reader with quoting := .double }
  else if c = '\\' then { reader with quoting := .escape }
  else reader.keep c .bare

/-- The effect of a character. -/
def step (reader : WordReader) (c : Char) : WordReader :=
  match reader.quoting with
  | .between | .bare => reader.bareStep c
  | .escape => reader.keep c .bare
  | .single => if c = '\'' then { reader with quoting := .bare } else reader.keep c .single
  | .double =>
      if c = '"' then { reader with quoting := .bare }
      else if c = '\\' then { reader with quoting := .doubleEscape }
      else reader.keep c .double
  | .doubleEscape =>
      if hasMeaning c then reader.keep c .double else (reader.keep '\\' .double).keep c .double

/-- The words at the end of the line, or the quote that is not closed. -/
def finish (reader : WordReader) : Except Char (List (List Char)) :=
  match reader.quoting with
  | .between => .ok reader.words.reverse
  | .bare | .escape => .ok (reader.word.reverse :: reader.words).reverse
  | .single => .error '\''
  | .double | .doubleEscape => .error '"'

end WordReader

/-- The words of a command line; the error is the quote that is not closed. -/
def splitWords (line : List Char) : Except Char (List (List Char)) :=
  (line.foldl WordReader.step {}).finish

/-- The words of a command line, as texts. -/
def wordsOf (line : String) : Except Char (List String) :=
  (splitWords line.toList).map (·.map .ofList)

end Console
