import Console.Pattern.Piece
import Console.Pattern.Scan
import Console.Text.Classes

/-!
# Escapes in patterns

What stands behind a backslash: a character by its code point, a class of characters, a place to
look for, or a character that would otherwise have a meaning of its own.
-/

namespace Console

/-- What an escape stands for, with the stretch that it takes up. -/
inductive Escape where
  | literal (literal : Literal)
  | named (name : ClassName)
  | assertion (assertion : Assertion) (stretch : Stretch)

namespace Escape

/-- Reads `count` hexadecimal digits, the first of which comes next; the result are the digits in
reverse. -/
def readDigits : Nat → Scan → List Char → Reading (List Char × Scan)
  | 0, scan, digits => .ok (digits, scan)
  | count + 1, scan, digits =>
      match scan.rest with
      | [] => Scan.fail .escapeEnd scan.spot
      | c :: _ =>
          if (Text.hexValue? c).isNone then Scan.fail .hexDigit scan.here
          else readDigits count scan.advance (c :: digits)

/-- Reads hexadecimal digits up to a closing brace; the result are the digits in reverse. -/
def readBracedDigits (brace : PatternPlace) : Nat → Scan → List Char → Reading (List Char × Scan)
  | 0, scan, _ => Scan.fail .escapeEnd (scan.since brace)
  | fuel + 1, scan, digits =>
      match scan.rest with
      | [] => Scan.fail .escapeEnd (scan.since brace)
      | c :: _ =>
          if c = '\x7d' then .ok (digits, scan)
          else if (Text.hexValue? c).isNone then Scan.fail .hexDigit scan.here
          else readBracedDigits brace fuel scan.advance (c :: digits)

/-- The character with a code point in hexadecimal digits, which come in reverse. -/
def character? (digits : List Char) : Option Char :=
  (Text.hexNumber? digits.reverse).bind Text.scalar?

/-- Reads a code point from the letter on that starts it: as many digits as the letter asks for, or
any number in braces. -/
def readCodePoint (start : PatternPlace) (letter : Char) (scan : Scan) :
    Reading (Literal × Scan) := do
  let scan := scan.advance
  if scan.atEnd then Scan.fail .escapeEnd scan.spot
  else if scan.rest.head? == some '\x7b' then
    let brace := scan.place
    let first := scan.here.stop
    let (digits, scan) ← readBracedDigits brace scan.rest.length scan.advance []
    let last := scan.place
    let scan := scan.advance
    if digits.isEmpty then Scan.fail .hexEmpty (scan.since brace)
    else match character? digits with
      | none => Scan.fail .hexInvalid ⟨first, last⟩
      | some c => .ok (⟨c, false, scan.since start⟩, scan)
  else
    let first := scan.place
    let count := if letter = 'x' then 2 else if letter = 'u' then 4 else 8
    let (digits, scan) ← readDigits count scan []
    match character? digits with
    | none => Scan.fail .hexInvalid (scan.since first)
    | some c => .ok (⟨c, letter == 'x', scan.since start⟩, scan)

/-- Reads the name of a property up to a closing brace, in reverse. -/
def readPropertyName : Nat → Scan → List Char → Reading (List Char × Scan)
  | 0, scan, _ => Scan.fail .escapeEnd scan.spot
  | fuel + 1, scan, name =>
      match scan.rest with
      | [] => Scan.fail .escapeEnd scan.spot
      | c :: _ =>
          if c = '\x7d' then .ok (name, scan.bump)
          else readPropertyName fuel scan.advance (c :: name)

/-- What comes before and after the first place where a text has a separator. -/
def splitAt? (separator : List Char) : List Char → Option (List Char × List Char)
  | [] => none
  | c :: rest =>
      if separator.isPrefixOf (c :: rest) then some ([], (c :: rest).drop separator.length)
      else (splitAt? separator rest).map fun (name, value) => (c :: name, value)

/-- What the text between the braces of a property asks for, and whether it asks for the characters
for which that does not hold. -/
def query (text : List Char) : PropertyQuery × Bool :=
  match splitAt? ['!', '='] text with
  | some (name, value) => (.value name value, true)
  | none =>
      match (splitAt? [':'] text).or (splitAt? ['='] text) with
      | some (name, value) => (.value name value, false)
      | none => (.name text, false)

/-- Reads the property that an escape stands for, from its letter on. -/
def readProperty (start : PatternPlace) (letter : Char) (scan : Scan) :
    Reading (ClassName × Scan) := do
  let scan := scan.advance
  match scan.rest with
  | [] => Scan.fail .escapeEnd scan.spot
  | '\x7b' :: _ =>
      let (name, scan) ← readPropertyName scan.rest.length scan.advance []
      let (wanted, isUnequal) := query name.reverse
      .ok (⟨.property wanted, (letter == 'P') != isUnequal, scan.since start⟩, scan)
  | c :: _ =>
      if c = '\\' then Scan.fail .propertyName scan.here
      else
        let scan := scan.advance
        .ok (⟨.property (.name [c]), letter == 'P', scan.since start⟩, scan)

/-- The characters of the names of word boundaries. -/
def isWordLookChar (c : Char) : Bool := c.isAlpha || c == '-'

/-- Reads the name of a word boundary, in reverse. -/
def readWordLookName : Nat → Scan → List Char → List Char × Scan
  | 0, scan, name => (name, scan)
  | fuel + 1, scan, name =>
      match scan.rest with
      | [] => (name, scan)
      | c :: _ =>
          if isWordLookChar c then readWordLookName fuel scan.advance (c :: name) else (name, scan)

/-- Reads the name of a word boundary in braces, if what is in the braces can be one; the braces may
also hold a count. -/
def readWordLook (start : PatternPlace) (scan : Scan) : Reading (WordLook × Scan) :=
  if scan.rest.head? != some '\x7b' then .ok (.boundary, scan)
  else
    let inside := scan.advance
    match inside.rest with
    | [] => Scan.fail .wordLookOrCountEnd (inside.since start)
    | c :: _ =>
        if !isWordLookChar c then .ok (.boundary, scan)
        else
          let (name, after) := readWordLookName inside.rest.length inside []
          if after.rest.head? != some '\x7d' then
            Scan.fail .wordLookUnclosed (after.since scan.place)
          else match String.ofList name.reverse with
            | "start" => .ok (.start, after.bump)
            | "end" => .ok (.finish, after.bump)
            | "start-half" => .ok (.startHalf, after.bump)
            | "end-half" => .ok (.finishHalf, after.bump)
            | _ => Scan.fail .wordLookUnknown (after.since inside.place)

/-- Whether a character stands for itself behind a backslash. -/
def isEscapable (c : Char) : Bool := c.toNat < 0x80 && !c.isAlphanum && c != '<' && c != '>'

/-- The character that a letter behind a backslash stands for. -/
def control? : Char → Option Char
  | 'a' => some '\x07'
  | 'f' => some '\x0c'
  | 't' => some '\t'
  | 'n' => some '\n'
  | 'r' => some '\r'
  | 'v' => some '\x0b'
  | _ => none

/-- The class that a letter behind a backslash stands for. -/
def class? : Char → Option EscapeClass
  | 'd' | 'D' => some .digit
  | 's' | 'S' => some .blank
  | 'w' | 'W' => some .word
  | _ => none

/-- What a letter behind a backslash looks for. -/
def assertion? : Char → Option Assertion
  | 'A' => some .start
  | 'z' => some .finish
  | 'B' => some (.word .noBoundary)
  | '<' => some (.word .start)
  | '>' => some (.word .finish)
  | _ => none

/-- Reads an escape from its backslash on. -/
def read (scan : Scan) : Reading (Escape × Scan) := do
  let start := scan.place
  let scan := scan.bump
  match scan.rest with
  | [] => Scan.fail .escapeEnd (scan.since start)
  | c :: _ =>
      let after := scan.bump
      let stretch := after.since start
      if Text.isDigit c then Scan.fail .backreference stretch
      else if c = 'x' || c = 'u' || c = 'U' then
        let (found, after) ← readCodePoint start c scan
        return (.literal found, after)
      else if c = 'p' || c = 'P' then
        let (name, after) ← readProperty start c scan
        return (.named name, after)
      else if let some kind := class? c then
        return (.named ⟨.escape kind, c.isUpper, stretch⟩, after)
      else if isEscapable c then return (.literal ⟨c, false, stretch⟩, after)
      else if let some control := control? c then
        return (.literal ⟨control, false, stretch⟩, after)
      else if c = 'b' then
        let (look, after) ← readWordLook start after
        return (.assertion (.word look) (after.since start), after)
      else if let some wanted := assertion? c then return (.assertion wanted stretch, after)
      else Scan.fail .escapeUnknown stretch

end Escape

end Console
