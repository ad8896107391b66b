import Console.Shell.Glob

/-!
# Fields

What words come to is cut into fields at the characters that separate fields.  Blanks among them
count together and not at the ends; every other separator ends a field of its own, if only an
empty one.
-/

namespace Console.Shell

/-- What a word comes to, piece by piece. -/
inductive Cell where
  | glyph (glyph : Glyph)
  /-- Quotes, which make a field even if nothing is in it. -/
  | quotes
  /-- The end of a field, whatever the separators are. -/
  | boundary
  deriving DecidableEq, Repr

/-- The characters that separate fields unless it is said otherwise. -/
def defaultSeparators : Octets := [' ', '\t', '\n']

/-- Whether a separator is a blank. -/
def isBlankSeparator (c : Char) : Bool := c = ' ' || c = '\t' || c = '\n'

/-- The fields so far, newest first, the field that is growing, and whether a separator that is no
blank would belong to the end of the latest field. -/
structure Fields where
  done : List (List Glyph) := []
  growing : Option (List Glyph) := none
  isAfterBlank : Bool := false

namespace Fields

/-- Ends the growing field. -/
def close (fields : Fields) (isAfterBlank : Bool) : Fields :=
  match fields.growing with
  | some field => ⟨field.reverse :: fields.done, none, isAfterBlank⟩
  | none => { fields with isAfterBlank := fields.isAfterBlank && isAfterBlank }

/-- Takes up a separator. -/
def separate (fields : Fields) (c : Char) : Fields :=
  if isBlankSeparator c then fields.close true
  else if fields.growing.isSome || fields.isAfterBlank then fields.close false
  else { fields with done := [] :: fields.done }

/-- Takes up a cell. -/
def take (separators : Octets) (fields : Fields) : Cell → Fields
  | .glyph glyph =>
      if glyph.isCut && separators.contains glyph.char then fields.separate glyph.char
      else
        { fields with growing := some (glyph :: fields.growing.getD []), isAfterBlank := false }
  | .quotes => { fields with growing := some (fields.growing.getD []), isAfterBlank := false }
  | .boundary => fields.close false

/-- The fields of cells. -/
def ofCells (separators : Octets) (cells : List Cell) : List (List Glyph) :=
  ((cells.foldl (take separators) {}).close false).done.reverse

end Fields

/-- The characters of a field. -/
def textOf (glyphs : List Glyph) : Octets := glyphs.map (·.char)

/-- The characters of cells, whatever separates fields. -/
def glyphsOf (cells : List Cell) : List Glyph :=
  cells.filterMap fun cell =>
    match cell with
    | .glyph glyph => some glyph
    | .quotes => none
    | .boundary => some ⟨' ', false, false⟩

/-! ## Lines cut into a number of fields -/

/-- A line without the blank separators at its beginning. -/
def withoutLeading (separators : Octets) (line : List Glyph) : List Glyph :=
  line.dropWhile fun glyph =>
    glyph.isCut && separators.contains glyph.char && isBlankSeparator glyph.char

/-- Whether a character separates fields. -/
def separates (separators : Octets) (glyph : Glyph) : Bool :=
  glyph.isCut && separators.contains glyph.char

/-- The first field of a line, and the line after the separators that end it. -/
def firstField (separators : Octets) (line : List Glyph) : List Glyph × List Glyph :=
  let line := withoutLeading separators line
  let field := line.takeWhile (!separates separators ·)
  let rest := withoutLeading separators (line.drop field.length)
  match rest with
  | [] => (field, [])
  | glyph :: after =>
      let isEnd := separates separators glyph && !isBlankSeparator glyph.char
      (field, if isEnd then withoutLeading separators after else rest)

/-- The rest of a line as one field: a single field loses its separator, and several keep all but
the blanks at the end. -/
def lastField (separators : Octets) (line : List Glyph) : List Glyph :=
  let (field, rest) := firstField separators line
  if rest.isEmpty then field
  else (withoutLeading separators (withoutLeading separators line).reverse).reverse

/-- The fields of a line, `count` of them; the last one is all that is left. -/
def fieldsOfLine (separators : Octets) : (count : Nat) → List Glyph → List (List Glyph)
  | 0, _ => []
  | 1, line => [lastField separators line]
  | count + 1, line =>
      let (field, rest) := firstField separators line
      field :: fieldsOfLine separators count rest

end Console.Shell
