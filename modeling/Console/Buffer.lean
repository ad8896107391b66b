import Console.Range
import Console.Numbering

/-!
# The expression buffer

The lines of an expression that is not complete yet.  The buffer is a text, and it can be
amended line by line; a text that is put into it gets the newline it may lack at its end.
-/

namespace Console

/-- A text that waits to be evaluated. -/
structure Buffer where
  text : String := ""
  deriving DecidableEq, Repr

/-- What amending did to the lines of a buffer. -/
inductive Amended where
  | replaced
  | deleted
  | nothing
  deriving DecidableEq, Repr

/-- A range that selects no lines of a buffer with that many lines. -/
structure OutOfRange where
  range : LineRange
  count : Nat
  deriving DecidableEq, Repr

namespace Buffer

/-- Nothing waits. -/
def empty : Buffer := ⟨""⟩

/-- Whether nothing waits. -/
def isEmpty (buffer : Buffer) : Bool := buffer.text.isEmpty

/-- Whether the text is blank. -/
def isBlank (buffer : Buffer) : Bool := isBlankText buffer.text

/-- Adds a line. -/
def push (buffer : Buffer) (line : String) : Buffer := ⟨buffer.text ++ line ++ "\n"⟩

/-- A buffer with the given text, which ends in a newline unless it is empty. -/
def ofText (text : String) : Buffer :=
  match text.toList.getLast? with
  | none => empty
  | some c => if c = '\n' then ⟨text⟩ else ⟨text ++ "\n"⟩

/-- The lines, each with its newline. -/
def lines (buffer : Buffer) : List String := (Text.pieces buffer.text.toList).map .ofList

/-- The buffer with the given lines, which bring their newlines with them. -/
def ofLines (lines : List String) : Buffer := ⟨String.join lines⟩

/-- The number of lines. -/
def count (buffer : Buffer) : Nat := buffer.lines.length

/-- The replacement text that deletes lines instead. -/
def deletion : String := "!"

/-- Replaces the lines of a range by one line, or deletes them.  There is nothing to amend in an
empty buffer, and in any other all lines of the range have to be there. -/
def amend (buffer : Buffer) (range : LineRange) (base : IndexBase) (replacement : String) :
    Except OutOfRange (Amended × Buffer) :=
  if buffer.isEmpty then .ok (.nothing, buffer)
  else
    let lines := buffer.lines
    match range.resolve lines.length base with
    | none => .error ⟨range, lines.length⟩
    | some span =>
        let before := lines.take span.first
        let after := lines.drop span.last
        if replacement = deletion then .ok (.deleted, ofLines (before ++ after))
        else .ok (.replaced, ofLines (before ++ (replacement ++ "\n") :: after))

/-- The lines with their numbers in front.  The column has room for the number after the last
line's. -/
def numbered (buffer : Buffer) (base : IndexBase) : String :=
  let lines := buffer.lines
  let width := (Text.natDigits (lines.length + base.first)).length
  joinWith "\n" <| lines.zipIdx base.first |>.map fun (line, number) =>
    numberedLine false width number (withoutFinalNewlines line)

end Buffer

end Console
