import Console.Pattern.Fault
import Console.Text.Blank

/-!
# Going through a pattern

What is left of a pattern, and where in the pattern that is.  Under a flag, blank characters and
comments between the pieces of a pattern are skipped; a comment goes from a number sign to the end
of its line.
-/

namespace Console

/-- What is left of a pattern, its place in the pattern, and whether blanks are skipped. -/
structure Scan where
  rest : List Char
  place : PatternPlace := {}
  ignoreBlank : Bool := false

/-- A value, or the first mistake in a pattern. -/
abbrev Reading (α : Type) := Except PatternMistake α

namespace Scan

variable {α : Type}

/-- Whether nothing is left. -/
def atEnd (scan : Scan) : Bool := scan.rest.isEmpty

/-- The stretch of the next character. -/
def here (scan : Scan) : Stretch :=
  match scan.rest with
  | [] => ⟨scan.place, scan.place⟩
  | c :: _ => ⟨scan.place, scan.place.after c⟩

/-- The empty stretch before the next character. -/
def spot (scan : Scan) : Stretch := ⟨scan.place, scan.place⟩

/-- The stretch from an earlier place. -/
def since (scan : Scan) (start : PatternPlace) : Stretch := ⟨start, scan.place⟩

/-- Reports a fault in a stretch. -/
def fail (fault : PatternFault) (stretch : Stretch) : Reading α := .error { fault, stretch }

/-- The remainder after the next character. -/
def bump (scan : Scan) : Scan :=
  match scan.rest with
  | [] => scan
  | c :: rest => { scan with rest, place := scan.place.after c }

/-- The remainder after blanks and comments. -/
def pastBlanks : Bool → PatternPlace → List Char → List Char × PatternPlace
  | _, place, [] => ([], place)
  | true, place, c :: rest => pastBlanks (c != '\n') (place.after c) rest
  | false, place, c :: rest =>
      if Text.isBlank c then pastBlanks false (place.after c) rest
      else if c = '#' then pastBlanks true (place.after c) rest
      else (c :: rest, place)

/-- The remainder after blanks and comments, if these are skipped. -/
def skipBlanks (scan : Scan) : Scan :=
  if scan.ignoreBlank then
    let (rest, place) := pastBlanks false scan.place scan.rest
    { scan with rest, place }
  else scan

/-- The remainder after the next character and the blanks behind it. -/
def advance (scan : Scan) : Scan := scan.bump.skipBlanks

/-- The remainder after a text that comes next. -/
def after? (scan : Scan) (text : String) : Option Scan :=
  if text.toList.isPrefixOf scan.rest then some (text.toList.foldl (fun scan _ => scan.bump) scan)
  else none

/-- The remainder after the characters of a kind that come next, and these characters. -/
def takeWhile (scan : Scan) (accepts : Char → Bool) : List Char × Scan :=
  let taken := scan.rest.takeWhile accepts
  (taken, taken.foldl (fun scan _ => scan.bump) scan)

/-- The character after the next one and after blanks, if these are skipped.  The first character of
a comment counts as one that is there. -/
def peek? (scan : Scan) : Option Char :=
  let later := scan.rest.tail
  if scan.ignoreBlank then
    let isVisible := fun c => !Text.isBlank c
    match later.find? isVisible with
    | some '#' =>
        match (later.dropWhile Text.isBlank).tail.find? isVisible with
        | some c => some c
        | none => later.head?
    | some c => some c
    | none => later.head?
  else later.head?

end Scan

end Console
