import Console.Text.Decimal
import Console.Text.Lines

/-!
# Numbered lines

Lines with their numbers in front, the numbers in a column as wide as the last one.
-/

namespace Console

/-- The colours of the console's output. -/
inductive Colour where
  | red
  | blue
  | cyan
  deriving DecidableEq, Repr

namespace Colour

/-- The code that switches a colour on. -/
def code : Colour → String
  | red => "31"
  | blue => "34"
  | cyan => "36"

/-- A text in a colour. -/
def paint (colour : Colour) (text : String) : String :=
  "\x1b[" ++ colour.code ++ "m" ++ text ++ "\x1b[39m"

/-- A text in a colour if colours are wanted. -/
def paintIf (wanted : Bool) (colour : Colour) (text : String) : String :=
  if wanted then colour.paint text else text

end Colour

/-- A line behind its number, which stands at the right of a column. -/
def numberedLine (colours : Bool) (width number : Nat) (line : String) : String :=
  Colour.blue.paintIf colours (natColumn width number) ++ ": " ++ line

/-- Lines with their numbers in front; the column is as wide as the last number. -/
def numberedLines (colours : Bool) (entries : List (Nat × String)) : String :=
  let width :=
    match entries.getLast? with
    | some (number, _) => (Text.natDigits number).length
    | none => 1
  joinWith "\n" (entries.map fun (number, line) => numberedLine colours width number line)

end Console
