import Console.Calculator.Token
import Console.Numbering
import Console.Value

/-!
# Prompts and printed results

A prompt shows what a session is about and how deep it is nested, and whether an expression has
begun.  For the outcome of an evaluation its value is written, or what is wrong.
-/

namespace Console

/-- The prompt for a new expression, and the one for its further lines; each is made from the
target of the session and its level. -/
structure Prompts where
  first : Value → Nat → String
  continuation : Value → Nat → String

namespace Prompts

/-- A name, the target in parentheses, the level of a nested session, and a mark. -/
def render (name : String) (mark : Char) (target : Value) (level : Nat) : String :=
  name ++ "(" ++ target.inspect ++ ")" ++ (if level = 0 then "" else ":" ++ natText level) ++
    String.singleton mark ++ " "

/-- The prompts that show a name. -/
def standard (name : String) : Prompts where
  first := render name '>'
  continuation := render name '*'

end Prompts

/-- A value after an arrow, or an error with its kind and, if that is known, its place. -/
def resultText (colours : Bool) : Except EvalError Value → String
  | .ok value => "=> " ++ Colour.cyan.paintIf colours value.inspect ++ "\n"
  | .error error =>
      Colour.red.paintIf colours error.kind ++ ": " ++ error.message ++ "\n" ++
        match error.location with
        | some location => "from " ++ location ++ "\n"
        | none => ""

end Console
