import Console.Text.Blank
import Console.Text.Classes
import Console.Text.Decimal
import Console.Text.Quoted
import Console.Text.Shortest

/-!
# Tokens of the expression language

The words an expression is written with, and what can go wrong between reading a text and
having its value.
-/

namespace Console

/-- The symbols of the expression language. -/
inductive Symbol where
  | plus
  | minus
  | times
  | slash
  | openParen
  | closeParen
  | openBracket
  | closeBracket
  | comma
  | equals
  | semicolon
  deriving DecidableEq, Repr

namespace Symbol

/-- The character a symbol is written as. -/
def char : Symbol → Char
  | plus => '+'
  | minus => '-'
  | times => '*'
  | slash => '/'
  | openParen => '('
  | closeParen => ')'
  | openBracket => '['
  | closeBracket => ']'
  | comma => ','
  | equals => '='
  | semicolon => ';'

/-- The symbol a character is. -/
def ofChar? : Char → Option Symbol
  | '+' => some plus
  | '-' => some minus
  | '*' => some times
  | '/' => some slash
  | '(' => some openParen
  | ')' => some closeParen
  | '[' => some openBracket
  | ']' => some closeBracket
  | ',' => some comma
  | '=' => some equals
  | ';' => some semicolon
  | _ => none

@[simp] theorem ofChar?_char (symbol : Symbol) : ofChar? symbol.char = some symbol := by
  cases symbol <;> rfl

end Symbol

/-- A token: a literal, a name or a symbol. -/
inductive Token where
  | int (value : Int64)
  | float (value : Float)
  | string (text : String)
  | name (text : String)
  | symbol (sign : Symbol)
  deriving Repr

namespace Token

/-- A token as it is named in an error. -/
def text : Token → String
  | .int value => "`" ++ integerText value ++ "`"
  | .float value => "`" ++ floatText value ++ "`"
  | .string text => "`" ++ quotedText text ++ "`"
  | .name text => "`" ++ text ++ "`"
  | .symbol sign => "`" ++ String.singleton sign.char ++ "`"

/-- Whether a token is the semicolon between two statements. -/
def isSemicolon : Token → Bool
  | .symbol .semicolon => true
  | _ => false

end Token

/-- The arithmetic operators. -/
inductive Operator where
  | add
  | subtract
  | multiply
  | divide
  deriving DecidableEq, Repr

namespace Operator

/-- The symbol an operator is written as. -/
def symbol : Operator → Symbol
  | add => .plus
  | subtract => .minus
  | multiply => .times
  | divide => .slash

end Operator

/-- Why a text has no value. -/
inductive EvalError where
  | unterminatedString
  | invalidNumber (text : String)
  | literalTooLarge (text : String)
  | unexpectedCharacter (character : Char)
  | unexpectedToken (token : Token)
  | unexpectedEnd
  /-- A symbol was needed where another token, or the end of the input, was found. -/
  | expected (symbol : Symbol) (found : Option Token)
  | undefinedVariable (name : String)
  | overflow
  | divisionByZero
  | operandTypes (operator : Operator) (left right : String)
  | operandType (type : String)
  /-- An error that a command states in words of its own. -/
  | stated (kind message : String) (location : Option String)
  deriving Repr

namespace EvalError

/-- The kind of an error. -/
def kind : EvalError → String
  | unterminatedString | invalidNumber _ | unexpectedCharacter _ | unexpectedToken _
  | unexpectedEnd | expected .. => "SyntaxError"
  | literalTooLarge _ | overflow => "RangeError"
  | undefinedVariable _ => "NameError"
  | divisionByZero => "ZeroDivisionError"
  | operandTypes .. | operandType _ => "TypeError"
  | stated kind .. => kind

/-- The wording of an error. -/
def message : EvalError → String
  | unterminatedString => "unterminated string"
  | invalidNumber text => "invalid number `" ++ text ++ "`"
  | literalTooLarge text => "integer literal `" ++ text ++ "` is too large"
  | unexpectedCharacter character =>
      "unexpected character `" ++ String.singleton character ++ "`"
  | unexpectedToken token => "unexpected " ++ token.text
  | unexpectedEnd => "unexpected end of input"
  | expected symbol found =>
      "expected `" ++ String.singleton symbol.char ++ "`, found " ++
        match found with
        | some token => token.text
        | none => "end of input"
  | undefinedVariable name => "undefined local variable `" ++ name ++ "`"
  | overflow => "integer overflow"
  | divisionByZero => "divided by 0"
  | operandTypes operator left right =>
      "unsupported operand types for " ++ String.singleton operator.symbol.char ++ ": " ++ left ++
        " and " ++ right
  | operandType type => "bad operand type for unary -: " ++ type
  | stated _ message _ => message

/-- Where an error arose, if that is known. -/
def location : EvalError → Option String
  | stated _ _ location => location
  | _ => none

/-- The kind and the wording of an error on one line. -/
def text (error : EvalError) : String := error.kind ++ ": " ++ error.message

end EvalError

end Console
