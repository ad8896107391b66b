import Console.Bindings
import Console.Calculator.Arithmetic

/-!
# Evaluating an expression

An expression is evaluated while it is read, token by token, by a machine with a stack.

    expression := term (('+' | '-') term)*
    term       := unary (('*' | '/') unary)*
    unary      := '-' unary | primary
    primary    := literal | name | '(' expression ')' | list
    list       := '[' ']' | '[' expression (',' expression)* ']'

Each frame of the stack is a piece of the expression that waits for a value: the right operand of
a sum or of a product, the operand of a sign, the inside of a group or the next item of a list.
An operation is carried out as soon as its right operand is known, so of several errors the one
that is met first from left to right is reported.
-/

namespace Console

/-- What a name in an expression may refer to. -/
structure Scope where
  bindings : Bindings Value
  /-- What `self` stands for. -/
  target : Value
  /-- What `_` stands for. -/
  last : Value

namespace Scope

/-- The value of a name. -/
def lookup (scope : Scope) (name : String) : Except EvalError Value :=
  if name = "nil" then .ok .nil
  else if name = "true" then .ok (.bool true)
  else if name = "false" then .ok (.bool false)
  else if name = "self" then .ok scope.target
  else if name = "_" then .ok scope.last
  else match scope.bindings.get? name with
    | some value => .ok value
    | none => .error (.undefinedVariable name)

end Scope

/-- A piece of an expression that waits for a value. -/
inductive Frame where
  /-- The right operand of `+` or `-`. -/
  | sum (left : Value) (operator : Operator)
  /-- The right operand of `*` or `/`. -/
  | product (left : Value) (operator : Operator)
  /-- The operand of a sign. -/
  | sign
  /-- The inside of parentheses. -/
  | group
  /-- The next item of a list, after the items read so far, newest first. -/
  | items (read : List Value)
  deriving Repr

/-- The state of the machine: the frames, innermost first, and the value they wait for, once it
is known. -/
structure Machine where
  frames : List Frame := []
  value : Option Value := none
  deriving Repr

namespace Machine

/-- An operand of a term is known: signs before it and a product that waits for it are carried
out. -/
def settle : Value → List Frame → Except EvalError Machine
  | value, .sign :: frames => do settle (← value.negate) frames
  | value, .product left operator :: frames => do
      .ok ⟨frames, some (← operator.apply left value)⟩
  | value, frames => .ok ⟨frames, some value⟩

/-- A term is complete: a sum that waits for it is carried out. -/
def reduce : Value → List Frame → Except EvalError (Value × List Frame)
  | value, .sum left operator :: frames => do .ok (← operator.apply left value, frames)
  | value, frames => .ok (value, frames)

/-- The effect of a token where an operand is expected. -/
def operand (scope : Scope) (frames : List Frame) : Token → Except EvalError Machine
  | .int value => settle (.int value) frames
  | .float value => settle (.float value) frames
  | .string text => settle (.string text) frames
  | .name name => do settle (← scope.lookup name) frames
  | .symbol .minus => .ok ⟨.sign :: frames, none⟩
  | .symbol .openParen => .ok ⟨.group :: frames, none⟩
  | .symbol .openBracket => .ok ⟨.items [] :: frames, none⟩
  | .symbol .closeBracket =>
      match frames with
      | .items [] :: frames => settle (.list []) frames
      | _ => .error (.unexpectedToken (.symbol .closeBracket))
  | token => .error (.unexpectedToken token)

/-- The effect of a token after a complete expression. -/
def close (value : Value) : List Frame → Token → Except EvalError Machine
  | .group :: frames, token =>
      match token with
      | .symbol .closeParen => settle value frames
      | token => .error (.expected .closeParen token)
  | .items read :: frames, token =>
      match token with
      | .symbol .comma => .ok ⟨.items (value :: read) :: frames, none⟩
      | .symbol .closeBracket => settle (.list (value :: read).reverse) frames
      | token => .error (.expected .comma token)
  | _, token => .error (.unexpectedToken token)

/-- The effect of a token after an operand. -/
def operation (value : Value) (frames : List Frame) : Token → Except EvalError Machine
  | .symbol .times => .ok ⟨.product value .multiply :: frames, none⟩
  | .symbol .slash => .ok ⟨.product value .divide :: frames, none⟩
  | token => do
      let (value, frames) ← reduce value frames
      match token with
      | .symbol .plus => .ok ⟨.sum value .add :: frames, none⟩
      | .symbol .minus => .ok ⟨.sum value .subtract :: frames, none⟩
      | token => close value frames token

/-- The effect of a token. -/
def step (scope : Scope) (machine : Machine) (token : Token) : Except EvalError Machine :=
  match machine.value with
  | none => operand scope machine.frames token
  | some value => operation value machine.frames token

/-- The value of the expression at its end. -/
def finish (machine : Machine) : Except EvalError Value :=
  match machine.value with
  | none => .error .unexpectedEnd
  | some value => do
      let (value, frames) ← reduce value machine.frames
      match frames with
      | .group :: _ => .error (.expected .closeParen none)
      | .items _ :: _ => .error (.expected .comma none)
      | _ => .ok value

/-- The value of the expression that the remaining tokens complete. -/
def run (scope : Scope) : Machine → List Token → Except EvalError Value
  | machine, [] => machine.finish
  | machine, token :: rest => do run scope (← machine.step scope token) rest

end Machine

/-- The value of an expression. -/
def Scope.evaluate (scope : Scope) (expression : List Token) : Except EvalError Value :=
  Machine.run scope {} expression

end Console
