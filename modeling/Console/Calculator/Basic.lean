import Console.Calculator.Scanner
import Console.Calculator.Machine
import Console.Calculator.Completeness

/-!
# The calculator

A text is a sequence of statements between semicolons.  A statement is an expression, or
`let NAME = expression`, which binds the name to the value and remembers the text as its source.
Statements take effect one by one, and the first error ends the evaluation; an error in the
tokens comes before any effect.
-/

namespace Console

/-- Variables, and the sources of the names that have one. -/
structure Calculator where
  bindings : Bindings Value := .empty
  sources : Bindings String := .empty
  deriving Repr

namespace Calculator

/-- The value bound to a name. -/
def binding? (calculator : Calculator) (name : String) : Option Value :=
  calculator.bindings.get? name

/-- The source remembered for a name. -/
def source? (calculator : Calculator) (name : String) : Option String :=
  calculator.sources.get? name

/-- Remembers a text as the source of a name. -/
def defineSource (calculator : Calculator) (name source : String) : Calculator :=
  { calculator with sources := calculator.sources.insert name source }

/-- Binds a name and remembers its source. -/
def bind (calculator : Calculator) (name : String) (value : Value) (source : String) :
    Calculator where
  bindings := calculator.bindings.insert name value
  sources := calculator.sources.insert name source

/-- The runs of tokens between semicolons. -/
def statements : List Token → List (List Token)
  | [] => [[]]
  | token :: rest =>
      if token.isSemicolon then [] :: statements rest
      else match statements rest with
        | [] => [[token]]
        | statement :: more => (token :: statement) :: more

/-- What evaluations leave behind: a value or an error, and the calculator after them. -/
abbrev Evaluated := Except EvalError Value × Calculator

/-- Evaluates one statement of a source text. -/
def evaluateStatement (calculator : Calculator) (source : String) (target last : Value)
    (statement : List Token) : Evaluated :=
  let scope : Scope := ⟨calculator.bindings, target, last⟩
  match statement with
  | .name "let" :: .name name :: .symbol .equals :: expression =>
      match scope.evaluate expression with
      | .ok value => (.ok value, calculator.bind name value source)
      | .error error => (.error error, calculator)
  | _ => (scope.evaluate statement, calculator)

/-- Evaluates statements one after the other until one fails.  Empty statements are passed over,
and the value is that of the last one. -/
def evaluateStatements (source : String) (target last : Value) :
    Calculator → Value → List (List Token) → Evaluated
  | calculator, value, [] => (.ok value, calculator)
  | calculator, value, [] :: rest => evaluateStatements source target last calculator value rest
  | calculator, _, statement :: rest =>
      match calculator.evaluateStatement source target last statement with
      | (.ok value, calculator) => evaluateStatements source target last calculator value rest
      | (.error error, calculator) => (.error error, calculator)

/-- Evaluates a text; `self` is the target and `_` the last result. -/
def evaluate (calculator : Calculator) (source : String) (target last : Value) : Evaluated :=
  match tokens source.toList with
  | .error error => (.error error, calculator)
  | .ok found =>
      evaluateStatements (trimmedEnd source) target last calculator .nil (statements found)

/-- Whether a text needs no further lines. -/
def isComplete (source : String) : Bool := Console.isComplete source.toList

end Calculator

/-- What evaluations so far have shown. -/
structure Context where
  /-- The session that the last successful evaluation ran in. -/
  activeSession : Option Nat := none
  /-- The value of the last successful evaluation. -/
  lastResult : Value := .nil
  /-- The error of the last failed evaluation. -/
  lastError : Option EvalError := none
  /-- The number of evaluations, failed ones included. -/
  count : Nat := 0

namespace Context

/-- The outcome of an evaluation in a session is known; an error leaves the last result. -/
def record (context : Context) (session : Option Nat) : Except EvalError Value → Context
  | .ok value =>
      { context with activeSession := session, lastResult := value, count := context.count + 1 }
  | .error error => { context with lastError := some error, count := context.count + 1 }

end Context

end Console
