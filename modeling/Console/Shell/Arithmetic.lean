import Console.Shell.Number
import Console.Shell.Script

/-!
# Arithmetic in scripts

Expressions over words of 64 bits, with names for the values of parameters and assignments to
them.  What is not needed for the value of an expression is not evaluated.  An expression that is
not written as it should be has a value up to the place where it goes wrong: what is at fault in
front of that place comes first.
-/

namespace Console.Shell

/-- An operator between two operands. -/
inductive SumOperator where
  | times | quotient | remainder | plus | minus | shiftLeft | shiftRight
  | less | lessOrEqual | greater | greaterOrEqual | equal | unequal
  | bitAnd | bitXor | bitOr | both | either
  deriving DecidableEq, Repr

/-- An operator in front of its operand. -/
inductive SumSign where
  | negative
  | negation
  | complement
  deriving DecidableEq, Repr

/-- What keeps an expression from having a value. -/
inductive SumFault where
  | noOperand
  | noParenthesis
  | noColon
  | noEnd
  | divisionByZero
  /-- A quotient that no word can hold. -/
  | overflow
  /-- The value of a parameter is no integer. -/
  | noInteger (text : Octets)
  deriving DecidableEq, Repr

/-- An arithmetic expression. -/
inductive Sum where
  | number (value : Int64)
  | named (name : Octets)
  | signed (sign : SumSign) (operand : Sum)
  | binary (operator : SumOperator) (left right : Sum)
  | conditional (condition accepted rejected : Sum)
  /-- Gives a parameter a value, or what an operator makes of its value and another one. -/
  | assigned (name : Octets) (operator : Option SumOperator) (value : Sum)
  /-- An expression after which something is missing. -/
  | broken (front : Sum) (fault : SumFault)
  deriving Repr

namespace SumFault

/-- The wording of the fault in an expression. -/
def message (expression : Octets) (fault : SumFault) : Octets :=
  let about (text : String) : Octets :=
    ("arithmetic expression: " ++ text ++ ": \"").toList ++ expression ++ ['"']
  match fault with
  | noOperand => about "expecting primary"
  | noParenthesis => about "expecting ')'"
  | noColon => about "expecting ':'"
  | noEnd => about "expecting EOF"
  | divisionByZero => about "division by zero"
  | overflow => about "overflow"
  | noInteger text => "Illegal number: ".toList ++ text

end SumFault

namespace SumOperator

/-- Operators that bind more loosely have a greater rank. -/
def rank : SumOperator → Nat
  | times | quotient | remainder => 0
  | plus | minus => 1
  | shiftLeft | shiftRight => 2
  | less | lessOrEqual | greater | greaterOrEqual => 3
  | equal | unequal => 4
  | bitAnd => 5
  | bitXor => 6
  | bitOr => 7
  | both => 8
  | either => 9

/-- The operators as they are written, the longer ones first. -/
def spellings : List (String × SumOperator) :=
  [("<<", shiftLeft), (">>", shiftRight), ("<=", lessOrEqual), (">=", greaterOrEqual),
   ("==", equal), ("!=", unequal), ("&&", both), ("||", either), ("*", times), ("/", quotient),
   ("%", remainder), ("+", plus), ("-", minus), ("<", less), (">", greater), ("&", bitAnd),
   ("^", bitXor), ("|", bitOr)]

/-- The truth of a condition as an integer. -/
def truth (holds : Bool) : Int64 := if holds then 1 else 0

/-- What an operator makes of two integers. -/
def apply (operator : SumOperator) (left right : Int64) : Except SumFault Int64 :=
  match operator with
  | times => .ok (left * right)
  | quotient =>
      if right = 0 then .error .divisionByZero
      else if left = Int64.minValue && right = -1 then .error .overflow
      else .ok (left / right)
  | remainder =>
      if right = 0 then .error .divisionByZero
      else if left = Int64.minValue && right = -1 then .error .overflow
      else .ok (left % right)
  | plus => .ok (left + right)
  | minus => .ok (left - right)
  | shiftLeft => .ok (left <<< right)
  | shiftRight => .ok (left >>> right)
  | less => .ok (truth (left < right))
  | lessOrEqual => .ok (truth (left ≤ right))
  | greater => .ok (truth (right < left))
  | greaterOrEqual => .ok (truth (right ≤ left))
  | equal => .ok (truth (left == right))
  | unequal => .ok (truth (left != right))
  | bitAnd => .ok (left &&& right)
  | bitXor => .ok (left ^^^ right)
  | bitOr => .ok (left ||| right)
  | both => .ok (truth (left != 0 && right != 0))
  | either => .ok (truth (left != 0 || right != 0))

end SumOperator

/-! ## Reading expressions -/

/-- The symbols of expressions. -/
inductive SumSymbol where
  | number (value : Int64)
  | name (name : Octets)
  | operator (operator : SumOperator)
  | assign (operator : Option SumOperator)
  | negation
  | complement
  | opening
  | closing
  | question
  | colon
  /-- A character that means nothing. -/
  | other
  deriving DecidableEq, Repr

namespace SumSymbol

/-- An operator at the beginning of a text, or an assignment with it. -/
def operator? (text : Octets) : Option (SumSymbol × Octets) :=
  (SumOperator.spellings.find? fun (spelling, _) => spelling.toList.isPrefixOf text).map
    fun (spelling, found) =>
      let rest := text.drop spelling.length
      match rest with
      | '=' :: after =>
          if found.rank = 3 || found.rank = 4 || 8 ≤ found.rank then (operator found, rest)
          else (assign (some found), after)
      | rest => (operator found, rest)

/-- The symbols of a text; the number is that of its characters. -/
def all : Nat → Octets → List SumSymbol
  | 0, _ | _, [] => []
  | fuel + 1, c :: rest =>
      if c = ' ' || c = '\t' || c = '\n' then all fuel rest
      else if isDigit c then
        match integerFront? true (c :: rest) with
        | some front => .number front.value :: all fuel front.rest
        | none => [.other]
      else if isNameStart c then
        let name := (c :: rest).takeWhile isNameChar
        .name name :: all fuel ((c :: rest).dropWhile isNameChar)
      else
        match operator? (c :: rest) with
        | some (symbol, rest) => symbol :: all fuel rest
        | none =>
            let symbol :=
              if c = '=' then assign none
              else if c = '!' then negation
              else if c = '~' then complement
              else if c = '(' then opening
              else if c = ')' then closing
              else if c = '?' then question
              else if c = ':' then colon
              else other
            symbol :: all fuel rest

end SumSymbol

namespace Sum

/-- What has been read of an expression, and the symbols after it: none if it is broken. -/
abbrev Read := Sum × Option (List SumSymbol)

/-- Goes on with the symbols after what has been read. -/
def Read.andThen (read : Read) (next : Sum → List SumSymbol → Read) : Read :=
  match read with
  | (sum, some rest) => next sum rest
  | (sum, none) => (sum, none)

/-- What has been read, as a part of an expression. -/
def Read.map (read : Read) (whole : Sum → Sum) : Read := (whole read.1, read.2)

/-- Reads the operators after a first operand that bind at least as tightly as a rank.  The first
number bounds the number of operators, and `operand` reads an operand up to operators of a rank. -/
def operators (operand : Nat → List SumSymbol → Read) (rank : Nat) :
    Nat → Sum → List SumSymbol → Read
  | fuel + 1, left, .operator operator :: rest =>
      if operator.rank < rank then
        match operand operator.rank rest with
        | (right, none) => (.binary operator left right, none)
        | (right, some rest) => operators operand rank fuel (.binary operator left right) rest
      else (left, some (.operator operator :: rest))
  | _, left, rest => (left, some rest)

/-- What is to be read. -/
inductive Level where
  /-- An assignment, or anything else. -/
  | assignment
  /-- A conditional expression, or anything that binds more tightly. -/
  | conditional
  /-- Operands with operators of less than a rank. -/
  | below (rank : Nat)
  | primary
  deriving DecidableEq, Repr

/-- Reads an expression of a level; the first argument bounds how deep expressions are in one
another. -/
def read : Nat → Level → List SumSymbol → Read
  | 0, _, _ => (.broken (.number 0) .noOperand, none)
  | fuel + 1, .assignment, symbols =>
      match symbols with
      | .name name :: .assign operator :: rest =>
          (read fuel .assignment rest).map (.assigned name operator)
      | symbols => read fuel .conditional symbols
  | fuel + 1, .conditional, symbols =>
      (read fuel (.below 10) symbols).andThen fun condition rest =>
        match rest with
        | .question :: rest =>
            match read fuel .assignment rest with
            | (accepted, some (.colon :: rest)) =>
                (read fuel .conditional rest).map (.conditional condition accepted)
            | (accepted, some _) =>
                (.conditional condition accepted (.broken (.number 0) .noColon), none)
            | (accepted, none) => (.conditional condition accepted (.number 0), none)
        | rest => (condition, some rest)
  | fuel + 1, .below rank, symbols =>
      (read fuel .primary symbols).andThen fun first rest =>
        operators (fun rank => read fuel (.below rank)) rank symbols.length first rest
  | fuel + 1, .primary, symbols =>
      match symbols with
      | .number value :: rest => (.number value, some rest)
      | .name name :: rest => (.named name, some rest)
      | .opening :: rest =>
          (read fuel .assignment rest).andThen fun inner rest =>
            match rest with
            | .closing :: rest => (inner, some rest)
            | _ => (.broken inner .noParenthesis, none)
      | .operator .plus :: rest => read fuel .primary rest
      | .operator .minus :: rest => (read fuel .primary rest).map (.signed .negative)
      | .negation :: rest => (read fuel .primary rest).map (.signed .negation)
      | .complement :: rest => (read fuel .primary rest).map (.signed .complement)
      | _ => (.broken (.number 0) .noOperand, none)

/-- The expression that a text is. -/
def ofOctets (text : Octets) : Sum :=
  let symbols := SumSymbol.all text.length text
  match read (5 * symbols.length + 5) .assignment symbols with
  | (sum, some (_ :: _)) => .broken sum .noEnd
  | (sum, _) => sum

/-! ## Values -/

/-- The parameters that have been given values, the latest first. -/
abbrev Assigned := List (Octets × Int64)

/-- The value of a parameter; one that is missing or blank is zero. -/
def valueOf (lookUp : Octets → Option Octets) (given : Assigned) (name : Octets) :
    Except SumFault Int64 :=
  match given.lookup name with
  | some value => .ok value
  | none =>
      let text := (lookUp name).getD []
      if text.all isNumberBlank then .ok 0
      else
        match integer? true text with
        | some value => .ok value
        | none => .error (.noInteger text)

/-- The value of an expression, and the parameters that it has given values.  An expression that is
idle has no value that counts, and is at fault only where it is broken. -/
def value (lookUp : Octets → Option Octets) :
    Sum → (isIdle : Bool) → Assigned → Except SumFault (Int64 × Assigned)
  | number value, _, given => .ok (value, given)
  | named name, isIdle, given =>
      if isIdle then .ok (0, given) else (valueOf lookUp given name).map (·, given)
  | signed sign operand, isIdle, given => do
      let (value, given) ← operand.value lookUp isIdle given
      match sign with
      | .negative => .ok (-value, given)
      | .negation => .ok (SumOperator.truth (value == 0), given)
      | .complement => .ok (~~~value, given)
  | binary operator left right, isIdle, given => do
      let (first, given) ← left.value lookUp isIdle given
      let isSettled : Bool :=
        (operator = .both && first = 0) || (operator = .either && first ≠ 0)
      let (second, given) ← right.value lookUp (isIdle || isSettled) given
      if isIdle then .ok (0, given)
      else if isSettled then .ok (SumOperator.truth (operator = .either), given)
      else (operator.apply first second).map (·, given)
  | conditional condition accepted rejected, isIdle, given => do
      let (holds, given) ← condition.value lookUp isIdle given
      let (first, given) ← accepted.value lookUp (isIdle || holds = 0) given
      let (second, given) ← rejected.value lookUp (isIdle || holds ≠ 0) given
      .ok (if holds = 0 then second else first, given)
  | assigned name operator operand, isIdle, given => do
      let (value, given) ← operand.value lookUp isIdle given
      if isIdle then .ok (value, given)
      else
        match operator with
        | none => .ok (value, (name, value) :: given)
        | some operator =>
            let old ← valueOf lookUp given name
            let value ← operator.apply old value
            .ok (value, (name, value) :: given)
  | broken front fault, isIdle, given => do
      let _ ← front.value lookUp isIdle given
      .error fault

end Sum

end Console.Shell
