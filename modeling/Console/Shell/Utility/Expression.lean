import Console.Shell.Utility.Basic
import Console.Shell.Utility.Pattern

/-!
# Expressions of words

Expressions in which every operand and every operator is a word of its own.  A value is a text,
which counts as a number if it is spelled like one, however great it is.  `Expression.value` works
an expression out; what is not needed for its value is read only.
-/

namespace Console.Shell

namespace Expression

/-- What is wrong with an expression. -/
inductive Fault where
  | noArgument (after : Octets)
  | unexpected (word : Octets)
  | openAfter (word : Octets)
  | noClosing (word : Octets)
  | strayClosing
  | noInteger
  | zeroDivisor
  | pattern (fault : LinePattern.Fault)
  deriving DecidableEq, Repr

/-- The wording of the fault. -/
def Fault.message : Fault → String
  | noArgument after => "syntax error: missing argument after '" ++ Octets.toText after ++ "'"
  | unexpected word => "syntax error: unexpected argument '" ++ Octets.toText word ++ "'"
  | openAfter word => "syntax error: expecting ')' after '" ++ Octets.toText word ++ "'"
  | noClosing word => "syntax error: expecting ')' instead of '" ++ Octets.toText word ++ "'"
  | strayClosing => "syntax error: unexpected ')'"
  | noInteger => "non-integer argument"
  | zeroDivisor => "division by zero"
  | pattern fault => fault.message

/-- The words of an expression that have not been read, and the one before them. -/
structure Words where
  previous : Octets := []
  rest : List Octets
  deriving DecidableEq, Repr

/-- The next word, and the words after it. -/
def Words.next? (words : Words) : Option (Octets × Words) :=
  match words.rest with
  | [] => none
  | word :: rest => some (word, ⟨word, rest⟩)

/-- What is read of an expression, unless it is faulty: a value, and the words after it. -/
abbrev Reading := Except Fault (Octets × Words)

/-- The integer that a text spells. -/
def integer? (text : Octets) : Option Int :=
  let digits := if text.head? = some '-' then text.drop 1 else text
  match digitsOf 10 digits with
  | (_, 0, _) => none
  | (value, _, []) => some (if text.head? = some '-' then -value else value)
  | _ => none

/-- Whether a text counts as nothing: it is empty, or a number that is zero. -/
def isNothing (text : Octets) : Bool :=
  text.isEmpty ||
    (let digits := if text.head? = some '-' then text.drop 1 else text
     !digits.isEmpty && digits.all (· == '0'))

/-- The text of a truth value. -/
def truth (holds : Bool) : Octets := if holds then ['1'] else ['0']

/-- What a pattern matches at the beginning of a text: the text of its group, or if it has none the
length. -/
def matched (text pattern : Octets) : Except Fault Octets :=
  match LinePattern.read {} pattern with
  | .error fault => .error (.pattern fault)
  | .ok (regex, groups) =>
      let found := LineMatch.longest? regex none text
      .ok (if groups = 0 then
        Text.intDigits ((found.map fun cursor => text.length - cursor.rest.length).getD 0 : Nat)
      else (found.bind fun cursor => cursor.groups.lookup 1).getD [])

/-- The part of a text from a place on, counted from one. -/
def part (text start length : Octets) : Octets :=
  match integer? start, integer? length with
  | some start, some length =>
      if start ≤ 0 || length ≤ 0 then [] else (text.drop (start.toNat - 1)).take length.toNat
  | _, _ => []

/-- The operators of a rank, those that bind closest first. -/
def operatorsOf : Nat → List String
  | 0 => [":"]
  | 1 => ["*", "/", "%"]
  | 2 => ["+", "-"]
  | 3 => ["=", "==", "!=", "<", "<=", ">", ">="]
  | 4 => ["&"]
  | _ => ["|"]

/-- The number of ranks of operators. -/
def rankCount : Nat := 6

/-- Whether two values compare as an operator says: as numbers if both are, and else as texts. -/
def compares (operator : String) (left right : Octets) : Bool :=
  let order : Ordering :=
    match integer? left, integer? right with
    | some left, some right => compare left right
    | _, _ =>
        if left = right then .eq else if Octets.isBefore left right then .lt else .gt
  match operator with
  | "=" | "==" => order.isEq
  | "!=" => !order.isEq
  | "<" => order.isLT
  | "<=" => order.isLE
  | ">" => order.isGT
  | _ => order.isGE

/-- What an operator makes of two numbers. -/
def calculated (operator : String) (left right : Octets) : Except Fault Octets :=
  match integer? left, integer? right with
  | some left, some right =>
      match operator with
      | "+" => .ok (Text.intDigits (left + right))
      | "-" => .ok (Text.intDigits (left - right))
      | "*" => .ok (Text.intDigits (left * right))
      | "/" => if right = 0 then .error .zeroDivisor else .ok (Text.intDigits (left.tdiv right))
      | _ => if right = 0 then .error .zeroDivisor else .ok (Text.intDigits (left.tmod right))
  | _, _ => .error .noInteger

/-- What an operator makes of two values. -/
def applied (operator : String) (left right : Octets) : Except Fault Octets :=
  match operator with
  | ":" => matched left right
  | "|" => .ok (if !isNothing left then left else if isNothing right then ['0'] else right)
  | "&" => .ok (if isNothing left || isNothing right then ['0'] else left)
  | "+" | "-" | "*" | "/" | "%" => calculated operator left right
  | operator => .ok (truth (compares operator left right))

/-- Whether the value after an operator is needed. -/
def needsRight (operator : String) (left : Octets) : Bool :=
  match operator with
  | "|" => isNothing left
  | "&" => !isNothing left
  | _ => true

/-- The value of an expression of words.  The first number bounds how deep expressions are in one
another, the second one is the number of ranks whose operators may come. -/
def expression : Nat → (rank : Nat) → (isUsed : Bool) → Words → Reading
  | 0, _, _, words => .error (.noArgument words.previous)
  | fuel + 1, 0, isUsed, words =>
      let operand (words : Words) : Reading := expression fuel 0 isUsed words
      match words.next? with
      | none => .error (.noArgument words.previous)
      | some (word, words) =>
          match String.ofList word with
          | "(" => do
              let (value, words) ← expression fuel rankCount isUsed words
              match words.next? with
              | none => .error (.openAfter words.previous)
              | some ([')'], words) => pure (value, words)
              | some (word, _) => .error (.noClosing word)
          | ")" => .error .strayClosing
          | "+" =>
              match words.next? with
              | some (word, words) => pure (word, words)
              | none => .error (.noArgument words.previous)
          | "length" => do
              let (text, words) ← operand words
              pure (Text.intDigits (text.length : Nat), words)
          | "match" => do
              let (text, words) ← operand words
              let (pattern, words) ← operand words
              if isUsed then pure (← matched text pattern, words) else pure (text, words)
          | "index" => do
              let (text, words) ← operand words
              let (chars, words) ← operand words
              let place := ((text.findIdx? chars.contains).map (· + 1)).getD 0
              pure (Text.intDigits (place : Nat), words)
          | "substr" => do
              let (text, words) ← operand words
              let (start, words) ← operand words
              let (length, words) ← operand words
              pure (part text start length, words)
          | _ => pure (word, words)
  | fuel + 1, rank + 1, isUsed, words => do
      let (first, words) ← expression fuel rank isUsed words
      go fuel rank isUsed words.rest.length first words
where
  /-- Goes on with the operators of a rank. -/
  go (fuel rank : Nat) (isUsed : Bool) : Nat → Octets → Words → Reading
    | 0, left, words => .ok (left, words)
    | bound + 1, left, words =>
        match words.next? with
        | none => .ok (left, words)
        | some (word, after) =>
            let operator := String.ofList word
            if !(operatorsOf rank).contains operator then .ok (left, words)
            else
              match fuel with
              | 0 => .error (.noArgument word)
              | fuel + 1 => do
                  let isNeeded := isUsed && needsRight operator left
                  let (right, words) ← expression fuel rank isNeeded after
                  let isApplied := if rank < 4 then isUsed else true
                  let value ← if isApplied then applied operator left right else pure left
                  go (fuel + 1) rank isUsed bound value words

/-- The value of an expression. -/
def value (words : List Octets) : Except Fault Octets := do
  match ← expression (16 * (words.length + 1)) rankCount true { rest := words } with
  | (value, ⟨_, []⟩) => pure value
  | (_, ⟨_, word :: _⟩) => .error (.unexpected word)

end Expression

namespace Utility

/-- Shows the value of an expression of words. -/
def expr : Utility := fun arguments => do
  let words := if arguments.head? = some ['-', '-'] then arguments.drop 1 else arguments
  if words.isEmpty then complainOfUse "expr" "missing operand" 2
  else
    match Expression.value words with
    | .ok value => do
        say (value ++ ['\n'])
        pure (if Expression.isNothing value then 1 else 0)
    | .error fault => complain "expr" fault.message 2

end Utility

end Console.Shell
