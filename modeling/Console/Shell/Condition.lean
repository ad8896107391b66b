import Console.Shell.State

/-!
# Conditions on texts, numbers and files

A condition is a list of words with operators among them.  A word is an operator only where it can
be one: what stands alone, or on both sides of an operator for two texts, is a text.
-/

namespace Console.Shell

/-- What a condition cannot be tested for. -/
inductive ConditionFault where
  /-- There are words left after this one. -/
  | unexpected (word : Octets)
  | noArgument (operator : Octets)
  | noClosing
  | noInteger (text : Octets)
  deriving DecidableEq, Repr

/-- The wording of the fault. -/
def ConditionFault.message : ConditionFault → Octets
  | unexpected [] => "unexpected operator".toList
  | unexpected word => word ++ ": unexpected operator".toList
  | noArgument operator => operator ++ ": argument expected".toList
  | noClosing => "closing paren expected".toList
  | noInteger text => "Illegal number: ".toList ++ text

/-- What a word is in a condition. -/
inductive ConditionSymbol where
  | finish
  | operand
  | not
  | and
  | or
  | opening
  | closing
  | unary
  | binary
  deriving DecidableEq, Repr

namespace Condition

/-- The operators for one operand. -/
def unaryOperators : List String :=
  ["-r", "-w", "-x", "-e", "-f", "-d", "-c", "-b", "-p", "-u", "-g", "-k", "-s", "-t", "-z", "-n",
   "-h", "-O", "-G", "-L", "-S"]

/-- The operators for two operands. -/
def binaryOperators : List String :=
  ["=", "!=", "<", ">", "-eq", "-ne", "-ge", "-gt", "-le", "-lt", "-nt", "-ot", "-ef"]

/-- Whether a word is an operator for two operands. -/
def isBinary (word : Octets) : Bool := binaryOperators.contains (.ofList word)

/-- What a word is, given those after it. -/
def symbol : List Octets → ConditionSymbol
  | [] => .finish
  | word :: rest =>
      let text := String.ofList word
      if isBinary word then .binary
      else if text == "-a" then .and
      else if text == "-o" then .or
      else if text == ")" then .closing
      else if text == "(" then if rest.isEmpty then .operand else .opening
      else
        let isOperand :=
          match rest with
          | [] => true
          | [_] => false
          | next :: _ => isBinary next
        if text == "!" then .not
        else if unaryOperators.contains text then if isOperand then .operand else .unary
        else .operand

/-- What conditions on files are tested against. -/
structure Facts where
  /-- What a name leads to. -/
  node : Octets → Option Node
  /-- Whether a name leads to a file that can be run, or to a directory. -/
  canRun : Octets → Bool
  /-- Whether two names lead to one file. -/
  isSame : Octets → Octets → Bool
  /-- When what a name leads to was changed last. -/
  time : Octets → Option Int

/-- Tests an operand for an operator. -/
def unary (facts : Facts) (operator operand : Octets) : Except ConditionFault Bool :=
  let node := facts.node operand
  match String.ofList operator with
  | "-z" => .ok operand.isEmpty
  | "-n" => .ok !operand.isEmpty
  | "-t" =>
      match count? operand with
      | some _ => .ok false
      | none => .error (.noInteger operand)
  | "-r" | "-w" | "-e" | "-O" | "-G" => .ok node.isSome
  | "-x" => .ok (facts.canRun operand)
  | "-d" => .ok (node == some .directory)
  | "-c" => .ok (node == some .sink)
  | "-f" => .ok (match node with | some (.file _) => true | _ => false)
  | "-s" =>
      .ok (match node with
        | some (.file content) => !content.isEmpty
        | some .directory => true
        | _ => false)
  | _ => .ok false

/-- Compares two integers. -/
def compared (relation : Int64 → Int64 → Bool) (left right : Octets) :
    Except ConditionFault Bool :=
  match integer? false left, integer? false right with
  | some left, some right => .ok (relation left right)
  | none, _ => .error (.noInteger left)
  | _, none => .error (.noInteger right)

/-- Whether a file was changed after another one; both have to be there. -/
def isNewer (facts : Facts) (left right : Octets) : Bool :=
  match facts.time left, facts.time right with
  | some left, some right => right < left
  | _, _ => false

/-- Tests two operands for an operator. -/
def binary (facts : Facts) (operator left right : Octets) : Except ConditionFault Bool :=
  match String.ofList operator with
  | "=" => .ok (left == right)
  | "!=" => .ok (left != right)
  | "<" => .ok (Octets.isBefore left right && left != right)
  | ">" => .ok (Octets.isBefore right left && left != right)
  | "-eq" => compared (· == ·) left right
  | "-ne" => compared (· != ·) left right
  | "-ge" => compared (fun left right => right ≤ left) left right
  | "-gt" => compared (fun left right => right < left) left right
  | "-le" => compared (fun left right => left ≤ right) left right
  | "-lt" => compared (fun left right => left < right) left right
  | "-ef" => .ok (facts.isSame left right)
  | "-nt" => .ok (isNewer facts left right)
  | "-ot" => .ok (isNewer facts right left)
  | _ => .ok false

/-- What is to be tested. -/
inductive Level where
  | disjunction
  | conjunction
  | negation
  | primary
  deriving DecidableEq, Repr

/-- The truth of the condition of a level at the beginning of words, and the words after it.  The
number bounds how deep conditions are in one another. -/
def test (facts : Facts) : Nat → Level → List Octets → Except ConditionFault (Bool × List Octets)
  | 0, _, words => .ok (false, words)
  | fuel + 1, .disjunction, words => do
      let (first, rest) ← test facts fuel .conjunction words
      if symbol rest = .or then
        let (second, rest) ← test facts fuel .disjunction rest.tail
        .ok (first || second, rest)
      else .ok (first, rest)
  | fuel + 1, .conjunction, words => do
      let (first, rest) ← test facts fuel .negation words
      if symbol rest = .and then
        let (second, rest) ← test facts fuel .conjunction rest.tail
        .ok (first && second, rest)
      else .ok (first, rest)
  | fuel + 1, .negation, words =>
      if symbol words = .not then do
        let (holds, rest) ← test facts fuel .negation words.tail
        .ok (!holds, rest)
      else test facts fuel .primary words
  | fuel + 1, .primary, words =>
      match symbol words, words with
      | .finish, _ => .ok (false, [])
      | .opening, _ :: rest =>
          if symbol rest = .closing then .ok (false, rest.tail)
          else do
            let (holds, rest) ← test facts fuel .disjunction rest
            if symbol rest = .closing then .ok (holds, rest.tail) else .error .noClosing
      | .unary, operator :: operand :: rest => do .ok (← unary facts operator operand, rest)
      | .unary, operator :: [] => .error (.noArgument operator)
      | _, operand :: rest =>
          match symbol rest, rest with
          | .binary, operator :: right :: rest => do
              .ok (← binary facts operator operand right, rest)
          | .binary, [operator] => .error (.noArgument operator)
          | _, rest => .ok (!operand.isEmpty, rest)
      | _, [] => .ok (false, [])

/-- The truth of a condition that is not one of the short forms. -/
def general (facts : Facts) (words : List Octets) : Except ConditionFault Bool := do
  let (holds, rest) ← test facts (4 * words.length + 4) .disjunction words
  if rest.isEmpty then .ok holds
  else .error (.unexpected (words[words.length - rest.length - 1]?.getD []))

/-- The truth of a condition.  Of three words the one in the middle is the operator if it can be
one; an exclamation mark in front of up to three words negates their condition, and parentheses
around up to two make no difference. -/
def holds (facts : Facts) : List Octets → Except ConditionFault Bool
  | [] => .ok false
  | [left, operator, right] =>
      if isBinary operator then binary facts operator left right
      else if left = ['('] && right = [')'] then general facts [operator]
      else if left = ['!'] then (holds facts [operator, right]).map (!·)
      else general facts [left, operator, right]
  | [first, second, third, fourth] =>
      if first = ['('] && fourth = [')'] then general facts [second, third]
      else if first = ['!'] then (holds facts [second, third, fourth]).map (!·)
      else general facts [first, second, third, fourth]
  | words => general facts words

end Condition

end Console.Shell
