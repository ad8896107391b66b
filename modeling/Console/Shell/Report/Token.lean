import Console.Shell.Number
import Console.Shell.Report.Pattern

/-!
# Symbols of report programs

A program that reports on records is read symbol by symbol.  A slash begins a pattern where an
operand may stand, and divides elsewhere; a newline is a symbol.  `Report.symbols` reads them.
-/

namespace Console.Shell.Report

/-- A symbol of a program. -/
inductive Token where
  | number (x : Float)
  | text (text : Octets)
  | pattern (source : Octets) (regex : LineRegex)
  /-- A name, and whether an opening parenthesis follows at once. -/
  | name (name : Octets) (isCalled : Bool)
  /-- A function that is always there. -/
  | builtin (name : String)
  /-- A word with a meaning of its own, an operator, a bracket or a newline. -/
  | sign (sign : String)

/-- A symbol and the number of its line. -/
structure Symbol where
  token : Token
  line : Nat

/-- What is wrong with a program. -/
structure Fault where
  line : Nat
  text : Octets

/-- What is said about a program that is faulty. -/
def Fault.message (fault : Fault) : Octets :=
  "line ".toList ++ countOctets fault.line ++ ": ".toList ++ fault.text

/-- The words that have a meaning of their own. -/
def keywords : List String :=
  ["BEGIN", "END", "function", "if", "else", "while", "for", "do", "break", "continue",
   "next", "nextfile", "exit", "return", "delete", "in", "getline", "print", "printf"]

/-- The functions that are always there. -/
def builtins : List String :=
  ["length", "substr", "index", "split", "sub", "gsub", "match", "sprintf", "sin", "cos", "atan2",
   "exp", "log", "sqrt", "int", "rand", "srand", "tolower", "toupper", "system", "close", "fflush"]

/-- The operators, longer ones before those that they begin with. -/
def operators : List String :=
  ["&&", "||", "++", "--", "+=", "-=", "*=", "/=", "%=", "^=", "==", "!=", "<=", ">=", ">>", "!~",
   "\x7b", "\x7d", "(", ")", "[", "]", ";", ",", "+", "-", "*", "/", "%", "^", "!", ">", "<", "|",
   "?", ":", "~", "$", "="]

/-- Whether an operand ends with a symbol, so that a slash after it divides. -/
def Token.endsOperand : Token → Bool
  | .number _ | .text _ | .pattern .. | .name .. => true
  | .builtin function => function = "length"
  | .sign spelling => [")", "]", "$", "++", "--"].contains spelling

/-- The text between quotes and what follows it, after the opening quote; none if it is not closed.
Lines go on after a backslash. -/
def quoted? : Octets → Option (Octets × Octets)
  | '"' :: rest => some ([], rest)
  | '\\' :: '\n' :: rest => quoted? rest
  | '\\' :: c :: rest => (quoted? rest).map fun (text, rest) => ('\\' :: c :: text, rest)
  | '\n' :: _ | [] => none
  | c :: rest => (quoted? rest).map fun (text, rest) => (c :: text, rest)

/-- The text of a pattern and what follows it, after the opening slash; none if it is not closed. -/
def slashed? (isInside : Bool) : Octets → Option (Octets × Octets)
  | '\n' :: _ | [] => none
  | '\\' :: c :: rest =>
      (slashed? isInside rest).map fun (text, rest) =>
        (if c = '/' then c :: text else '\\' :: c :: text, rest)
  | c :: rest =>
      if c = '/' && !isInside then some ([], rest)
      else
        let isInside := if c = '[' then true else if c = ']' then false else isInside
        (slashed? isInside rest).map fun (text, rest) => (c :: text, rest)

/-- Whether a name may begin with a character. -/
def isNameStart (c : Char) : Bool := c.isAlpha || c = '_'

/-- The symbols of a text; the first number bounds their number, and `endsOperand` says that an
operand stands before. -/
def symbolsFrom : Nat → (line : Nat) → (endsOperand : Bool) → Octets → Except Fault (List Symbol)
  | 0, _, _, _ | _, _, _, [] => .ok []
  | fuel + 1, line, endsOperand, c :: rest =>
      let add (token : Token) (rest : Octets) : Except Fault (List Symbol) :=
        (symbolsFrom fuel line token.endsOperand rest).map (⟨token, line⟩ :: ·)
      let whole := c :: rest
      if c = '\n' then
        (symbolsFrom fuel (line + 1) false rest).map (⟨.sign "\n", line⟩ :: ·)
      else if c = ' ' || c = '\t' || c = '\r' then symbolsFrom fuel line endsOperand rest
      else if c = '\\' && rest.head? = some '\n' then
        symbolsFrom fuel (line + 1) endsOperand (rest.drop 1)
      else if c = '#' then symbolsFrom fuel line endsOperand (rest.dropWhile (· != '\n'))
      else if c = '"' then
        match quoted? rest with
        | some (text, rest) => add (.text (withoutEscapes text.length text)) rest
        | none =>
            .error ⟨line, "runaway string constant ".toList ++
              (c :: rest.takeWhile (· != '\n')).take 10 ++ " ...".toList⟩
      else if c = '/' && !endsOperand then
        match slashed? false rest with
        | some (source, rest) =>
            match PatternText.read source with
            | .ok regex => add (.pattern source regex) rest
            | .error fault => .error ⟨line, fault.message source⟩
        | none =>
            .error ⟨line, "runaway regular expression ".toList ++
              (c :: rest.takeWhile (· != '\n')).take 10 ++ " ...".toList⟩
      else if isNameStart c then
        let name := whole.takeWhile fun c => isNameStart c || c.isDigit
        let rest := whole.drop name.length
        let text := String.ofList name
        if keywords.contains text then add (.sign text) rest
        else if builtins.contains text then add (.builtin text) rest
        else add (.name name (rest.head? = some '(')) rest
      else if c.isDigit || (c = '.' && rest.head?.any Char.isDigit) then
        match FractionFront.pointed? 10 whole with
        | some (digits, places, rest) =>
            let (power, rest) := FractionFront.power 'e' rest
            let value := FractionFront.ofDecimal (digitsOf 10 digits).1 (power - places) rest
            match value.magnitude with
            | .finite x => add (.number x) rest
            | _ => .error ⟨line, "decimal overflow".toList⟩
        | none => .error ⟨line, "unexpected character".toList⟩
      else
        match operators.find? fun operator => operator.toList.isPrefixOf whole with
        | some operator => add (.sign operator) (whole.drop operator.length)
        | none => .error ⟨line, "unexpected character '".toList ++ [c, '\'']⟩

/-- The symbols of a program. -/
def symbols (text : Octets) : Except Fault (List Symbol) :=
  symbolsFrom (text.length + 1) 1 false text

end Console.Shell.Report
