import Console.Shell.Utility.Pattern
import Console.Shell.Written

/-!
# Patterns of report programs

Patterns in which operators have no backslash and braces are bounds only if they look like it.
Escapes stand for characters, also in brackets.  `PatternText.read` reads a pattern.
-/

namespace Console.Shell.Report

/-- What a backslash stands for in a text with the characters after it, and those left over. -/
def escaped : Octets → Octets × Octets
  | [] => (['\\'], [])
  | c :: rest =>
      match [('"', '"'), ('\\', '\\'), ('n', '\n'), ('t', '\t'), ('r', '\r'), ('a', '\x07'),
        ('b', '\x08'), ('f', '\x0c'), ('v', '\x0b')].lookup c with
      | some found => ([found], rest)
      | none =>
          if isOctal c then
            let digits := ((c :: rest).take 3).takeWhile isOctal
            ([octet (digitsOf 8 digits).1], (c :: rest).drop digits.length)
          else
            match c, digitsOf 16 (rest.take 2) with
            | 'x', (_, 0, _) => (['\\', c], rest)
            | 'x', (value, count, _) => ([octet value], rest.drop count)
            | c, _ => (['\\', c], rest)

/-- A text with its escapes replaced by what they stand for; the number is that of its
characters. -/
def withoutEscapes : Nat → Octets → Octets
  | 0, text => text
  | fuel + 1, text =>
      match text with
      | [] => []
      | '\\' :: rest =>
          let (found, rest) := escaped rest
          found ++ withoutEscapes fuel rest
      | c :: rest => c :: withoutEscapes fuel rest

namespace PatternText

/-- What is wrong with a pattern. -/
inductive Fault where
  | openGroup
  | noOperand
  | badBracket
  | badBounds
  /-- The start of a text is repeated. -/
  | repeatedStart
  deriving DecidableEq, Repr

/-- What is said about the fault of a pattern. -/
def Fault.message (fault : Fault) (pattern : Octets) : Octets :=
  let reason :=
    match fault with
    | openGroup => "missing ')'"
    | noOperand => "missing operand"
    | badBracket => "bad class -- [], [^] or ["
    | badBounds => "bad interval expression"
    | repeatedStart => "syntax error ^* or ^+"
  ("regular expression compile failed (" ++ reason ++ ")\n").toList ++ pattern

/-- What is read of a pattern, unless it is faulty. -/
abbrev Reading := Except Fault

/-- The expression that accepts one character. -/
def char (c : Char) : LineRegex := .plain (LinePattern.char {} c)

/-- The character that a backslash and the characters after it stand for, and what follows them. -/
def escapedChar (text : Octets) : Char × Octets :=
  match escaped text with
  | ([c], rest) | ([_, c], rest) => (c, rest)
  | (_, rest) => ('\\', rest)

/-- The members of a bracket and what follows it.  `previous` is the character that a range may
begin with, and the number bounds the number of members. -/
def members : Nat → (previous : Option Char) → Octets → Reading (List GlobItem × Octets)
  | 0, _, _ | _, _, [] => .error .badBracket
  | fuel + 1, previous, c :: rest =>
      let add (items : List GlobItem) (previous : Option Char) (rest : Octets) :
          Reading (List GlobItem × Octets) :=
        (members fuel previous rest).map fun (others, rest) => (items ++ others, rest)
      let charAt (c : Char) (rest : Octets) : Char × Octets :=
        if c = '\\' then escapedChar rest else (c, rest)
      let single : Reading (List GlobItem × Octets) :=
        let (found, rest) := charAt c rest
        add [.range found found] (some found) rest
      match c, previous, rest with
      | ']', _, rest => .ok ([], rest)
      | '[', _, ':' :: rest =>
          match LinePattern.marked? ':' rest with
          | some (name, rest) =>
              if LinePattern.classNames.contains (.ofList name) then
                add [.named (.ofList name)] none rest
              else .error .badBracket
          | none => .error .badBracket
      | '-', some low, next :: rest =>
          if next = ']' then single
          else
            let (high, rest) := charAt next rest
            if low ≤ high then add [.range low high] none rest
            else add [.range '-' '-', .range high high] none rest
      | _, _, _ => single

/-- The expression of a bracket and what follows it, after its opening. -/
def bracket (text : Octets) : Reading (LineRegex × Octets) := do
  let isNegated := text.head? = some '^'
  let text := if isNegated then text.drop 1 else text
  let isFirst := text.head? = some ']'
  let (items, rest) ←
    if isFirst then members (text.length + 1) (some ']') (text.drop 1)
    else members (text.length + 1) none text
  let items := if isFirst then .range ']' ']' :: items else items
  pure (.plain (LinePattern.chars fun c => items.any (·.has c) != isNegated), rest)

/-- The bounds in front of a text and what follows them; none if the text does not begin like
bounds. -/
def bounds? (text : Octets) : Option (Nat × Option Nat × Octets) :=
  match text with
  | '\x7b' :: rest =>
      let (least, count, rest) := digitsOf 10 rest
      match rest with
      | '\x7d' :: rest => if count = 0 then none else some (least, some least, rest)
      | ',' :: rest =>
          match digitsOf 10 rest with
          | (_, 0, '\x7d' :: rest) => some (least, if count = 0 then some 0 else none, rest)
          | (most, _, '\x7d' :: rest) => some (least, some most, rest)
          | _ => none
      | _ => none
  | _ => none

/-- An expression with the repetitions after it; the number bounds how many there are. -/
def repeated (isStart : Bool) : Nat → LineRegex → Octets → Reading (LineRegex × Octets)
  | 0, body, text => .ok (body, text)
  | fuel + 1, body, text =>
      let goOn (least : Nat) (most : Option Nat) (rest : Octets) :
          Reading (LineRegex × Octets) :=
        repeated false fuel (.times body least most) rest
      match text with
      | '*' :: rest => if isStart then .error .repeatedStart else goOn 0 none rest
      | '+' :: rest => if isStart then .error .repeatedStart else goOn 1 none rest
      | '?' :: rest => goOn 0 (some 1) rest
      | text =>
          match bounds? text with
          | some (least, most, rest) =>
              if most.any (· < least) then .error .badBounds else goOn least most rest
          | none => .ok (body, text)

mutual

/-- Reads alternatives up to the end, or up to a closing parenthesis in a group. -/
def ways (isInside : Bool) : Nat → Octets → Reading (List LineRegex × Octets)
  | 0, _ => .error .noOperand
  | fuel + 1, text => do
      let (found, rest) ← parts isInside fuel text
      if found.isEmpty then .error (if isInside && rest.isEmpty then .openGroup else .noOperand)
      match rest with
      | '|' :: rest => do
          let (others, rest) ← ways isInside fuel rest
          pure (.ofParts found :: others, rest)
      | rest => pure ([.ofParts found], rest)

/-- Reads the parts of an alternative. -/
def parts (isInside : Bool) : Nat → Octets → Reading (List LineRegex × Octets)
  | 0, _ => .error .noOperand
  | fuel + 1, text =>
      match text with
      | [] => .ok ([], [])
      | c :: rest =>
          if c = '|' || (isInside && c = ')') then .ok ([], c :: rest)
          else do
            let (first, rest) ← part fuel c rest
            let (first, rest) ← repeated (c = '^') (rest.length + 1) first rest
            let (others, rest) ← parts isInside fuel rest
            pure (first :: others, rest)

/-- Reads a part that begins with a character, without the repetitions after it. -/
def part : Nat → Char → Octets → Reading (LineRegex × Octets)
  | 0, _, _ => .error .noOperand
  | fuel + 1, c, rest =>
      match c with
      | '(' => do
          let (found, rest) ← ways true fuel rest
          match rest with
          | ')' :: rest => pure (.ofWays found, rest)
          | _ => .error .openGroup
      | '[' => bracket rest
      | '\\' =>
          let (found, rest) := escapedChar rest
          .ok (char found, rest)
      | '.' => .ok (.plain (LinePattern.chars fun _ => true), rest)
      | '^' => .ok (.plain (.look .start), rest)
      | '$' => .ok (.plain (.look .finish), rest)
      | c =>
          if c = '*' || c = '+' || c = '?' || (bounds? (c :: rest)).isSome then .error .noOperand
          else .ok (char c, rest)

end

/-- The expression that a pattern says. -/
def read (text : Octets) : Reading LineRegex := do
  if text.isEmpty then pure (.plain .empty)
  else
    let (found, _) ← ways false (3 * text.length + 3) text
    pure (.ofWays found)

end PatternText

end Console.Shell.Report
