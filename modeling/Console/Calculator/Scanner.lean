import Console.Calculator.Token

/-!
# Reading tokens

A text is read one character at a time.  What was read of an unfinished token is kept in the
scanner's state, newest character first; every character but the first of its token that does not
belong to a number or a name ends it.
-/

namespace Console

/-- What is known of the token being read. -/
inductive Scanner where
  /-- No token has begun. -/
  | between
  | number (read : List Char)
  | name (read : List Char)
  | string (read : List Char)
  /-- A backslash was read in a string. -/
  | escape (read : List Char)
  deriving DecidableEq, Repr

namespace Scanner

/-- The number that a run of digits, points and underscores stands for.  Underscores are dropped;
with a point it is a floating point number, which has just one point. -/
def numberToken (digits : List Char) : Except EvalError Token :=
  let digits := digits.filter (· != '_')
  match digits.span (· != '.') with
  | (_, []) =>
      match Text.readInteger digits with
      | .ok value => .ok (.int value)
      | .error _ => .error (.literalTooLarge (.ofList digits))
  | (whole, _ :: fraction) =>
      if fraction.all Text.isDigit then
        let mantissa := (whole ++ fraction).foldl (fun n c => n * 10 + Text.digitValue c) 0
        .ok (.float (.ofScientific mantissa true fraction.length))
      else .error (.invalidNumber (.ofList digits))

/-- Whether a character goes on with a number. -/
def continuesNumber (c : Char) : Bool := Text.isDigit c || c == '.' || c == '_'

/-- Whether a name may start with a character. -/
def startsName (c : Char) : Bool := Text.isAlphabetic c || c == '_'

/-- Whether a character goes on with a name. -/
def continuesName (c : Char) : Bool := Text.isAlphanumeric c || c == '_'

/-- The effect of a character where a token may start. -/
def start (c : Char) : Except EvalError (List Token × Scanner) :=
  if Text.isBlank c then .ok ([], between)
  else if Text.isDigit c then .ok ([], number [c])
  else if startsName c then .ok ([], name [c])
  else if c = '"' then .ok ([], string [])
  else match Symbol.ofChar? c with
    | some symbol => .ok ([.symbol symbol], between)
    | none => .error (.unexpectedCharacter c)

/-- The character that a letter after a backslash stands for. -/
def unescape : Char → Char
  | 'n' => '\n'
  | 't' => '\t'
  | c => c

/-- The tokens that a character ends, and the state after it. -/
def step : Scanner → Char → Except EvalError (List Token × Scanner)
  | between, c => start c
  | number read, c =>
      if continuesNumber c then .ok ([], number (c :: read))
      else do
        let token ← numberToken read.reverse
        let (tokens, next) ← start c
        .ok (token :: tokens, next)
  | name read, c =>
      if continuesName c then .ok ([], name (c :: read))
      else do
        let (tokens, next) ← start c
        .ok (.name (.ofList read.reverse) :: tokens, next)
  | string read, c =>
      if c = '"' then .ok ([.string (.ofList read.reverse)], between)
      else if c = '\\' then .ok ([], escape read)
      else .ok ([], string (c :: read))
  | escape read, c => .ok ([], string (unescape c :: read))

/-- The tokens that the end of the text ends. -/
def finish : Scanner → Except EvalError (List Token)
  | between => .ok []
  | number read => do .ok [← numberToken read.reverse]
  | name read => .ok [.name (.ofList read.reverse)]
  | string _ | escape _ => .error .unterminatedString

/-- The tokens of a text, read from a given state on. -/
def run : Scanner → List Char → Except EvalError (List Token)
  | state, [] => state.finish
  | state, c :: rest => do
      let (tokens, next) ← state.step c
      let more ← next.run rest
      .ok (tokens ++ more)

end Scanner

/-- The tokens of a text. -/
def tokens (source : List Char) : Except EvalError (List Token) := Scanner.between.run source

end Console
