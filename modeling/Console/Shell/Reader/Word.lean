import Console.Shell.Reader.Source

/-!
# Reading words

A word goes on up to the end of its context: outside quotes up to a blank or an operator, between
double quotes up to the closing quote, in braces up to the closing brace.  Between double quotes
only the dollar sign, the back quote and the backslash have a meaning of their own.  Commands in a
word are read by a reader that is given.
-/

namespace Console.Shell

/-- Where a stretch of a word ends. -/
inductive Bound where
  | blank
  /-- As `blank`; dollar signs and back quotes have no meaning. -/
  | inert
  | brace
  | quote
  | parentheses
  /-- Only where the text ends. -/
  | never
  deriving DecidableEq, Repr

/-- What characters mean in a stretch of a word. -/
structure Context where
  isQuoted : Bool
  bound : Bound
  deriving DecidableEq, Repr

/-- Whether a character ends a word outside quotes. -/
def endsWord (c : Char) : Bool :=
  c = ' ' || c = '\t' || c = '\n' || c = ';' || c = '&' || c = '|' || c = '<' || c = '>' ||
    c = '(' || c = ')'

/-- The parameter that a character after a dollar sign stands for. -/
def specialParameter? (c : Char) : Option Parameter :=
  if isDigit c then some (.argument (Text.digitValue c))
  else if c = '@' then some .arguments
  else if c = '*' then some .joined
  else if c = '#' then some .count
  else if c = '?' then some .status
  else if c = '-' then some .options
  else if c = '$' then some .process
  else if c = '!' then some .background
  else none

/-- How a character between braces says what becomes of a missing parameter. -/
def substitute? (c : Char) : Option Substitute :=
  if c = '-' then some .default
  else if c = '=' then some .assigned
  else if c = '?' then some .complaint
  else if c = '+' then some .replacement
  else none

/-- The number that digits stand for. -/
def numberOf (digits : Octets) : Nat :=
  digits.foldl (fun value c => value * 10 + Text.digitValue c) 0

namespace Context

/-- A text as a part of a word. -/
def part (context : Context) (text : Octets) : Part :=
  if context.isQuoted then .quoted text else .plain text

/-- What is wrong with a script that ends in the stretch.  A text in the script has no quotes that
could be missed. -/
def fault? (context : Context) (isDocument : Bool) : Option ScriptFault :=
  match context.bound with
  | .blank | .inert | .never => none
  | .quote => some (if isDocument then .missingBrace else .unterminatedQuote)
  | .brace =>
      some (if context.isQuoted && !isDocument then .unterminatedQuote else .missingBrace)
  | .parentheses => some .missingParentheses

/-- Whether a backslash takes its meaning from a character. -/
def isEscapable (context : Context) (c : Char) : Bool :=
  !context.isQuoted || c = '\\' || c = '\x60' || c = '$' ||
    (c = '"' && context.bound ≠ .never) || (c = '\x7d' && context.bound = .brace)

/-- What a back quote in the stretch gives back without a backslash. -/
def isBackquoteEscapable (context : Context) (c : Char) : Bool :=
  c = '\\' || c = '\x60' || c = '$' || (context.isQuoted && c = '"')

end Context

namespace Reading

/-- The text up to a closing single quote. -/
def singleQuoted : Reading Octets := do
  let source ← get
  let text := source.rest.takeWhile (· != '\'')
  if source.rest.length ≤ text.length then
    drop text.length
    fault .unterminatedQuote
  else
    drop (text.length + 1)
    pure text

/-- The text up to a closing back quote; the second argument bounds its length. -/
def backquoted (context : Context) : Nat → Reading Octets
  | 0 => fault .unterminatedSubstitution
  | bound + 1 => do
      match ← peek with
      | none => fault .unterminatedSubstitution
      | some '\x60' =>
          drop 1
          pure []
      | some '\\' =>
          drop 1
          match ← takeRaw with
          | none => fault .unterminatedSubstitution
          | some c =>
              let rest ← backquoted context bound
              pure (if context.isBackquoteEscapable c then c :: rest else '\\' :: c :: rest)
      | some c =>
          drop 1
          pure (c :: (← backquoted context bound))

/-- What a symbol has to be here, or else the script is refused. -/
def expect (symbol : Symbol) (holds : Bool) (expected : String) : Reading Unit :=
  if holds then pure () else fault (.unexpected symbol.name (some expected))

/-- The name or the character that a parameter is asked for by, in braces. -/
def parameterName? : Reading (Option Parameter) := do
  match ← peek with
  | none => pure none
  | some c =>
      if isNameStart c then pure (some (.named (← takeAll isNameChar)))
      else if isDigit c then pure (some (.argument (numberOf (← takeAll isDigit))))
      else
        match specialParameter? c with
        | none => pure none
        | some parameter =>
            drop 1
            pure (some parameter)

/-- What braces after a dollar sign ask for before anything else is said in them: a parameter, and
whether its size is wanted. -/
def braceHead : Reading (Option Parameter × Bool) := do
  if (← peek) != some '#' then
    pure (← parameterName?, false)
  else
    drop 1
    match ← peek with
    | none => pure (some .count, false)
    | some c =>
        if isNameChar c then pure (← parameterName?, true)
        else
          let source ← get
          drop 1
          if c != '\x7d' && (← peek) == some '\x7d' then pure (specialParameter? c, true)
          else
            set source
            pure (some .count, false)

/-- Reads the parts of a word up to the end of their context.  The first argument reads the
commands between parentheses, the second one bounds the number of steps, `level` is the number of
parentheses that are open, and the last argument holds the parts so far, newest first. -/
def parts (commands : Reading (List Command)) :
    Nat → Context → (level : Nat) → Word → Reading Word
  | 0, _, _, _ => fault .unterminatedQuote
  | fuel + 1, context, level, before => do
      let goOn (part : Part) : Reading Word := parts commands fuel context level (before.push part)
      match ← peek with
      | none =>
          match context.fault? (← get).isDocument with
          | none => pure before.reverse
          | some cause => fault cause
      | some c =>
          match context.bound, c with
          | .brace, '\x7d' | .quote, '"' =>
              drop 1
              pure before.reverse
          | .parentheses, '(' =>
              drop 1
              parts commands fuel context (level + 1) (before.push (.quoted [c]))
          | .parentheses, ')' =>
              drop 1
              if level = 0 then
                if ← skipIf ')' then pure before.reverse else goOn (.quoted [c])
              else parts commands fuel context (level - 1) (before.push (.quoted [c]))
          | bound, c =>
              if (bound = .blank || bound = .inert) && endsWord c then pure before.reverse
              else
                drop 1
                if c = '\\' then
                  match ← takeRaw with
                  | none => goOn (.quoted ['\\'])
                  | some d =>
                      goOn (.quoted (if context.isEscapable d then [d] else ['\\', d]))
                else if c = '\'' && !context.isQuoted then goOn (.quoted (← singleQuoted))
                else if c = '"' && bound ≠ .never && bound ≠ .parentheses then
                  let inner ← parts commands fuel ⟨true, .quote⟩ 0 []
                  match inner with
                  | [.parameter _ .arguments .value] =>
                      parts commands fuel context level (inner ++ before)
                  | inner =>
                      parts commands fuel context level
                        (inner.foldl Word.push (before.push (.quoted [])))
                else if c = '\x60' && bound ≠ .inert then
                  let text ← backquoted context (← get).rest.length
                  goOn (.output context.isQuoted (← within text commands))
                else if c = '$' && bound ≠ .inert then
                  match ← peek with
                  | some '(' =>
                      drop 1
                      if ← skipIf '(' then
                        goOn
                          (.sum context.isQuoted (← parts commands fuel ⟨true, .parentheses⟩ 0 []))
                      else
                        let inner ← apart commands
                        let after ← get
                        let symbol := after.held.getD .finish
                        let closes := match symbol with | .closing => true | _ => false
                        set { after with held := none }
                        expect symbol closes "\")\""
                        goOn (.output context.isQuoted inner)
                  | some '\x7b' =>
                      drop 1
                      let (parameter, isSize) ← braceHead
                      goOn (← braced commands fuel context parameter isSize)
                  | some d =>
                      if isNameStart d then
                        goOn (.parameter context.isQuoted (.named (← takeAll isNameChar)) .value)
                      else
                        match specialParameter? d with
                        | some parameter =>
                            drop 1
                            goOn (.parameter context.isQuoted parameter .value)
                        | none => goOn (context.part [c])
                  | none => goOn (context.part [c])
                else
                  if c = '\n' then beginLine
                  goOn (context.part [c])
where
  /-- Reads what braces say about a parameter. -/
  braced (commands : Reading (List Command)) (fuel : Nat) (context : Context)
      (parameter : Option Parameter) (isSize : Bool) : Reading Part := do
    let inner : Context := ⟨context.isQuoted, .brace⟩
    match parameter with
    | none =>
        let _ ← parts commands fuel inner 0 []
        pure (.parameter context.isQuoted .count .invalid)
    | some parameter =>
        let part := Part.parameter context.isQuoted parameter
        if isSize then
          if ← skipIf '\x7d' then pure (part .size)
          else
            let _ ← parts commands fuel inner 0 []
            pure (part .invalid)
        else
          match ← peek with
          | some '#' =>
              drop 1
              let longest ← skipIf '#'
              pure (part (.trimmed .front longest (← parts commands fuel ⟨false, .brace⟩ 0 [])))
          | some '%' =>
              drop 1
              let longest ← skipIf '%'
              pure (part (.trimmed .back longest (← parts commands fuel ⟨false, .brace⟩ 0 [])))
          | _ =>
              let nullToo ← skipIf ':'
              if ← skipIf '\x7d' then
                if nullToo then
                  let _ ← parts commands fuel inner 0 []
                pure (part .value)
              else
                match (← peek).bind substitute? with
                | some how =>
                    drop 1
                    pure (part (.substitute how nullToo (← parts commands fuel inner 0 [])))
                | none =>
                    -- the character in place of an operator is lost, even if it ends a line
                    modify fun source => { source with rest := source.rest.drop 1 }
                    let _ ← parts commands fuel inner 0 []
                    pure (part .invalid)

end Reading

end Console.Shell
