import Console.Pattern.Search
import Console.Shell.Glob
import Console.Shell.Number

/-!
# Patterns of line editors

Patterns in which operators have a backslash, or in the extended form have none, and which may refer
back to what a group has matched.  `LinePattern.read` reads a pattern.  A match is the first one in
a text, and of those that begin there the longest: `LineMatch.from?` finds it.
-/

namespace Console.Shell

/-- How patterns are read. -/
structure PatternForm where
  isExtended : Bool := false
  ignoresCase : Bool := false
  /-- Every line in a text has a start and an end. -/
  isByLines : Bool := false
  /-- A repetition needs something to repeat, and braces are bounds. -/
  isStrict : Bool := false
  deriving DecidableEq, Repr

/-- What a pattern says. -/
inductive LineRegex where
  | plain (regex : Regex)
  /-- The text that a group has matched. -/
  | reference (index : Nat) (ignoresCase : Bool)
  | seq (first second : LineRegex)
  | alt (first second : LineRegex)
  | times (body : LineRegex) (least : Nat) (most : Option Nat)
  | capture (index : Nat) (body : LineRegex)
  deriving Repr

namespace LineRegex

/-- One expression after another. -/
def ofParts : List LineRegex → LineRegex
  | [] => plain .empty
  | [regex] => regex
  | regex :: rest => seq regex (ofParts rest)

/-- The expression that chooses from others. -/
def ofWays : List LineRegex → LineRegex
  | [] => plain .empty
  | [regex] => regex
  | regex :: rest => alt regex (ofWays rest)

/-- The place after a text that comes next, where letters may be small or capital. -/
def afterLike? (cursor : Cursor) : Octets → Option Cursor
  | [] => some cursor
  | c :: text => (cursor.next? (·.toLower == c.toLower)).bind fun later => afterLike? later text

/-- Searches for a way to match, followed by what has to match after it. -/
def search {α : Type} : LineRegex → Regex.Search α
  | plain regex => regex.search
  | reference index ignoresCase => fun cursor next =>
      (cursor.groups.lookup index).bind fun text =>
        (if ignoresCase then afterLike? cursor text else cursor.after? text).bind next
  | seq first second => fun cursor next =>
      first.search cursor fun later => second.search later next
  | alt first second => fun cursor next =>
      match first.search cursor next with
      | some found => some found
      | none => second.search cursor next
  | times body least most => Regex.atLeast body.search true least most
  | capture index body => fun cursor next =>
      body.search cursor fun later =>
        next { later with groups := (index, cursor.upTo later) :: later.groups }

end LineRegex

namespace LinePattern

/-- What is wrong with a pattern. -/
inductive Fault where
  | badPattern
  | badSymbol
  | badClass
  | lateBackslash
  | badReference
  | openBracket
  | openGroup
  | strayClosing
  | openBraces
  | badBounds
  | badRange
  | tooGreat
  | noOperand
  deriving DecidableEq, Repr

/-- The wording of the fault. -/
def Fault.message : Fault → String
  | badPattern => "Invalid regular expression"
  | badSymbol => "Invalid collation character"
  | badClass => "Invalid character class name"
  | lateBackslash => "Trailing backslash"
  | badReference => "Invalid back reference"
  | openBracket => "Unmatched [, [^, [:, [., or [="
  | openGroup => "Unmatched ( or \\("
  | strayClosing => "Unmatched ) or \\)"
  | openBraces => "Unmatched \\\x7b"
  | badBounds => "Invalid content of \\\x7b\\\x7d"
  | badRange => "Invalid range end"
  | tooGreat => "Regular expression too big"
  | noOperand => "Invalid preceding regular expression"

/-- What is read of a pattern, unless it is faulty. -/
abbrev Reading := Except Fault

/-- One character. -/
def char (form : PatternForm) (c : Char) : Regex :=
  if form.ignoresCase && c.isAlpha then
    let cases := [c.toLower, c.toUpper].map fun c => (c.toNat, c.toNat)
    .set (Text.Ranges.ofList cases) true
  else .literal [c]

/-- All characters that a test accepts. -/
def chars (accepts : Char → Bool) : Regex :=
  let accepted := (List.range 256).filter fun code => accepts (Char.ofNat code)
  .set (Text.Ranges.ofList (accepted.map fun code => (code, code))) true

/-- Whether a character belongs to a word. -/
def isWord (c : Char) : Bool := isInClass "alnum" c || c = '_'

/-! ## Brackets -/

/-- The names of classes of characters. -/
def classNames : List String :=
  ["alpha", "upper", "lower", "digit", "alnum", "xdigit", "space", "blank", "punct", "graph",
   "print", "cntrl"]

/-- The text up to a mark and a closing bracket, and what follows them. -/
def marked? (mark : Char) : Octets → Option (Octets × Octets)
  | c :: ']' :: rest =>
      if c = mark then some ([], rest)
      else (marked? mark (']' :: rest)).map fun (text, rest) => (c :: text, rest)
  | c :: rest => (marked? mark rest).map fun (text, rest) => (c :: text, rest)
  | [] => none

/-- A member of a bracket and what follows it: a character, which may be given as a symbol, or a
class. -/
def member (text : Octets) : Reading (GlobItem × Octets) :=
  match text with
  | '[' :: ':' :: rest =>
      match marked? ':' rest with
      | none => .error .openBracket
      | some (name, rest) =>
          if classNames.contains (.ofList name) then .ok (.named (.ofList name), rest)
          else .error .badClass
  | '[' :: '.' :: rest => symbol '.' rest
  | '[' :: '=' :: rest => symbol '=' rest
  | c :: rest => .ok (.range c c, rest)
  | [] => .error .openBracket
where
  /-- A symbol for a character. -/
  symbol (mark : Char) (rest : Octets) : Reading (GlobItem × Octets) :=
    match marked? mark rest with
    | some ([c], rest) => .ok (.range c c, rest)
    | some _ => .error .badSymbol
    | none => .error .openBracket

/-- The members of a bracket and what follows it.  A closing bracket in front is a member; the
number bounds the number of members. -/
def members : Nat → (isFirst : Bool) → Octets → Reading (List GlobItem × Octets)
  | 0, _, _ => .error .openBracket
  | _, true, [] => .error .badPattern
  | _, false, [] => .error .openBracket
  | fuel + 1, isFirst, c :: rest =>
      if c = ']' && !isFirst then .ok ([], rest)
      else if c = '-' && !isFirst && rest.head? != some ']' then .error .badRange
      else do
        let (low, rest) ← member (c :: rest)
        match low, rest with
        | .range low _, '-' :: next :: rest =>
            if next = ']' then do
              let (others, rest) ← members fuel false ('-' :: next :: rest)
              pure (.range low low :: others, rest)
            else
              match ← member (next :: rest) with
              | (.range _ high, rest) =>
                  if high < low then .error .badRange
                  else do
                    let (others, rest) ← members fuel false rest
                    pure (.range low high :: others, rest)
              | (.named _, _) => .error .badRange
        | item, rest => do
            let (others, rest) ← members fuel false rest
            pure (item :: others, rest)

/-- The expression of a bracket and what follows it, after its opening. -/
def bracket (form : PatternForm) (text : Octets) : Reading (Regex × Octets) := do
  let (isNegated, text) :=
    match text with
    | '^' :: rest => (true, rest)
    | rest => (false, rest)
  let (items, rest) ← members (text.length + 1) true text
  let has (c : Char) : Bool := items.any (·.has c)
  let accepts (c : Char) : Bool :=
    (has c || (form.ignoresCase && (has c.toLower || has c.toUpper))) != isNegated
  pure (chars accepts, rest)

/-! ## Symbols -/

/-- How often something may be repeated at most. -/
def timesLimit : Nat := 32767

/-- The text between braces and what follows it, after the opening one. -/
def braced? (isExtended : Bool) : Octets → Option (Octets × Octets)
  | '\\' :: '\x7d' :: rest => if isExtended then none else some ([], rest)
  | c :: rest =>
      if isExtended && c = '\x7d' then some ([], rest)
      else (braced? isExtended rest).map fun (text, rest) => (c :: text, rest)
  | [] => none

/-- The bounds of a repetition and what follows it, after its opening brace. -/
def bounds (form : PatternForm) (text : Octets) : Reading ((Nat × Option Nat) × Octets) :=
  match braced? form.isExtended text with
  | none => .error .openBraces
  | some (content, rest) =>
      let (least, count, after) := digitsOf 10 content
      match after with
      | [] => if count = 0 then .error .badBounds else bounded least (some least) rest
      | ',' :: after =>
          match digitsOf 10 after with
          | (_, 0, []) => bounded least none rest
          | (most, _, []) => bounded least (some most) rest
          | _ => .error .badBounds
      | _ => .error .badBounds
where
  /-- Bounds that make sense. -/
  bounded (least : Nat) (most : Option Nat) (rest : Octets) :
      Reading ((Nat × Option Nat) × Octets) :=
    if most.any (· < least) then .error .badBounds
    else if timesLimit < most.getD least then .error .tooGreat
    else .ok ((least, most), rest)

/-- A symbol of a pattern. -/
inductive Token where
  | atom (regex : Regex)
  /-- A condition on the place, which cannot be repeated. -/
  | condition (look : Look)
  | reference (index : Nat)
  | opening
  | closing
  | bar
  /-- A repetition; the character is what it is if there is nothing to repeat. -/
  | times (least : Nat) (most : Option Nat) (sign : Char)
  deriving Repr

/-- Whether a pattern begins anew after a symbol. -/
def Token.isOpening : Token → Bool
  | opening | bar => true
  | _ => false

/-- The symbol for a character that is an operator, with or without a backslash, and what follows
it; `isStart` says that a pattern begins here.  A brace is a character if it may be one and does not
look like bounds. -/
def operator (form : PatternForm) (isStart : Bool) (c : Char) (rest : Octets) :
    Reading (Token × Octets) :=
  match c with
  | '(' => .ok (.opening, rest)
  | ')' => .ok (.closing, rest)
  | '|' => .ok (.bar, rest)
  | '+' => .ok (.times 1 none c, rest)
  | '?' => .ok (.times 0 (some 1) c, rest)
  | '\x7b' =>
      let isBound := (braced? form.isExtended rest).any fun (content, _) =>
        content.head?.any fun c => c = ',' || ('0' ≤ c && c ≤ '9')
      if form.isStrict && isStart then .error .noOperand
      else if form.isExtended && !form.isStrict && !isBound then .ok (.atom (char form c), rest)
      else (bounds form rest).map fun ((least, most), rest) => (.times least most c, rest)
  | c => .ok (.atom (char form c), rest)

/-- Whether a character is an operator, with or without a backslash. -/
def isOperator (c : Char) : Bool :=
  c = '(' || c = ')' || c = '|' || c = '+' || c = '?' || c = '\x7b'

/-- What a backslash stands for in front of a character that is no operator. -/
def escape (form : PatternForm) (c : Char) : Token :=
  match c with
  | 'w' => .atom (chars isWord)
  | 'W' => .atom (chars (!isWord ·))
  | 's' => .atom (chars isNumberBlank)
  | 'S' => .atom (chars (!isNumberBlank ·))
  | 'b' => .condition (.word .boundary true)
  | 'B' => .condition (.word .noBoundary true)
  | '<' => .condition (.word .start true)
  | '>' => .condition (.word .finish true)
  | '\x60' => .condition .start
  | '\'' => .condition .finish
  | c => if '1' ≤ c && c ≤ '9' then .reference (c.toNat - '0'.toNat) else .atom (char form c)

/-- The start of a text, or of a line. -/
def startLook (form : PatternForm) : Look := if form.isByLines then .lineStart false else .start

/-- The end of a text, or of a line. -/
def endLook (form : PatternForm) : Look := if form.isByLines then .lineEnd false else .finish

/-- The symbols of a pattern.  The number bounds their number, and `isStart` says that a pattern
begins here. -/
def tokens (form : PatternForm) : Nat → (isStart : Bool) → Octets → Reading (List Token)
  | 0, _, _ | _, _, [] => .ok []
  | fuel + 1, isStart, c :: rest =>
      let next (found : Token × Octets) : Reading (List Token) :=
        (tokens form fuel found.1.isOpening found.2).map (found.1 :: ·)
      let isEnd : Bool :=
        match rest with
        | [] => true
        | '\\' :: ')' :: _ | '\\' :: '|' :: _ => true
        | _ => false
      match c, rest with
      | '\\', [] => .error .lateBackslash
      | '\\', d :: rest =>
          if !form.isExtended && isOperator d then (operator form isStart d rest).bind next
          else next (escape form d, rest)
      | '[', rest => (bracket form rest).bind fun (regex, rest) => next (.atom regex, rest)
      | '.', rest => next (.atom (chars fun _ => true), rest)
      | '*', rest => next (.times 0 none c, rest)
      | '^', rest =>
          next (if isStart || form.isExtended then .condition (startLook form)
            else .atom (char form c), rest)
      | '$', rest =>
          next (if isEnd || form.isExtended then .condition (endLook form)
            else .atom (char form c), rest)
      | c, rest =>
          if form.isExtended && isOperator c then (operator form isStart c rest).bind next
          else next (.atom (char form c), rest)

/-! ## Expressions -/

/-- How the groups of a pattern have been read so far: how many have been opened, and which have
been closed. -/
structure Groups where
  opened : Nat := 0
  closed : List Nat := []

/-- What has been read of an alternative: its parts, the latest first, and what a repetition after
them finds. -/
structure Alternative where
  parts : List LineRegex := []
  /-- Whether the latest part can be repeated. -/
  isOperand : Bool := false
  /-- Whether the latest part is a repetition. -/
  isRepeated : Bool := false

namespace Alternative

/-- What the alternative says. -/
def regex (alternative : Alternative) : LineRegex := .ofParts alternative.parts.reverse

/-- The alternative with one more part that can be repeated. -/
def add (alternative : Alternative) (part : LineRegex) : Alternative :=
  { parts := part :: alternative.parts, isOperand := true }

/-- The alternative with its latest part repeated.  Where there is nothing to repeat, the sign of
the repetition is a character, or it is passed over, or it is refused. -/
def repeated (form : PatternForm) (alternative : Alternative) (least : Nat) (most : Option Nat)
    (sign : Char) : Reading Alternative :=
  let isAgain := alternative.isRepeated && !form.isExtended && (sign = '*' || sign = '\x7b')
  match alternative.parts, alternative.isOperand with
  | last :: before, true =>
      if form.isStrict && isAgain then .error .noOperand
      else .ok ⟨.times last least most :: before, true, true⟩
  | _, _ =>
      if form.isStrict && (form.isExtended || sign = '\x7b') then .error .noOperand
      else if form.isExtended then .ok alternative
      else .ok (alternative.add (.plain (char form sign)))

end Alternative

/-- Reads alternatives up to a closing parenthesis or the end: what they say, the symbols after
them, and the groups so far.  `outer` are the groups before the alternatives, and `done` are the
alternatives before this one, the latest first. -/
def alternatives (form : PatternForm) (outer : List Nat) :
    Nat → Groups → List (LineRegex × List Nat) → Alternative → List Token →
      Reading (LineRegex × List Token × Groups)
  | 0, _, _, _, _ => .error .badPattern
  | fuel + 1, groups, done, current, tokens =>
      let finish (rest : List Token) : Reading (LineRegex × List Token × Groups) :=
        let ways := ((current.regex, groups.closed) :: done).reverse
        .ok (.ofWays (ways.map (·.1)), rest, { groups with closed := ways.flatMap (·.2) })
      let goOn (current : Alternative) (rest : List Token) :=
        alternatives form outer fuel groups done current rest
      match tokens with
      | [] => finish []
      | .closing :: rest => finish (.closing :: rest)
      | .bar :: rest =>
          alternatives form outer fuel { groups with closed := outer }
            ((current.regex, groups.closed) :: done) {} rest
      | .atom regex :: rest => goOn (current.add (.plain regex)) rest
      | .condition look :: rest =>
          goOn { parts := .plain (.look look) :: current.parts } rest
      | .reference index :: rest =>
          if groups.closed.contains index then
            goOn (current.add (.reference index form.ignoresCase)) rest
          else .error .badReference
      | .times least most sign :: rest => do goOn (← current.repeated form least most sign) rest
      | .opening :: rest => do
          let index := groups.opened + 1
          let (inner, rest, groups) ←
            alternatives form groups.closed fuel { groups with opened := index } [] {} rest
          match rest with
          | .closing :: rest =>
              alternatives form outer fuel { groups with closed := index :: groups.closed } done
                (current.add (.capture index inner)) rest
          | _ => .error .openGroup

/-- Symbols with closing parentheses that close nothing as characters, where that is allowed; the
number counts the parentheses that are open. -/
def withLoneClosings (form : PatternForm) : Nat → List Token → List Token
  | _, [] => []
  | depth, .opening :: rest => .opening :: withLoneClosings form (depth + 1) rest
  | 0, .closing :: rest => .atom (char form ')') :: withLoneClosings form 0 rest
  | depth + 1, .closing :: rest => .closing :: withLoneClosings form depth rest
  | depth, token :: rest => token :: withLoneClosings form depth rest

/-- The expression that a pattern says, and the number of its groups. -/
def read (form : PatternForm) (text : Octets) : Reading (LineRegex × Nat) := do
  let tokens ← tokens form (text.length + 1) true text
  let tokens :=
    if form.isExtended && !form.isStrict then withLoneClosings form 0 tokens else tokens
  match ← alternatives form [] (tokens.length + 1) {} [] {} tokens with
  | (regex, [], groups) => pure (regex, groups.opened)
  | _ => .error .strayClosing

end LinePattern

/-- A match of a pattern: where it is, and what its groups have matched. -/
structure LineMatch where
  start : Nat
  length : Nat
  groups : List (Nat × Octets)
  deriving DecidableEq, Repr

namespace LineMatch

/-- The longest match at a place. -/
def longest? (regex : LineRegex) (before : Option Char) (rest : Octets) : Option Cursor :=
  (regex.search ⟨before, rest, []⟩ some).bind fun first =>
    (List.range (first.rest.length + 1)).findSome? fun left =>
      regex.search ⟨before, rest, []⟩ fun later =>
        if later.rest.length = left then some later else none

/-- The first match from a place on, given the character before it. -/
def from? (regex : LineRegex) : Nat → Option Char → Octets → Option LineMatch
  | start, before, rest =>
      match longest? regex before rest with
      | some cursor => some ⟨start, rest.length - cursor.rest.length, cursor.groups⟩
      | none =>
          match rest with
          | [] => none
          | c :: rest => from? regex (start + 1) (some c) rest

end LineMatch

end Console.Shell
