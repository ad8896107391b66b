import Console.Shell.Utility.Grep

/-!
# Scripts that edit lines

A script is a list of commands; each has addresses that say for which lines it is meant, and
changes the line or writes it.  `LineEdit.read` reads a script, which may be given in several
pieces, and says where it is faulty.
-/

namespace Console.Shell

/-- What lines a command is meant for. -/
inductive LineAddress where
  | number (n : Nat)
  | last
  /-- Lines that a pattern matches; without one, the pattern that has been used last. -/
  | matching (regex : Option LineRegex)
  /-- As many lines after the first one. -/
  | after (count : Nat)
  /-- A line and then every so many. -/
  | every (first step : Nat)
  /-- The next line whose number is a multiple. -/
  | upToMultiple (step : Nat)
  deriving Repr

/-- How the letters of a replacement are changed. -/
inductive Casing where
  | upper
  | lower
  | upperFirst
  | lowerFirst
  | unchanged
  deriving DecidableEq, Repr

/-- A part of what a match is replaced by. -/
inductive Replacement where
  | text (text : Octets)
  /-- What a group has matched; number 0 is the whole match. -/
  | group (index : Nat)
  /-- The letters after it are changed. -/
  | casing (casing : Casing)
  deriving DecidableEq, Repr

/-- What is replaced by what. -/
structure Substitution where
  /-- The pattern; without one, it is the pattern that has been used last. -/
  regex : Option LineRegex
  parts : List Replacement
  isGlobal : Bool := false
  prints : Bool := false
  /-- The number of the first match that is replaced. -/
  first : Nat := 1
  /-- The file that a changed line is written to. -/
  file : Option Octets := none
  deriving Repr

/-- What a command does. -/
inductive LineAction where
  | substitute (substitution : Substitution)
  | translate (pairs : List (Char × Char))
  | delete
  | deleteFirst
  | print
  | printFirst
  /-- Shows the line with all characters visible; rows are so long if that is said. -/
  | list (width : Option Nat)
  | quit (status : Nat)
  | quitSilently (status : Nat)
  | number
  | title
  | append (text : Octets)
  | insert (text : Octets)
  | change (text : Octets)
  | next
  | join
  | hold
  | holdMore
  | recover
  | recoverMore
  | exchange
  | clear
  /-- As many commands after it belong to it. -/
  | group (size : Nat)
  | label (name : Octets)
  /-- Goes on at a label, or at the end. -/
  | jump (name : Octets)
  /-- Goes on at a label if something has been replaced in the line, or if nothing has. -/
  | jumpIf (isReplaced : Bool) (name : Octets)
  | readFile (name : Octets)
  | readLine (name : Octets)
  | writeFile (name : Octets)
  | writeFirst (name : Octets)
  | nothing
  deriving Repr

/-- A command of a script. -/
structure LineEdit where
  first : Option LineAddress := none
  second : Option LineAddress := none
  isNegated : Bool := false
  action : LineAction
  deriving Repr

namespace LineEdit

/-! ## Faults -/

/-- What is wrong with a script. -/
inductive Fault where
  | manyNegations
  | noSecondAddress
  | firstIsRelative
  | openGroup
  | strayClosing
  | junk
  | noText
  | closingWithAddress
  | labelWithAddress
  | remarkWithAddress
  | noCommand
  | oneAddress
  | openAddress
  | openSubstitution
  | openTranslation
  | unknownFlag
  | manyFlags (flag : String)
  | zeroNumber
  | unequalLengths
  | lineZero
  | unknownCommand (command : Char)
  | noLabel
  | escapeInEscape
  | noFileName
  | tooOld
  | noGroup (index : Nat)
  | pattern (fault : LinePattern.Fault)
  deriving DecidableEq, Repr

/-- The wording of the fault. -/
def Fault.message : Fault → Octets
  | manyNegations => "multiple `!'s".toList
  | noSecondAddress => "unexpected `,'".toList
  | firstIsRelative => "invalid usage of +N or ~N as first address".toList
  | openGroup => "unmatched `\x7b'".toList
  | strayClosing => "unexpected `\x7d'".toList
  | junk => "extra characters after command".toList
  | noText => "expected \\ after `a', `c' or `i'".toList
  | closingWithAddress => "\x7d doesn't want any addresses".toList
  | labelWithAddress => ": doesn't want any addresses".toList
  | remarkWithAddress => "comments don't accept any addresses".toList
  | noCommand => "missing command".toList
  | oneAddress => "command only uses one address".toList
  | openAddress => "unterminated address regex".toList
  | openSubstitution => "unterminated `s' command".toList
  | openTranslation => "unterminated `y' command".toList
  | unknownFlag => "unknown option to `s'".toList
  | manyFlags flag => ("multiple " ++ flag ++ " options to `s' command").toList
  | zeroNumber => "number option to `s' command may not be zero".toList
  | unequalLengths => "strings for `y' command are different lengths".toList
  | lineZero => "invalid usage of line address 0".toList
  | unknownCommand command => "unknown command: `".toList ++ [command, '\'']
  | noLabel => "\":\" lacks a label".toList
  | escapeInEscape => "recursive escaping after \\c not allowed".toList
  | noFileName => "missing filename in r/R/w/W commands".toList
  | tooOld => "expected newer version of sed".toList
  | noGroup index => ("invalid reference \\" ++ toString index ++ " on `s' command's RHS").toList
  | pattern fault => fault.message.toList

/-- What is read of a script; a fault comes with the text that has not been read. -/
abbrev Reading := Except (Fault × Octets)

/-! ## Texts in scripts -/

/-- The raw text of a bracket in a pattern and what follows it, after its opening; the number bounds
its length. -/
def bracketText? : Nat → (isFirst : Bool) → Octets → Option (Octets × Octets)
  | 0, _, _ | _, _, [] => none
  | fuel + 1, isFirst, c :: rest =>
      let more (text : Octets) (isFirst : Bool) (rest : Octets) : Option (Octets × Octets) :=
        (bracketText? fuel isFirst rest).map fun (others, rest) => (text ++ others, rest)
      match c, rest with
      | '\n', _ => none
      | '^', rest => more [c] isFirst rest
      | ']', rest => if isFirst then more [c] false rest else some ([c], rest)
      | '\\', 'n' :: rest => more ['\n'] false rest
      | '[', mark :: after =>
          if mark = ':' || mark = '.' || mark = '=' then
            match LinePattern.marked? mark after with
            | some (name, rest) => more ([c, mark] ++ name ++ [mark, ']']) false rest
            | none => more [c] false rest
          else more [c] false rest
      | c, rest => more [c] false rest

/-- The text up to a separator and what follows it, or else what has not been read when the line
ends.  A backslash takes the meaning of the separator; in a pattern a separator may stand between
brackets.  The number bounds the length. -/
def delimited (isPattern : Bool) (separator : Char) : Nat → Octets →
    Except Octets (Octets × Octets)
  | 0, text => .error text
  | _, [] => .error []
  | fuel + 1, c :: rest =>
      let more (front : Octets) (rest : Octets) : Except Octets (Octets × Octets) :=
        (delimited isPattern separator fuel rest).map fun (others, rest) => (front ++ others, rest)
      if c = separator then if c = '\n' then .error (c :: rest) else .ok ([], rest)
      else
        match c, rest with
        | '\n', _ => .error (c :: rest)
        | '\\', [] => .error []
        | '\\', d :: rest =>
            if d = separator && (isPattern || d != '&') then more [d] rest
            else if isPattern && d = 'n' then more ['\n'] rest
            else more [c, d] rest
        | '[', rest =>
            if isPattern then
              match bracketText? rest.length true rest with
              | some (text, rest) => more (c :: text) rest
              | none => .error (rest.dropWhile (· != '\n'))
            else more [c] rest
        | c, rest => more [c] rest

/-- Where escapes stand: they are characters, but those that would mean something in a replacement
or a plain text keep a backslash. -/
inductive EscapePlace where
  | pattern
  | replacement
  | plain
  deriving DecidableEq, Repr

/-- A character that has been given by its number. -/
def EscapePlace.written (place : EscapePlace) (c : Char) : Octets :=
  match place with
  | pattern => [c]
  | replacement => if c = '&' || c = '\\' then ['\\', c] else [c]
  | plain => if c = '\\' then ['\\', c] else [c]

/-- The character that a letter after a backslash stands for. -/
def escapeLetter? (letter : Char) : Option Char :=
  [('a', '\x07'), ('f', '\x0c'), ('n', '\n'), ('r', '\r'), ('t', '\t'), ('v', '\x0b')].lookup letter

/-- The base and the greatest number of digits of a number after a letter. -/
def escapeBase? (letter : Char) : Option (Nat × Nat) :=
  [('d', 10, 3), ('o', 8, 3), ('x', 16, 2)].lookup letter

/-- A text with characters for the escapes that stand for them; none if an escape stands in another
one.  The number bounds the length. -/
def unescaped? (place : EscapePlace) : Nat → Octets → Option Octets
  | 0, text => some text
  | fuel + 1, text =>
      let more (front : Octets) (rest : Octets) : Option Octets :=
        (unescaped? place fuel rest).map (front ++ ·)
      match text with
      | [] => some []
      | ['\\', 'c'] => some (place.written '\\')
      | '\\' :: 'c' :: '\\' :: rest =>
          match rest with
          | '\\' :: rest => more (place.written '\x1c') rest
          | _ => none
      | '\\' :: 'c' :: c :: rest =>
          more (place.written (Char.ofNat (c.toUpper.toNat ^^^ 0x40))) rest
      | '\\' :: letter :: rest =>
          match escapeLetter? letter, escapeBase? letter with
          | some c, _ => more [c] rest
          | none, some (base, most) =>
              let (value, count, _) := digitsOf base (rest.take most)
              if count = 0 then more ['\\', letter] rest
              else more (place.written (Char.ofNat (value % 256))) (rest.drop count)
          | none, none => more ['\\', letter] rest
      | c :: rest => more [c] rest

/-- A text with characters for escapes; `after` is the text that has not been read. -/
def unescape (place : EscapePlace) (after text : Octets) : Reading Octets :=
  match unescaped? place text.length text with
  | some text => .ok text
  | none => .error (.escapeInEscape, after)

/-- What a backslash in front of a character means in a replacement. -/
def replacementEscape (c : Char) : Replacement :=
  match c with
  | 'U' => .casing .upper
  | 'L' => .casing .lower
  | 'u' => .casing .upperFirst
  | 'l' => .casing .lowerFirst
  | 'E' => .casing .unchanged
  | c => if '0' ≤ c && c ≤ '9' then .group (c.toNat - '0'.toNat) else .text [c]

/-- The parts of a replacement. -/
def replacements : Octets → List Replacement
  | [] => []
  | '&' :: rest => .group 0 :: replacements rest
  | '\\' :: c :: rest => replacementEscape c :: replacements rest
  | c :: rest => .text [c] :: replacements rest

/-- A text without its backslashes; a backslash after another one stays. -/
def withoutBackslashes : Octets → Octets
  | '\\' :: c :: rest => c :: withoutBackslashes rest
  | ['\\'] => []
  | c :: rest => c :: withoutBackslashes rest
  | [] => []

/-- A text without the blanks at its beginning. -/
def withoutBlanks (text : Octets) : Octets := text.dropWhile fun c => c = ' ' || c = '\t'

/-- The text up to the end of a line, which no backslash precedes, with that end, and what
follows. -/
def textLine : Octets → Octets × Octets
  | [] => ([], [])
  | '\n' :: rest => (['\n'], rest)
  | '\\' :: c :: rest =>
      let (text, rest) := textLine rest
      ('\\' :: c :: text, rest)
  | c :: rest =>
      let (text, rest) := textLine rest
      (c :: text, rest)

/-- The text that a command adds and what follows it: the rest of the line, or the next line after
a backslash. -/
def addition (text : Octets) : Reading (Octets × Octets) :=
  match withoutBlanks text with
  | [] => .error (.noText, [])
  | ['\\'] => .ok ([], [])
  | '\\' :: '\n' :: rest => finish rest
  | '\\' :: rest => finish rest
  | rest => finish rest
where
  /-- The text itself. -/
  finish (text : Octets) : Reading (Octets × Octets) := do
    let (line, rest) := textLine text
    let text ← unescape .plain rest line
    let text := withoutBackslashes text
    pure (if text.getLast? = some '\n' then text else text ++ ['\n'], rest)

/-- A name up to a blank or the end of a command, and what follows it. -/
def labelName (text : Octets) : Octets × Octets :=
  let text := withoutBlanks text
  let name := text.takeWhile fun c =>
    !isNumberBlank c && c != ';' && c != '#' && c != '\x7d'
  (name, text.drop name.length)

/-- A name up to the end of the line, and what follows it. -/
def fileName (text : Octets) : Reading (Octets × Octets) :=
  let text := withoutBlanks text
  let name := text.takeWhile (· != '\n')
  if name.isEmpty then .error (.noFileName, text) else .ok (name, text.drop (name.length + 1))

/-- The number at the beginning of a text after blanks, if there is one, and what follows. -/
def numberFront (text : Octets) : Option Nat × Octets :=
  match digitsOf 10 (withoutBlanks text) with
  | (_, 0, rest) => (none, rest)
  | (value, _, rest) => (some value, rest)

/-! ## Addresses -/

/-- The expression of a pattern, and the number of its groups; an empty pattern has none. -/
def regexOf (form : PatternForm) (after pattern : Octets) : Reading (Option (LineRegex × Nat)) := do
  let pattern ← unescape .pattern after pattern
  if pattern.isEmpty then pure none
  else
    match LinePattern.read form pattern with
    | .ok found => pure (some found)
    | .error fault => .error (.pattern fault, after)

/-- The flags after a pattern that is an address. -/
def addressFlags (form : PatternForm) : Octets → PatternForm × Octets
  | [] => (form, [])
  | c :: rest =>
      if c = 'I' then addressFlags { form with ignoresCase := true } rest
      else if c = 'M' then addressFlags { form with isByLines := true } rest
      else if c = ' ' || c = '\t' then addressFlags form rest
      else (form, c :: rest)

/-- An address and what follows it, if there is one. -/
def address (form : PatternForm) (text : Octets) : Reading (Option LineAddress × Octets) :=
  match text with
  | '$' :: rest => .ok (some .last, rest)
  | '/' :: rest => pattern '/' rest
  | ['\\'] => .error (.openAddress, [])
  | '\\' :: separator :: rest => pattern separator rest
  | '+' :: rest =>
      let (count, rest) := numberFront rest
      .ok (some (.after (count.getD 0)), rest)
  | '~' :: rest =>
      let (step, rest) := numberFront rest
      .ok (some (.upToMultiple (step.getD 0)), rest)
  | text =>
      match digitsOf 10 text with
      | (_, 0, _) => .ok (none, text)
      | (value, _, rest) =>
          match withoutBlanks rest with
          | '~' :: rest =>
              let (step, rest) := numberFront rest
              let address :=
                if step.getD 0 = 0 then .number value else .every value (step.getD 0)
              .ok (some address, rest)
          | rest => .ok (some (.number value), rest)
where
  /-- An address that is a pattern, after its first separator. -/
  pattern (separator : Char) (text : Octets) : Reading (Option LineAddress × Octets) :=
    match delimited true separator text.length text with
    | .error rest => .error (.openAddress, rest)
    | .ok (pattern, rest) => do
        let (form, rest) := addressFlags form rest
        let regex ← regexOf form rest pattern
        pure (some (.matching (regex.map (·.1))), rest)

/-- The addresses of a command, whether they are negated, and what follows. -/
def addresses (form : PatternForm) (text : Octets) :
    Reading ((Option LineAddress × Option LineAddress × Bool) × Octets) := do
  let (first, rest) ← address form text
  let first ←
    match first with
    | some (.after 0) | some (.upToMultiple 0) => pure none
    | some (.after _) | some (.upToMultiple _) => .error (.firstIsRelative, rest)
    | first => pure first
  let rest := withoutBlanks rest
  let (second, rest) ←
    match first, rest with
    | some _, ',' :: rest =>
        match ← address form (withoutBlanks rest) with
        | (none, rest) => .error (.noSecondAddress, rest.drop 1)
        | (second, rest) => pure (second, withoutBlanks rest)
    | _, rest => pure (none, rest)
  match first, second with
  | some (.number 0), some (.matching _) => pure ()
  | some (.number 0), _ => .error (.lineZero, rest.drop 1)
  | _, _ => pure ()
  match rest with
  | '!' :: rest =>
      match withoutBlanks rest with
      | '!' :: rest => .error (.manyNegations, rest)
      | rest => pure ((first, second, true), rest)
  | rest => pure ((first, second, false), rest)

/-! ## Commands -/

/-- What follows a command after its end. -/
def finish (text : Octets) : Reading Octets :=
  match withoutBlanks text with
  | [] => .ok []
  | c :: rest =>
      if c = '\x7d' || c = '#' then .ok (c :: rest)
      else if c = '\n' || c = ';' then .ok rest
      else .error (.junk, rest)

/-- The flags after a replacement, and what follows the command. -/
def flags (form : PatternForm) (found : Substitution) (hasNumber : Bool) : Nat → Octets →
    Reading (PatternForm × Substitution × Octets)
  | 0, rest => .ok (form, found, rest)
  | fuel + 1, text =>
      match text with
      | [] => .ok (form, found, [])
      | c :: rest =>
          match c with
          | ' ' | '\t' => flags form found hasNumber fuel rest
          | 'i' | 'I' => flags { form with ignoresCase := true } found hasNumber fuel rest
          | 'm' | 'M' => flags { form with isByLines := true } found hasNumber fuel rest
          | 'p' =>
              if found.prints then .error (.manyFlags "`p'", rest)
              else flags form { found with prints := true } hasNumber fuel rest
          | 'g' =>
              if found.isGlobal then .error (.manyFlags "`g'", rest)
              else flags form { found with isGlobal := true } hasNumber fuel rest
          | 'w' => do
              let (name, rest) ← fileName rest
              pure (form, { found with file := some name }, rest)
          | '\x7d' | '#' => .ok (form, found, c :: rest)
          | '\n' | ';' => .ok (form, found, rest)
          | c =>
              match digitsOf 10 (c :: rest) with
              | (_, 0, _) => .error (.unknownFlag, rest)
              | (value, _, after) =>
                  if hasNumber then .error (.manyFlags "number", rest)
                  else if value = 0 then .error (.zeroNumber, after)
                  else flags form { found with first := value } true fuel after

/-- The command that replaces, and what follows it. -/
def substitution (form : PatternForm) (text : Octets) : Reading (LineAction × Octets) :=
  match text with
  | [] => .error (.openSubstitution, [])
  | separator :: rest =>
      match delimited true separator rest.length rest with
      | .error rest => .error (.openSubstitution, rest)
      | .ok (pattern, rest) =>
          match delimited false separator rest.length rest with
          | .error rest => .error (.openSubstitution, rest)
          | .ok (text, rest) => do
              let text ← unescape .replacement rest text
              let parts := replacements text
              let (form, found, rest) ←
                flags form { regex := none, parts } false (rest.length + 1) rest
              let regex ← regexOf form rest pattern
              let greatest := (parts.filterMap fun part =>
                match part with | .group index => some index | _ => none).foldl max 0
              match regex with
              | some (regex, groups) =>
                  if groups < greatest then .error (.noGroup greatest, rest)
                  else pure (.substitute { found with regex := some regex }, rest)
              | none => pure (.substitute found, rest)

/-- The command that puts characters in the place of others, and what follows it. -/
def translation (text : Octets) : Reading (LineAction × Octets) :=
  match text with
  | [] => .error (.openTranslation, [])
  | separator :: rest =>
      match delimited false separator rest.length rest with
      | .error rest => .error (.openTranslation, rest)
      | .ok (before, rest) =>
          match delimited false separator rest.length rest with
          | .error rest => .error (.openTranslation, rest)
          | .ok (after, rest) => do
              let before := withoutBackslashes (← unescape .plain rest before)
              let after := withoutBackslashes (← unescape .plain rest after)
              if before.length != after.length then .error (.unequalLengths, rest)
              else pure (.translate (before.zip after), ← finish rest)

/-- Whether a version that a script asks for is no later than the one whose scripts are read. -/
def isKnownVersion (name : Octets) : Bool :=
  let parts := (Octets.splitAt (· == '.') name).map fun part =>
    match digitsOf 10 part with
    | (value, _, []) => if part.isEmpty then none else some value
    | _ => none
  match parts with
  | [some major, some minor] | [some major, some minor, some 0] =>
      major < 4 || (major = 4 && minor ≤ 9)
  | [some major, some minor, some _] => major < 4 || (major = 4 && minor < 9)
  | _ => false

/-- A command that goes on with the next one at once. -/
def simple? (c : Char) : Option LineAction :=
  match c with
  | 'd' => some .delete
  | 'D' => some .deleteFirst
  | 'p' => some .print
  | 'P' => some .printFirst
  | '=' => some .number
  | 'F' => some .title
  | 'n' => some .next
  | 'N' => some .join
  | 'h' => some .hold
  | 'H' => some .holdMore
  | 'g' => some .recover
  | 'G' => some .recoverMore
  | 'x' => some .exchange
  | 'z' => some .clear
  | _ => none

/-- What a command does, and what follows it; `addresses` is their number. -/
def actionFrom (form : PatternForm) (addresses : Nat) (c : Char) (rest : Octets) :
    Reading (LineAction × Octets) :=
  match simple? c with
  | some action => do pure (action, ← finish rest)
  | none =>
      match c with
      | 'q' | 'Q' =>
          if addresses = 2 then .error (.oneAddress, rest)
          else
            let (status, rest) := numberFront rest
            let status := status.getD 0 % 256
            do pure (if c = 'q' then .quit status else .quitSilently status, ← finish rest)
      | 'l' =>
          let (width, rest) := numberFront rest
          do pure (.list width, ← finish rest)
      | ':' =>
          if addresses != 0 then .error (.labelWithAddress, rest)
          else
            let (name, rest) := labelName rest
            if name.isEmpty then .error (.noLabel, rest) else .ok (.label name, rest)
      | 'b' => let (name, rest) := labelName rest; .ok (.jump name, rest)
      | 't' => let (name, rest) := labelName rest; .ok (.jumpIf true name, rest)
      | 'T' => let (name, rest) := labelName rest; .ok (.jumpIf false name, rest)
      | 'v' =>
          let (name, rest) := labelName rest
          if name.isEmpty || isKnownVersion name then .ok (.nothing, rest)
          else .error (.tooOld, rest)
      | 'r' => do let (name, rest) ← fileName rest; pure (.readFile name, rest)
      | 'R' => do let (name, rest) ← fileName rest; pure (.readLine name, rest)
      | 'w' => do let (name, rest) ← fileName rest; pure (.writeFile name, rest)
      | 'W' => do let (name, rest) ← fileName rest; pure (.writeFirst name, rest)
      | 'a' => do let (text, rest) ← addition rest; pure (.append text, rest)
      | 'i' => do let (text, rest) ← addition rest; pure (.insert text, rest)
      | 'c' => do let (text, rest) ← addition rest; pure (.change text, rest)
      | 's' => substitution form rest
      | 'y' => translation rest
      | c => .error (.unknownCommand c, rest)

/-! ## Scripts -/

/-- The commands of a piece of a script, none for the end of a group, and how many groups are open
after it, which `depth` have been before; the number bounds the number of commands. -/
def commands (form : PatternForm) : Nat → (depth : Nat) → Octets →
    Reading (List (Option LineEdit) × Nat)
  | 0, depth, _ => .ok ([], depth)
  | fuel + 1, depth, text =>
      let goOn (depth : Nat) (edit : Option LineEdit) (rest : Octets) :
          Reading (List (Option LineEdit) × Nat) :=
        (commands form fuel depth rest).map fun (others, depth) => (edit :: others, depth)
      let text := text.dropWhile fun c => isNumberBlank c || c = ';'
      if text.isEmpty then .ok ([], depth)
      else do
        let ((first, second, isNegated), rest) ← addresses form text
        let count := first.toList.length + second.toList.length
        match rest with
        | [] => .error (.noCommand, [])
        | '#' :: rest =>
            if count != 0 then .error (.remarkWithAddress, rest)
            else commands form fuel depth (rest.dropWhile (· != '\n'))
        | '\x7b' :: rest =>
            goOn (depth + 1) (some { first, second, isNegated, action := .group 0 }) rest
        | '\x7d' :: rest =>
            if depth = 0 then .error (.strayClosing, rest)
            else if count != 0 then .error (.closingWithAddress, rest)
            else goOn (depth - 1) none (← finish rest)
        | c :: rest => do
            let (action, rest) ← actionFrom form count c rest
            goOn depth (some { first, second, isNegated, action }) rest

/-- Commands with the sizes of their groups, after `later`: the commands of the groups that have
been left open, the innermost first. -/
def grouped (edit : Option LineEdit) (later : List (List LineEdit)) : List (List LineEdit) :=
  match edit, later with
  | none, later => [] :: later
  | some edit, inner :: later =>
      match edit.action, later with
      | .group _, outer :: later =>
          ({ edit with action := .group inner.length } :: inner ++ outer) :: later
      | _, later => (edit :: inner) :: later
  | some edit, [] => [[edit]]

/-- Where a piece of a script comes from. -/
inductive Origin where
  /-- An argument, counted from one. -/
  | argument (number : Nat)
  | file (name : Octets)
  deriving DecidableEq, Repr

/-- The place in a piece of a script that is so long before the end. -/
def Origin.place (origin : Origin) (text rest : Octets) : Octets :=
  let front := text.take (text.length - rest.length)
  match origin with
  | argument number =>
      "-e expression #".toList ++ (toString number).toList ++ ", char ".toList ++
        (toString front.length).toList
  | file name =>
      "file ".toList ++ name ++ " line ".toList ++
        (toString (front.count '\n' + 1)).toList

/-- Whether a piece of a script ends in the middle of a text that the next one goes on with. -/
def isUnfinished (text : Octets) : Bool :=
  text.getLast? = some '\\' && (text.reverse.takeWhile (· == '\\')).length % 2 = 1

/-- The commands of the pieces of a script, or a complaint; `depth` groups have been left open, the
first of them at `opening`. -/
def pieces (form : PatternForm) (depth : Nat) (opening : Octets) :
    List (Origin × Octets) → Except Octets (List (Option LineEdit))
  | [] =>
      if depth = 0 then .ok []
      else .error (opening ++ ": ".toList ++ Fault.openGroup.message)
  | (origin, text) :: rest =>
      match commands form (text.length + 1) depth text with
      | .error (fault, rest) =>
          .error (origin.place text rest ++ ": ".toList ++ fault.message)
      | .ok (edits, later) =>
          let opening :=
            if depth != 0 then opening
            else
              match origin with
              | .argument number =>
                  "-e expression #".toList ++ (toString number).toList ++ ", char 0".toList
              | .file _ => origin.place text (text.reverse.takeWhile (· != '\x7b'))
          (pieces form later opening rest).map (edits ++ ·)

/-- The pieces of a script from one on, where a piece that is not finished is joined with the next
one. -/
def joined (origin : Origin) (text : Octets) : List (Origin × Octets) → List (Origin × Octets)
  | [] => [(origin, text)]
  | (next, more) :: rest =>
      if isUnfinished text then joined origin (text ++ '\n' :: more) rest
      else (origin, text) :: joined next more rest

/-- The commands of a script in pieces, or a complaint. -/
def read (form : PatternForm) (script : List (Origin × Octets)) :
    Except Octets (List LineEdit) :=
  let script :=
    match script with
    | [] => []
    | (origin, text) :: rest => joined origin text rest
  (pieces form 0 [] script).map fun edits => (edits.foldr grouped [[]]).headD []

end LineEdit

end Console.Shell
