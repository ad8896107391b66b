import Console.Shell.Reader.Symbol

/-!
# Reading commands

A script is read line by line, where a line goes on as long as a command in it is not complete.
The readers below get the reader of the commands inside as an argument; `Reading.form` ties them
together.
-/

namespace Console.Shell

/-- What is to be read. -/
inductive Form where
  /-- The commands up to the end of the line. -/
  | line
  /-- The commands up to a symbol that ends them; there has to be one unless `mayBeEmpty`. -/
  | block (mayBeEmpty : Bool)
  /-- One command. -/
  | single
  deriving DecidableEq, Repr

/-- Reads the commands of a form. -/
abbrev Forms := Form → Reading (List Command)

namespace Reading

/-- The commands between the parentheses of a word. -/
def embedded (inner : Forms) : Reading (List Command) := do
  let commands ← inner (.block true)
  pure commands

/-- Reads a block as one command. -/
def block (inner : Forms) : Reading Command := do
  pure (.sequence (← inner (.block false)))

/-- Refuses a symbol. -/
def unexpected {α : Type} (symbol : Symbol) (expected : Option String) : Reading α :=
  fault (.unexpected symbol.name expected)

/-- Reads a symbol that has to be a keyword. -/
def keyword (inner : Forms) (text : String) : Reading Unit := do
  let symbol ← symbolBelow (embedded inner)
  expect symbol (symbol.isKeyword text) ("\"" ++ text ++ "\"")

/-- Whether an arrow may have nothing but a digit or a dash as its target: a word that stands for
something else is looked at when the command is run. -/
def isDescriptorText (text : Octets) : Bool :=
  match text with
  | [c] => c = '-' || isDigit c
  | _ => false

/-- Reads what follows after an arrow. -/
def redirection (inner : Forms) (descriptor : Nat) (arrow : Arrow) : Reading Redirection := do
  let context : Context := match arrow with | .document _ => ⟨false, .inert⟩ | _ => ⟨false, .blank⟩
  match ← symbolIn context false (embedded inner), arrow with
  | .word word, .file access => pure (.file descriptor access word)
  | .word word, .copy => pure (.copy descriptor word)
  | .word word, .document stripped =>
      let index := (← get).documents.length
      let finalLine := word.flatMap fun part =>
        match part with
        | .plain text | .quoted text => text
        | _ => []
      let verbatim := word.plainText?.isNone
      modify fun source =>
        { source with
          documents := source.documents ++ [[]]
          announced := source.announced ++ [⟨index, finalLine, stripped, verbatim⟩] }
      pure (.document descriptor index)
  | symbol, _ => unexpected symbol none

/-- The redirections after a command, the latest last; the argument bounds their number. -/
def redirections (inner : Forms) : Nat → Reading (List Redirection)
  | 0 => pure []
  | bound + 1 => do
      match ← symbol (embedded inner) with
      | .redirection descriptor arrow =>
          let first ← redirection inner descriptor arrow
          pure (first :: (← redirections inner bound))
      | symbol =>
          hold symbol
          pure []

/-- What has been read of a simple command, each list newest first. -/
structure Simple where
  assignments : List (Octets × Word) := []
  words : List Word := []
  redirections : List Redirection := []

/-- The command that has been read. -/
def Simple.command (simple : Simple) (line : Nat) : Command :=
  .simple line simple.assignments.reverse simple.words.reverse simple.redirections.reverse

/-- The names of commands that functions cannot have. -/
def specialNames : List String :=
  [".", ":", "break", "continue", "eval", "exec", "exit", "export", "local", "readonly", "return",
   "set", "shift", "times", "trap", "unset"]

/-- Reads the rest of a function after an opening parenthesis. -/
def function (inner : Forms) (name : Word) : Reading Command := do
  let symbol ← symbol (embedded inner)
  let closes := match symbol with | .closing => true | _ => false
  expect symbol closes "\")\""
  match name with
  | [.plain text] =>
      if isName text && !specialNames.contains (.ofList text) then
        let first ← symbolBelow (embedded inner)
        hold first
        pure (.define text (.sequence (← inner .single)))
      else fault .badFunctionName
  | _ => fault .badFunctionName

/-- Reads a simple command, or the definition of a function; the first number bounds the number
of its symbols. -/
def simple (inner : Forms) (line : Nat) : Nat → Simple → Reading Command
  | 0, simple => pure (simple.command line)
  | bound + 1, before => do
      match ← symbolIn ⟨false, .blank⟩ before.words.isEmpty (embedded inner) with
      | .word word =>
          match before.words, word.assignment? with
          | [], some assignment =>
              simple inner line bound
                { before with assignments := assignment :: before.assignments }
          | _, _ => simple inner line bound { before with words := word :: before.words }
      | .redirection descriptor arrow =>
          let next ← redirection inner descriptor arrow
          simple inner line bound { before with redirections := next :: before.redirections }
      | symbol =>
          match symbol, before with
          | .opening, ⟨[], [name], []⟩ => function inner name
          | symbol, before =>
              hold symbol
              pure (before.command line)

/-- Reads what follows after the condition of a branch; the number bounds the branches. -/
def branches (inner : Forms) : Nat → Reading Command
  | 0 => fault .missingBrace
  | bound + 1 => do
      let condition ← block inner
      keyword inner "then"
      let accepted ← block inner
      let symbol ← symbolBelow (embedded inner)
      if symbol.isKeyword "elif" then
        pure (.branch condition accepted (← branches inner bound))
      else if symbol.isKeyword "else" then
        let rejected ← block inner
        keyword inner "fi"
        pure (.branch condition accepted rejected)
      else
        expect symbol (symbol.isKeyword "fi") "\"fi\""
        pure (.branch condition accepted (.sequence []))

/-- Reads the words up to the end of a line or a semicolon; the number bounds their number. -/
def wordList (inner : Forms) : Nat → Reading (List Word)
  | 0 => pure []
  | bound + 1 => do
      match ← symbol (embedded inner) with
      | .word word => pure (word :: (← wordList inner bound))
      | .newline | .semicolon => pure []
      | symbol => unexpected symbol none

/-- Reads a loop over words after its keyword. -/
def eachLoop (inner : Forms) (line : Nat) : Reading Command := do
  let name ←
    match ← symbol (embedded inner) with
    | .word [.plain name] => if isName name then pure name else fault .badLoopVariable
    | _ => fault .badLoopVariable
  let symbol ← symbolBelow (embedded inner)
  let words ←
    if symbol.isKeyword "in" then wordList inner (← room)
    else
      match symbol with
      | .semicolon => pure [[.parameter true .arguments .value]]
      | symbol =>
          hold symbol
          pure [[.parameter true .arguments .value]]
  keyword inner "do"
  let body ← block inner
  keyword inner "done"
  pure (.each line name words body)

/-- Reads the patterns of a case after the first one; the number bounds their number. -/
def patterns (inner : Forms) : Nat → Reading (List Word)
  | 0 => pure []
  | bound + 1 => do
      match ← symbol (embedded inner) with
      | .pipe =>
          match ← symbol (embedded inner) with
          | .word word => pure (word :: (← patterns inner bound))
          | _ => patterns inner bound
      | .closing => pure []
      | symbol => unexpected symbol (some "\")\"")

/-- Reads the cases of a choice; the number bounds their number.  Whatever is in place of the first
pattern counts as one. -/
def cases (inner : Forms) : Nat → Reading (List (List Word × Command))
  | 0 => pure []
  | bound + 1 => do
      let first ← plainSymbolBelow (embedded inner)
      if first.isKeyword "esac" then pure []
      else
        let first ←
          match first with
          | .opening => symbol (embedded inner)
          | first => pure first
        let word : Word := match first with | .word word => word | _ => []
        let others ← patterns inner (← room)
        let body ← inner (.block true)
        let next := (word :: others, Command.sequence body)
        match ← symbolBelow (embedded inner) with
        | .caseEnd => pure (next :: (← cases inner bound))
        | symbol =>
            expect symbol (symbol.isKeyword "esac") "\";;\""
            pure [next]

/-- Reads a choice after its keyword. -/
def choice (inner : Forms) (line : Nat) : Reading Command := do
  match ← symbol (embedded inner) with
  | .word subject =>
      keyword inner "in"
      pure (.choice line subject (← cases inner (← room)))
  | symbol => unexpected symbol (some "word")

/-- Reads a command that begins with the given symbol, if it is made of other commands. -/
def compound? (inner : Forms) (line : Nat) (symbol : Symbol) : Option (Reading Command) :=
  match symbol with
  | .opening => some do
      let body ← block inner
      let symbol ← symbolBelow (embedded inner)
      let closes := match symbol with | .closing => true | _ => false
      expect symbol closes "\")\""
      pure (.subshell line body [])
  | symbol =>
      match symbol.keyword? with
      | some "if" => some do branches inner (← room)
      | some "while" => some do
          let condition ← block inner
          keyword inner "do"
          let body ← block inner
          keyword inner "done"
          pure (.loop true condition body)
      | some "until" => some do
          let condition ← block inner
          keyword inner "do"
          let body ← block inner
          keyword inner "done"
          pure (.loop false condition body)
      | some "for" => some (eachLoop inner line)
      | some "case" => some (choice inner line)
      | some "\x7b" => some do
          let body ← block inner
          keyword inner "\x7d"
          pure body
      | _ => none

/-- A command with redirections after it. -/
def withRedirections (line : Nat) (command : Command) (redirections : List Redirection) :
    Command :=
  match command, redirections with
  | command, [] => command
  | .subshell line body _, redirections => .subshell line body redirections
  | command, redirections => .redirected line command redirections

/-- Reads one command. -/
def command (inner : Forms) : Reading Command := do
  let first ← firstSymbol (embedded inner)
  let line := (← get).line
  match compound? inner line first with
  | some compound =>
      let command ← compound
      let redirections ← redirections inner (← room)
      pure (withRedirections line command redirections)
  | none =>
      match first with
      | .word _ | .redirection .. =>
          if first.keyword?.isSome then unexpected first none
          else
            hold first
            simple inner line (← room) {}
      | first => unexpected first none

/-- Reads the commands of a pipeline after the first one; the number bounds their number. -/
def pipeline (inner : Forms) : Nat → Reading (List Command)
  | 0 => pure []
  | bound + 1 => do
      match ← symbol (embedded inner) with
      | .pipe =>
          let first ← symbolBelow (embedded inner)
          hold first
          let next ← command inner
          pure (next :: (← pipeline inner bound))
      | symbol =>
          hold symbol
          pure []

/-- Reads a pipeline, which may be negated. -/
def negatable (inner : Forms) : Reading Command := do
  let first ← firstSymbol (embedded inner)
  let isNegated := first.isKeyword "!"
  unless isNegated do hold first
  let first ← command inner
  let others ← pipeline inner (← room)
  let whole := if others.isEmpty then first else .pipeline (first :: others)
  pure (if isNegated then .negated whole else whole)

/-- Reads the pipelines that are connected with a first one; the number bounds their number. -/
def connected (inner : Forms) : Nat → Command → Reading Command
  | 0, first => pure first
  | bound + 1, first => do
      let next (onSuccess : Bool) : Reading Command := do
        let symbol ← symbolBelow (embedded inner)
        hold symbol
        connected inner bound (.connected onSuccess first (← negatable inner))
      match ← symbol (embedded inner) with
      | .conjunction => next true
      | .disjunction => next false
      | symbol =>
          hold symbol
          pure first

/-- Reads a list of commands, `before` being those before, newest first; the number bounds the
commands and the lines. -/
def list (inner : Forms) (form : Form) : Nat → (isFirst : Bool) → List Command →
    Reading (List Command)
  | 0, _, before => pure before.reverse
  | bound + 1, isFirst, before => do
      let first ←
        if form = .line then firstSymbol (embedded inner) else symbolBelow (embedded inner)
      match first with
      | .newline => pure before.reverse
      | .finish =>
          hold first
          pure before.reverse
      | first =>
          hold first
          if first.endsList && ((form = .block true && isFirst) || (form ≠ .line && !isFirst)) then
            pure before.reverse
          else
            let next ← connected inner (← room) (← negatable inner)
            match ← symbol (embedded inner) with
            | .background => list inner form bound false (.background next :: before)
            | .semicolon => list inner form bound false (next :: before)
            | .newline =>
                if form = .line then pure (next :: before).reverse
                else list inner form bound false (next :: before)
            | .finish =>
                hold .finish
                pure (next :: before).reverse
            | symbol =>
                if form = .line then unexpected symbol none
                else
                  hold symbol
                  pure (next :: before).reverse

/-- Reads commands of any form; the number bounds how deep they are in one another. -/
def form : Nat → Forms
  | 0, _ => fault .missingBrace
  | depth + 1, .single => do pure [← command (form depth)]
  | depth + 1, form' => do list (form depth) form' (← room) true []

end Reading

/-- The next line of a script with commands, and the source after it; none at the end. -/
def Source.next? (source : Source) :
    Except ScriptMistake (Option (List Command) × Source) :=
  match Reading.form (source.rest.length + 1 + 1000 * source.aliases.length) .line source with
  | .error mistake => .error mistake
  | .ok ([], after) =>
      match after.held with
      | some .finish => .ok (none, after)
      | _ => .ok (some [], after)
  | .ok (commands, after) =>
      let isOver := match after.held with | some .finish => true | _ => false
      .ok (some commands, { after with held := none, isOver })

/-- The word that a whole text is, where only the dollar sign, the back quote and the backslash have
a meaning. -/
def Source.word (source : Source) : Except ScriptMistake (Word × Source) :=
  let size := source.rest.length
  let commands := Reading.embedded (Reading.form (size + 1 + 1000 * source.aliases.length))
  Reading.parts commands (2 * size + 2) ⟨true, .never⟩ 0 []
    { source with isDocument := true }

end Console.Shell
