import Console.Shell.Script
import Console.Text.Decimal

/-!
# The text of a script while it is read

Scripts are read character by character, with one symbol held back at most.  A backslash in front
of a line end joins two lines wherever characters are looked at.  Texts that are announced in one
line follow after it, up to the line that ends them; they are kept by number until they are asked
for.  What keeps a text from being a script is kept with the line where it shows.
-/

namespace Console.Shell

/-! ## Faults -/

/-- What is wrong with a script. -/
inductive ScriptFault where
  /-- A symbol that cannot stand there, and the one that is needed instead if there is only one. -/
  | unexpected (symbol : String) (expected : Option String)
  | unterminatedQuote
  | missingBrace
  | missingParentheses
  | unterminatedSubstitution
  | badLoopVariable
  | badFunctionName
  | badDescriptor
  deriving DecidableEq, Repr

/-- The wording of the fault. -/
def ScriptFault.message : ScriptFault → String
  | unexpected symbol none => symbol ++ " unexpected"
  | unexpected symbol (some expected) => symbol ++ " unexpected (expecting " ++ expected ++ ")"
  | unterminatedQuote => "Unterminated quoted string"
  | missingBrace => "Missing '\x7d'"
  | missingParentheses => "Missing '))'"
  | unterminatedSubstitution => "EOF in backquote substitution"
  | badLoopVariable => "Bad for loop variable"
  | badFunctionName => "Bad function name"
  | badDescriptor => "Bad fd number"

/-- A fault and the line that it shows in. -/
structure ScriptMistake where
  line : Nat
  fault : ScriptFault
  deriving DecidableEq, Repr

/-! ## Symbols and their source -/

/-- How a redirection is written. -/
inductive Arrow where
  | file (access : Access)
  | copy
  /-- A text that follows in the script; `stripped` takes the tabs off its lines. -/
  | document (stripped : Bool)
  deriving DecidableEq, Repr

/-- The symbols that scripts are made of. -/
inductive Symbol where
  | finish
  | newline
  | semicolon
  | background
  | conjunction
  | disjunction
  | pipe
  | opening
  | closing
  | caseEnd
  | redirection (descriptor : Nat) (arrow : Arrow)
  | word (word : Word)

namespace Symbol

/-- The words that structure a script where a command may begin. -/
def keywords : List String :=
  ["!", "case", "do", "done", "elif", "else", "esac", "fi", "for", "if", "in", "then", "until",
   "while", "\x7b", "\x7d"]

/-- The keyword that a symbol is. -/
def keyword? : Symbol → Option String
  | word [.plain text] => keywords.find? fun keyword => keyword.toList == text
  | _ => none

/-- Whether a symbol is a keyword. -/
def isKeyword (symbol : Symbol) (keyword : String) : Bool := symbol.keyword? == some keyword

/-- What a symbol is called. -/
def name (symbol : Symbol) : String :=
  match symbol with
  | finish => "end of file"
  | newline => "newline"
  | semicolon => "\";\""
  | background => "\"&\""
  | conjunction => "\"&&\""
  | disjunction => "\"||\""
  | pipe => "\"|\""
  | opening => "\"(\""
  | closing => "\")\""
  | caseEnd => "\";;\""
  | redirection .. => "redirection"
  | word _ =>
      match symbol.keyword? with
      | some keyword => "\"" ++ keyword ++ "\""
      | none => "word"

/-- Whether no command can begin with a symbol because it ends a list of commands. -/
def endsList (symbol : Symbol) : Bool :=
  match symbol with
  | finish | closing | caseEnd => true
  | symbol =>
      ["do", "done", "elif", "else", "esac", "fi", "then", "\x7d"].any symbol.isKeyword

end Symbol

/-- A text that is announced and not yet read. -/
structure Announced where
  index : Nat
  /-- The line that ends it. -/
  finalLine : Octets
  stripped : Bool
  /-- Whether it is taken as it is. -/
  verbatim : Bool

/-- The text of an alias while it is read. -/
structure AliasUse where
  name : Octets
  /-- The number of characters after the text. -/
  left : Nat
  /-- Whether the word after the text may be an alias too. -/
  opensNext : Bool

/-- What is left of a script, and what is remembered of what has been read. -/
structure Source where
  rest : Octets
  line : Nat := 1
  /-- Words that stand for texts where a command may begin. -/
  aliases : List (Octets × Octets) := []
  aliasUses : List AliasUse := []
  /-- How much was left where the latest word began. -/
  wordStart : Nat := 0
  held : Option Symbol := none
  /-- The texts that follow after this line. -/
  announced : List Announced := []
  /-- The texts in the script by their numbers. -/
  documents : List Word := []
  /-- The text that is being read, as long as the line that ends it has not been found. -/
  open? : Option Announced := none
  /-- Whether what is read is such a text, or a part of one. -/
  isDocument : Bool := false
  /-- What follows after the line that has ended the text. -/
  following : Octets := []
  /-- Whether the script has ended together with the latest line of commands. -/
  isOver : Bool := false

/-- Reads from a script. -/
abbrev Reading := StateT Source (Except ScriptMistake)

namespace Reading

/-- Refuses the script. -/
def fault {α : Type} (fault : ScriptFault) : Reading α := do
  let source ← get
  throw ⟨source.line, fault⟩

/-- Takes characters off. -/
def drop (count : Nat) : Reading Unit := modify fun source =>
  { source with
    rest := source.rest.drop count
    line := source.line + (source.rest.take count).count '\n' }

/-- A text without the joints at its beginning, and how many there are. -/
def withoutJoints : Octets → Octets × Nat
  | '\\' :: '\n' :: rest =>
      let (rest, count) := withoutJoints rest
      (rest, count + 1)
  | rest => (rest, 0)

/-- The next character, without taking it. -/
def peek : Reading (Option Char) := do
  let source ← get
  let (rest, count) := withoutJoints source.rest
  set { source with rest, line := source.line + count }
  pure rest.head?

/-- The next character as it is, taken off. -/
def takeRaw : Reading (Option Char) := do
  let source ← get
  drop 1
  pure source.rest.head?

/-- Takes the next character if it is the given one. -/
def skipIf (c : Char) : Reading Bool := do
  if (← peek) == some c then
    drop 1
    pure true
  else pure false

/-- A bound for the number of symbols that are left. -/
def room : Reading Nat := do
  let source ← get
  pure (source.rest.length + 2 + 10000 * source.aliases.length)

/-- Takes characters as long as they are accepted; the argument bounds their number. -/
def takeWhile (accepts : Char → Bool) : Nat → Reading Octets
  | 0 => pure []
  | bound + 1 => do
      match ← peek with
      | none => pure []
      | some c =>
          if accepts c then
            drop 1
            pure (c :: (← takeWhile accepts bound))
          else pure []

/-- Takes all characters in front as long as they are accepted. -/
def takeAll (accepts : Char → Bool) : Reading Octets := do
  takeWhile accepts (← get).rest.length

/-- Begins a line of the text that is being read: if it is the one that ends the text, nothing is
left to be read until the script is gone on with. -/
def beginLine : Reading Unit := do
  match (← get).open? with
  | none => pure ()
  | some announced =>
      let _ ← peek
      if announced.stripped then drop ((← get).rest.takeWhile (· == '\t')).length
      let source ← get
      let after := source.rest.drop announced.finalLine.length
      if announced.finalLine.isPrefixOf source.rest && after.head?.all (· == '\n') then
        set
          { source with
            rest := []
            following := after.drop 1
            line := source.line + min after.length 1
            open? := none }

/-- Reads the text that has been announced, and goes on with the script after it. -/
def toEnd {α : Type} (announced : Announced) (reading : Reading α) : Reading α := do
  modify ({ · with open? := some announced, isDocument := true })
  beginLine
  let result ← reading
  modify fun source =>
    { source with rest := source.following, following := [], open? := none, isDocument := false }
  pure result

/-- Reads something in which no line ends the text that is being read, nor announces another one. -/
def apart {α : Type} (reading : Reading α) : Reading α := do
  let outer ← get
  set { outer with announced := [], open? := none, isDocument := false }
  let result ← reading
  modify fun source =>
    { source with
      announced := outer.announced
      open? := outer.open?
      isDocument := outer.isDocument }
  pure result

/-- Reads from another text in place of the script, and comes back to the script after it.  The
lines of the text are counted by themselves. -/
def within {α : Type} (text : Octets) (reading : Reading α) : Reading α := apart do
  let outer ← get
  set { outer with rest := text, line := 1 }
  let result ← reading
  modify fun inner => { inner with rest := outer.rest, line := outer.line, held := none }
  pure result

end Reading

end Console.Shell
