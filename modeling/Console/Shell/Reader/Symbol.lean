import Console.Shell.Reader.Word

/-!
# Reading symbols

Blanks and comments stand between symbols.  After a line end the texts that have been announced in
the line are read before anything else.
-/

namespace Console.Shell.Reading

/-- Skips blanks and comments; the argument bounds their number. -/
def skipBlanks : Nat → Reading Unit
  | 0 => pure ()
  | bound + 1 => do
      match ← peek with
      | some ' ' | some '\t' =>
          drop 1
          skipBlanks bound
      | some '#' =>
          drop ((← get).rest.takeWhile (· != '\n')).length
          skipBlanks bound
      | _ => pure ()

/-- A line without the tabs it begins with. -/
def withoutTabs (line : Octets) : Octets := line.dropWhile (· == '\t')

/-- The lines up to the one that ends a text, and the number of characters they take with it. -/
def documentLines (announced : Announced) : List Octets → Octets × Nat
  | [] => ([], 0)
  | line :: rest =>
      let text := if announced.stripped then withoutTabs line else line
      if text.takeWhile (· != '\n') = announced.finalLine then ([], line.length)
      else
        let (document, length) := documentLines announced rest
        (text ++ document, line.length + length)

/-- Reads a text that has been announced. -/
def document (commands : Reading (List Command)) (announced : Announced) : Reading Unit := do
  let source ← get
  let word ←
    if announced.verbatim then
      let (text, length) := documentLines announced (Octets.lines source.rest)
      drop length
      pure [Part.quoted text]
    else toEnd announced (parts commands (2 * source.rest.length + 2) ⟨true, .never⟩ 0 [])
  modify fun source => { source with documents := source.documents.set announced.index word }

/-- Reads all texts that have been announced. -/
def documents (commands : Reading (List Command)) : Reading Unit := do
  let announced := (← get).announced
  modify fun source => { source with announced := [] }
  announced.forM (document commands)

/-- Holds a symbol back, to be read again. -/
def hold (symbol : Symbol) : Reading Unit :=
  modify fun source => { source with held := some symbol }

/-- The arrow that is written with a character and those after it. -/
def arrow (c : Char) : Reading Arrow := do
  if c = '>' then
    if ← skipIf '>' then pure (.file .append)
    else if ← skipIf '|' then pure (.file (.write true))
    else if ← skipIf '&' then pure .copy
    else pure (.file (.write false))
  else if ← skipIf '<' then
    let stripped ← skipIf '-'
    pure (.document stripped)
  else if ← skipIf '&' then pure .copy
  else if ← skipIf '>' then pure (.file .readAndWrite)
  else pure (.file .read)

/-- The symbol that a character begins outside words. -/
def operator (commands : Reading (List Command)) (c : Char) : Reading Symbol := do
  drop 1
  if c = '\n' then
    documents commands
    pure .newline
  else if c = ';' then pure (if ← skipIf ';' then .caseEnd else .semicolon)
  else if c = '&' then pure (if ← skipIf '&' then .conjunction else .background)
  else if c = '|' then pure (if ← skipIf '|' then .disjunction else .pipe)
  else if c = '(' then pure .opening
  else if c = ')' then pure .closing
  else pure (.redirection (if c = '>' then 1 else 0) (← arrow c))

/-- A word, or a redirection if the word is a digit in front of an arrow. -/
def wordSymbol (commands : Reading (List Command)) (context : Context) : Reading Symbol := do
  let word ← parts commands (2 * (← get).rest.length + 2) context 0 []
  match word, ← peek with
  | [.plain [d]], some c =>
      if isDigit d && (c = '<' || c = '>') then
        drop 1
        pure (.redirection (Text.digitValue d) (← arrow c))
      else pure (.word word)
  | word, _ => pure (.word word)

/-- The next symbol of the text, and whether it is where the text of an alias that ends in a blank
has just been left; a word is read in the given context. -/
def nextSymbol (context : Context) (commands : Reading (List Command)) :
    Reading (Symbol × Bool) := do
  skipBlanks (← get).rest.length
  match ← peek with
  | none =>
      documents commands
      pure (.finish, false)
  | some c =>
      if endsWord c then pure (← operator commands c, false)
      else
        let source ← get
        let wordStart := source.rest.length
        let isOver (use : AliasUse) : Bool := wordStart ≤ use.left
        set { source with wordStart, aliasUses := source.aliasUses.filter (!isOver ·) }
        let word ← wordSymbol commands context
        pure (word, source.aliasUses.any fun use => isOver use && use.opensNext)

/-- Whether a text ends in a blank. -/
def endsInBlank (text : Octets) : Bool :=
  match text.getLast? with
  | some c => c = ' ' || c = '\t'
  | none => false

/-- The next symbol, in place of which the text of an alias is read if `mayBeAlias`.  An alias means
nothing else while its text is read; the number bounds the aliases in one another. -/
def expandedSymbol (context : Context) (commands : Reading (List Command)) :
    Nat → (mayBeAlias : Bool) → Reading Symbol
  | 0, _ => do pure (← nextSymbol context commands).1
  | bound + 1, mayBeAlias => do
      let (symbol, isOpened) ← nextSymbol context commands
      let source ← get
      match symbol, mayBeAlias || isOpened with
      | .word [.plain name], true =>
          match source.aliases.lookup name with
          | none => pure symbol
          | some text =>
              if symbol.keyword?.isSome || source.aliasUses.any (·.name == name) then pure symbol
              else
                let use : AliasUse := ⟨name, source.rest.length, endsInBlank text⟩
                unless text.isEmpty do
                  set { source with
                    rest := text ++ source.rest, aliasUses := use :: source.aliasUses }
                expandedSymbol context commands bound true
      | symbol, _ => pure symbol

/-- The next symbol, or the one that is held back. -/
def symbolIn (context : Context) (mayBeAlias : Bool) (commands : Reading (List Command)) :
    Reading Symbol := do
  match (← get).held with
  | some symbol =>
      modify fun source => { source with held := none }
      pure symbol
  | none => expandedSymbol context commands 1000 mayBeAlias

/-- The next symbol. -/
def symbol (commands : Reading (List Command)) : Reading Symbol :=
  symbolIn ⟨false, .blank⟩ false commands

/-- The next symbol where a command may begin. -/
def firstSymbol (commands : Reading (List Command)) : Reading Symbol :=
  symbolIn ⟨false, .blank⟩ true commands

/-- The next symbol that a reader gives and that is no line end; the number bounds the number of
line ends. -/
def afterLines (next : Reading Symbol) : Nat → Reading Symbol
  | 0 => next
  | bound + 1 => do
      match ← next with
      | .newline => afterLines next bound
      | symbol => pure symbol

/-- The next symbol after any line ends, where a command may begin. -/
def symbolBelow (commands : Reading (List Command)) : Reading Symbol := do
  afterLines (firstSymbol commands) (← room)

/-- The next symbol after any line ends, where no command begins. -/
def plainSymbolBelow (commands : Reading (List Command)) : Reading Symbol := do
  afterLines (symbol commands) (← room)

end Console.Shell.Reading
