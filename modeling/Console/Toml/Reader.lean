import Console.Toml.Quoted

/-!
# Reading TOML

A document is read in lines: a header, a key with its value, or nothing, each perhaps with a
comment.  Values are read by a recursion that is bounded twice, by how deep they may be nested and
by a number that the length of the text gives.
-/

namespace Console.Toml

/-- How deep values may be nested, and how many names a key may have. -/
def depthLimit : Nat := 79

/-! ## Blanks, comments and line ends -/

/-- A text without the spaces and tabs at its beginning. -/
def skipBlanks (text : List Char) : List Char := text.dropWhile fun c => c = ' ' || c = '\t'

/-- The text behind a line end, which the end of the document is too. -/
def lineEnd? : List Char → Option (List Char)
  | [] => some []
  | '\n' :: rest => some rest
  | '\r' :: '\n' :: rest => some rest
  | _ => none

/-- The text behind the end of a line that has nothing more in it but a comment. -/
def restOfLine? (text : List Char) : Option (List Char) :=
  match skipBlanks text with
  | '#' :: rest => lineEnd? (rest.dropWhile isPlain)
  | rest => lineEnd? rest

/-- A text without the blanks, comments and line breaks at its beginning; the first argument says
whether it begins in a comment. -/
def skipGaps : Bool → List Char → Option (List Char)
  | _, [] => some []
  | _, '\r' :: '\n' :: rest => skipGaps false rest
  | inComment, c :: rest =>
      if c = '\n' then skipGaps false rest
      else if inComment then if isPlain c then skipGaps true rest else none
      else if c = '#' then skipGaps true rest
      else if c = ' ' || c = '\t' then skipGaps false rest
      else some (c :: rest)

/-! ## Keys -/

/-- Whether a character may be in a key without quotes. -/
def isKeyChar (c : Char) : Bool :=
  ('a' ≤ c && c ≤ 'z') || ('A' ≤ c && c ≤ 'Z') || Text.isDigit c || c = '-' || c = '_'

/-- Reads one name of a key. -/
def name? (text : List Char) : Quoted :=
  match text with
  | '"' :: rest => basicString rest
  | '\'' :: rest => literalString rest
  | text =>
      let name := text.takeWhile isKeyChar
      if name.isEmpty then none else some (name, text.dropWhile isKeyChar)

/-- Reads a key: names with dots between them, and blanks around each.  The first argument bounds
the number of names. -/
def key? : Nat → List Char → Option (List String × List Char)
  | 0, _ => none
  | bound + 1, text =>
      match name? (skipBlanks text) with
      | none => none
      | some (name, rest) =>
          match skipBlanks rest with
          | '.' :: rest => (key? bound rest).map fun (names, rest) => (.ofList name :: names, rest)
          | rest => some ([.ofList name], rest)

/-- A key cut before its last name. -/
def splitKey (names : List String) : List String × String :=
  (names.dropLast, names.getLast?.getD "")

/-! ## Values -/

/-- Whether a character ends a value that is written without quotes. -/
def endsPlain (c : Char) : Bool :=
  c = ' ' || c = '\t' || c = '\r' || c = '\n' || c = '#' || c = ',' || c = ']' || c = '\x7d'

/-- Reads a value that is written without quotes.  A date may have its time behind a space. -/
def plain? (text : List Char) : Option (Value × List Char) :=
  let first := text.takeWhile (!endsPlain ·)
  let rest := text.dropWhile (!endsPlain ·)
  let time := rest.tail.takeWhile (!endsPlain ·)
  if isDate first && rest.head? = some ' ' && isTimeWithOffset time then
    some (.moment (.ofList (first ++ ' ' :: time)), rest.tail.dropWhile (!endsPlain ·))
  else (Value.ofPlain? first).map fun value => (value, rest)

mutual

/-- Reads a value.  The arguments are the bound of the recursion and the depth that is left. -/
def value? : Nat → Nat → List Char → Option (Value × List Char)
  | 0, _, _ => none
  | bound + 1, depth, text =>
      match text, depth with
      | '[' :: _, 0 => none
      | '[' :: rest, depth + 1 =>
          (items? bound depth [] rest).map fun (items, rest) => (.array items, rest)
      | '\x7b' :: _, 0 => none
      | '\x7b' :: rest, depth + 1 =>
          match skipBlanks rest with
          | '\x7d' :: rest => some (.table .inline [], rest)
          | rest =>
              (pairs? bound depth [] rest).map fun (entries, rest) =>
                (.table .inline entries, rest)
      | text, _ =>
          match text.head? with
          | some '"' | some '\'' =>
              (string? text).map fun (text, rest) => (.text (.ofList text), rest)
          | _ => plain? text

/-- Reads the items of an array behind those that are given, up to its closing bracket. -/
def items? : Nat → Nat → List Value → List Char → Option (List Value × List Char)
  | 0, _, _, _ => none
  | bound + 1, depth, items, text =>
      match skipGaps false text with
      | none => none
      | some (']' :: rest) => some (items, rest)
      | some text =>
          match value? bound depth text with
          | none => none
          | some (item, rest) =>
              let items := items ++ [item]
              match skipGaps false rest with
              | some (',' :: rest) => items? bound depth items rest
              | some (']' :: rest) => some (items, rest)
              | _ => none

/-- Reads the keys and values of an inline table behind those that are given, up to its closing
brace. -/
def pairs? : Nat → Nat → Entries → List Char → Option (Entries × List Char)
  | 0, _, _, _ => none
  | bound + 1, depth, entries, text =>
      match key? depthLimit text with
      | some (names, '=' :: rest) =>
          match value? bound depth (skipBlanks rest) with
          | none => none
          | some (value, rest) =>
              let (path, key) := splitKey names
              match entries.assign path key value, skipBlanks rest with
              | some entries, ',' :: rest => pairs? bound depth entries rest
              | some entries, '\x7d' :: rest => some (entries, rest)
              | _, _ => none
      | _ => none

end

/-! ## Documents -/

/-- A document that is being read: its table, and the path of the table that keys are added to. -/
structure Document where
  entries : Entries := []
  path : List String := []
  deriving Repr

namespace Document

/-- A header names a table; `isNext` if it is in double brackets. -/
def header (document : Document) (isNext : Bool) (names : List String) : Option Document :=
  let (path, key) := splitKey names
  let change := if isNext then Entries.openNext key else Entries.openTable key
  (document.entries.within path change).map fun entries => ⟨entries, names⟩

/-- A key is given a value. -/
def add (document : Document) (names : List String) (value : Value) : Option Document :=
  let (path, key) := splitKey names
  (document.entries.within document.path (Entries.assign path key value)).map fun entries =>
    { document with entries }

/-- Reads one line, and returns what follows it. -/
def line? (document : Document) (text : List Char) : Option (Document × List Char) :=
  match skipBlanks text with
  | '[' :: '[' :: rest =>
      match key? depthLimit rest with
      | some (names, ']' :: ']' :: rest) => do
          pure (← document.header true names, ← restOfLine? rest)
      | _ => none
  | '[' :: rest =>
      match key? depthLimit rest with
      | some (names, ']' :: rest) => do
          pure (← document.header false names, ← restOfLine? rest)
      | _ => none
  | text =>
      match restOfLine? text with
      | some rest => some (document, rest)
      | none =>
          match key? depthLimit text with
          | some (names, '=' :: rest) => do
              let (value, rest) ← value? (2 * rest.length + 2) depthLimit (skipBlanks rest)
              pure (← document.add names value, ← restOfLine? rest)
          | _ => none

/-- Reads the lines of a text; the first argument bounds their number. -/
def lines? : Nat → Document → List Char → Option Document
  | _, document, [] => some document
  | 0, _, _ :: _ => none
  | bound + 1, document, c :: rest =>
      match document.line? (c :: rest) with
      | some (document, rest) => lines? bound document rest
      | none => none

end Document

/-- The table that a document is; a byte order mark may stand in front of it. -/
def read? (text : String) : Option Entries :=
  let text :=
    match text.toList with
    | '\uFEFF' :: rest => rest
    | text => text
  (Document.lines? (text.length + 1) {} text).map (·.entries)

end Console.Toml
