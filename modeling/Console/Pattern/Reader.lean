import Console.Pattern.Brackets
import Console.Pattern.Groups

/-!
# Reading patterns

A pattern is read from left to right.  The reader keeps the groups that are open, each with the
alternatives and the sequence around it; closing a group puts it into the sequence around it.  The
first mistake ends the reading.
-/

namespace Console

/-- The alternatives and the sequence of a group that is being read, newest first. -/
structure OpenPieces where
  /-- Where the sequence starts. -/
  start : PatternPlace := {}
  pieces : List Piece := []
  /-- Where the first alternative starts. -/
  choiceStart : PatternPlace := {}
  alternatives : List Piece := []

namespace OpenPieces

/-- Nothing so far. -/
def none (start : PatternPlace) : OpenPieces := { start, choiceStart := start }

/-- Adds a piece to the sequence. -/
def push (opened : OpenPieces) (piece : Piece) : OpenPieces :=
  { opened with pieces := piece :: opened.pieces }

/-- The sequence as one piece. -/
def sequence (opened : OpenPieces) (stop : PatternPlace) : Piece :=
  match opened.pieces with
  | [] => .empty
  | [piece] => piece
  | pieces => .sequence (.ofList pieces.reverse) ⟨opened.start, stop⟩

/-- All alternatives as one piece. -/
def choice (opened : OpenPieces) (stop : PatternPlace) : Piece :=
  let last := opened.sequence stop
  match opened.alternatives with
  | [] => last
  | before => .choice (.eitherOf (last :: before).reverse) ⟨opened.choiceStart, stop⟩

/-- Goes on with another alternative, which starts at `start`. -/
def nextAlternative (opened : OpenPieces) (stop start : PatternPlace) : OpenPieces :=
  { opened with
    start
    pieces := []
    alternatives := opened.sequence stop :: opened.alternatives }

end OpenPieces

/-- A group that is open: its parenthesis, its number if it captures, its flags, what was read
before it, and whether blanks were skipped there. -/
structure OpenGroup where
  parenthesis : Stretch
  index : Option Nat
  items : List FlagItem
  around : OpenPieces
  ignoreBlank : Bool

/-- The state of the reader. -/
structure PatternReader where
  scan : Scan
  opened : OpenPieces := {}
  groups : List OpenGroup := []
  captures : Nat := 0
  names : List (List Char × Stretch) := []

namespace PatternReader

/-- Goes on with a piece and with what is left after it. -/
def push (reader : PatternReader) (piece : Piece) (scan : Scan) : PatternReader :=
  { reader with scan, opened := reader.opened.push piece }

/-- Goes on inside a group. -/
def openGroup (reader : PatternReader) (index : Option Nat) (items : List FlagItem) (scan : Scan) :
    PatternReader :=
  let outside := reader.scan.ignoreBlank
  let inside := (FlagItem.state? .ignoreBlank items true).getD outside
  let group : OpenGroup := ⟨reader.scan.here, index, items, reader.opened, outside⟩
  { reader with
    scan := { scan with ignoreBlank := inside }
    opened := .none scan.place
    groups := group :: reader.groups
    captures := index.getD reader.captures }

/-- Reads what a parenthesis opens. -/
def readOpening (reader : PatternReader) : Reading PatternReader := do
  let (opening, after) ← GroupOpening.read reader.scan
  match opening with
  | .capture => return reader.openGroup (some (reader.captures + 1)) [] after
  | .named name stretch =>
      match reader.names.find? fun (other, _) => other == name with
      | some (_, earlier) =>
          throw { fault := .groupNameDuplicate, stretch, earlier := some earlier }
      | none =>
          let reader := { reader with names := (name, stretch) :: reader.names }
          return reader.openGroup (some (reader.captures + 1)) [] after
  | .plain items => return reader.openGroup none items after
  | .flags items =>
      let ignoreBlank := (FlagItem.state? .ignoreBlank items true).getD after.ignoreBlank
      return reader.push (.flags items) { after with ignoreBlank }

/-- Closes the innermost group. -/
def closeGroup (reader : PatternReader) : Reading PatternReader :=
  match reader.groups with
  | [] => Scan.fail .groupUnopened reader.scan.here
  | group :: groups =>
      let body := reader.opened.choice reader.scan.place
      let after := { reader.scan with ignoreBlank := group.ignoreBlank }.bump
      let stretch := after.since group.parenthesis.start
      let piece := Piece.group group.index group.items body stretch
      .ok { reader with scan := after, opened := group.around.push piece, groups }

/-- The piece that a repetition is about, the stretch before it, and the pieces before it. -/
def repeatable (reader : PatternReader) : Reading (Piece × List Piece) :=
  match reader.opened.pieces with
  | [] | .flags _ :: _ => Scan.fail .nothingToRepeat reader.scan.spot
  | piece :: before => .ok (piece, before)

/-- The stretch of a piece that can be repeated. -/
def stretchOf : Piece → Stretch
  | .literal literal => literal.stretch
  | .dot stretch | .assertion _ stretch | .brackets _ _ stretch | .repeated _ _ _ _ stretch
  | .group _ _ _ stretch | .sequence _ stretch | .choice _ stretch => stretch
  | .named name => name.stretch
  | .empty | .flags _ | .both .. | .either .. => ⟨{}, {}⟩

/-- Repeats the last piece; the operator ends where `scan` goes on, perhaps with a question mark
that makes the repetition lazy. -/
def repeatLast (reader : PatternReader) (piece : Piece) (before : List Piece) (least : Nat)
    (most : Option Nat) (scan : Scan) : PatternReader :=
  let isLazy := scan.rest.head? == some '?'
  let scan := if isLazy then scan.bump else scan
  let stretch := scan.since (stretchOf piece).start
  let repeated := Piece.repeated piece least most (!isLazy) stretch
  { reader with scan, opened := { reader.opened with pieces := repeated :: before } }

/-- Reads a repetition that is one character. -/
def readRepetition (reader : PatternReader) (least : Nat) (most : Option Nat) :
    Reading PatternReader := do
  let (piece, before) ← reader.repeatable
  return reader.repeatLast piece before least most reader.scan.bump

/-- Skips blank characters. -/
def skipAllBlanks (scan : Scan) : Scan := (scan.takeWhile Text.isBlank).2

/-- Reads decimal digits, in reverse. -/
def readDigits : Nat → Scan → List Char → List Char × Scan
  | 0, scan, digits => (digits, scan)
  | fuel + 1, scan, digits =>
      match scan.rest with
      | [] => (digits, scan)
      | c :: _ =>
          if Text.isDigit c then readDigits fuel scan.advance (c :: digits) else (digits, scan)

/-- The largest count. -/
def countLimit : Nat := 4294967295

/-- Reads a count between blanks; what is wrong with it is decided later. -/
def readCount (scan : Scan) : Reading Nat × Scan :=
  let scan := skipAllBlanks scan
  let (digits, after) := readDigits scan.rest.length scan []
  let stretch := after.since scan.place
  let value := digits.reverse.foldl (fun n c => n * 10 + Text.digitValue c) 0
  let count :=
    if digits.isEmpty then Scan.fail .countMissing stretch
    else if value ≤ countLimit then .ok value
    else Scan.fail .decimalInvalid stretch
  (count, skipAllBlanks after)

/-- Reads a counted repetition from its brace on. -/
def readCounted (reader : PatternReader) : Reading PatternReader := do
  let (piece, before) ← reader.repeatable
  let start := reader.scan.place
  let unclosed := fun scan : Scan => Scan.fail .countUnclosed (scan.since start)
  let scan := reader.scan.advance
  if scan.atEnd then unclosed scan
  let (first, scan) := readCount scan
  if scan.atEnd then unclosed scan
  let (least, most, scan) ←
    if scan.rest.head? == some ',' then do
      let scan := scan.advance
      if scan.atEnd then unclosed scan
      if scan.rest.head? == some '\x7d' then pure (← first, none, scan)
      else do
        let least ← first
        let (second, scan) := readCount scan
        pure (least, some (← second), scan)
    else do
      let least ← first
      pure (least, some least, scan)
  if scan.rest.head? != some '\x7d' then unclosed scan
  let after := scan.advance
  let isLazy := after.rest.head? == some '?'
  let stop := if isLazy then after.bump else after
  if most.any (· < least) then Scan.fail .countRange (stop.since start)
  return reader.repeatLast piece before least most after

/-- Reads the piece that comes next. -/
def readPiece (reader : PatternReader) (c : Char) : Reading PatternReader := do
  let scan := reader.scan
  let after := scan.bump
  match c with
  | '(' => reader.readOpening
  | ')' => reader.closeGroup
  | '|' =>
      return { reader with
        scan := after
        opened := reader.opened.nextAlternative scan.place after.place }
  | '[' =>
      let (piece, after) ← readBrackets scan
      return reader.push piece after
  | '?' => reader.readRepetition 0 (some 1)
  | '*' => reader.readRepetition 0 none
  | '+' => reader.readRepetition 1 none
  | '\x7b' => reader.readCounted
  | '.' => return reader.push (.dot scan.here) after
  | '^' => return reader.push (.assertion .lineStart scan.here) after
  | '$' => return reader.push (.assertion .lineEnd scan.here) after
  | '\\' =>
      match ← Escape.read scan with
      | (.literal literal, after) => return reader.push (.literal literal) after
      | (.named name, after) => return reader.push (.named name) after
      | (.assertion assertion stretch, after) =>
          return reader.push (.assertion assertion stretch) after
  | c => return reader.push (.literal ⟨c, false, scan.here⟩) after

/-- Reads all that is left; every step uses up at least one character, so `fuel` may be the number
of those left. -/
def run : Nat → PatternReader → Reading PatternReader
  | 0, reader => .ok reader
  | fuel + 1, reader => do
      let reader := { reader with scan := reader.scan.skipBlanks }
      match reader.scan.rest with
      | [] => return reader
      | c :: _ => run fuel (← reader.readPiece c)

/-- The pattern as one piece, if all groups are closed and none are nested too deeply. -/
def finish (reader : PatternReader) : Reading Piece :=
  match reader.groups with
  | group :: _ => Scan.fail .groupUnclosed group.parenthesis
  | [] =>
      let piece := reader.opened.choice reader.scan.place
      match piece.tooDeep? Piece.depthLimit with
      | some stretch => Scan.fail (.nesting Piece.depthLimit) stretch
      | none => .ok piece

end PatternReader

/-- Reads a pattern. -/
def Piece.read (source : List Char) : Reading Piece := do
  let reader ← PatternReader.run (source.length + 1) { scan := { rest := source } }
  reader.finish

end Console
