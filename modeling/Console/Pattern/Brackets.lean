import Console.Pattern.Escape

/-!
# Classes in brackets

A class in brackets holds characters, ranges, named classes and further classes in brackets, and
puts sets together by operators.  A hyphen or a closing bracket that comes first stands for itself.
-/

namespace Console

/-- Members of a class, and the stretch that they take up. -/
structure Measured where
  members : Members
  stretch : Stretch

/-- A class in brackets that is being read. -/
structure OpenBrackets where
  negated : Bool
  /-- From the bracket through what stands for itself because it comes first. -/
  opening : Stretch
  /-- The members since the last operator, newest first. -/
  members : List Measured
  /-- Where these members start. -/
  spot : Stretch
  /-- What stands before the last operator. -/
  pending : Option (SetOperator × Measured) := none

namespace OpenBrackets

/-- Adds a member. -/
def push (brackets : OpenBrackets) (members : Members) (stretch : Stretch) : OpenBrackets :=
  { brackets with members := ⟨members, stretch⟩ :: brackets.members }

/-- The members since the last operator as one. -/
def current (brackets : OpenBrackets) : Measured :=
  match brackets.members with
  | [] => ⟨.none, brackets.spot⟩
  | [member] => member
  | last :: rest =>
      let first := rest.getLast?.getD last
      let stretch := first.stretch.through last.stretch
      ⟨.union (.ofList ((last :: rest).reverse.map Measured.members)) stretch, stretch⟩

/-- All members so far as one. -/
def whole (brackets : OpenBrackets) : Measured :=
  match brackets.pending with
  | none => brackets.current
  | some (operator, left) =>
      let right := brackets.current
      let stretch := left.stretch.through right.stretch
      ⟨.operation operator left.members right.members stretch, stretch⟩

/-- Goes on behind an operator. -/
def operate (brackets : OpenBrackets) (operator : SetOperator) (scan : Scan) : OpenBrackets :=
  { brackets with members := [], spot := scan.spot, pending := some (operator, brackets.whole) }

/-- Reads the hyphens that come first. -/
def readHyphens (start : PatternPlace) :
    Nat → Scan → List Measured → Reading (List Measured × Scan)
  | 0, scan, members => .ok (members, scan)
  | fuel + 1, scan, members =>
      if scan.rest.head? != some '-' then .ok (members, scan)
      else
        let after := scan.advance
        if after.atEnd then Scan.fail .classUnclosed ⟨start, start⟩
        else readHyphens start fuel after
          (⟨.literal ⟨'-', false, scan.here⟩, scan.here⟩ :: members)

/-- Reads the opening of a class from its bracket on. -/
def read (scan : Scan) : Reading (OpenBrackets × Scan) := do
  let start := scan.place
  let scan := scan.advance
  if scan.atEnd then Scan.fail .classUnclosed (scan.since start)
  let negated := scan.rest.head? == some '^'
  let scan := if negated then scan.advance else scan
  if scan.atEnd then Scan.fail .classUnclosed (scan.since start)
  let spot := scan.spot
  let (members, scan) ← readHyphens start scan.rest.length scan []
  if members.isEmpty && scan.rest.head? == some ']' then
    let after := scan.advance
    if after.atEnd then Scan.fail .classUnclosed (after.since start)
    let member : Measured := ⟨.literal ⟨']', false, scan.here⟩, scan.here⟩
    return (⟨negated, after.since start, [member], spot, none⟩, after)
  else return (⟨negated, scan.since start, members, spot, none⟩, scan)

/-- Reads an ASCII class such as `[:alpha:]` from its bracket on, if there is one. -/
def readAscii? (scan : Scan) : Option (ClassName × Scan) := do
  let inside ← scan.after? "[:"
  let negated := inside.rest.head? == some '^'
  let inside := if negated then inside.bump else inside
  let (name, after) := inside.takeWhile (· != ':')
  let after ← after.after? ":]"
  let kind ← AsciiClass.ofName? (.ofList name)
  return (⟨.ascii kind, negated, after.since scan.place⟩, after)

/-- Reads one character or one named class. -/
def readItem (scan : Scan) : Reading (Escape × Scan) :=
  match scan.rest with
  | '\\' :: _ => Escape.read scan
  | c :: _ => .ok (.literal ⟨c, false, scan.here⟩, scan.bump)
  | [] => Scan.fail .classUnclosed scan.spot

/-- An end of a range, which has to be a character. -/
def rangeEnd : Escape → Reading Literal
  | .literal literal => .ok literal
  | .named name => Scan.fail .classRangeLiteral name.stretch
  | .assertion _ stretch => Scan.fail .classRangeLiteral stretch

/-- A member that is no range. -/
def single : Escape → Reading Measured
  | .literal literal => .ok ⟨.literal literal, literal.stretch⟩
  | .named name => .ok ⟨.named name, name.stretch⟩
  | .assertion _ stretch => Scan.fail .classEscape stretch

/-- Reads a range, one character or one named class; `unclosed` is the stretch to report if the
pattern ends. -/
def readMember (unclosed : Stretch) (scan : Scan) : Reading (Measured × Scan) := do
  let (first, scan) ← readItem scan
  let scan := scan.skipBlanks
  if scan.atEnd then Scan.fail .classUnclosed unclosed
  else if scan.rest.head? != some '-' || scan.peek? == some ']' || scan.peek? == some '-' then
    return (← single first, scan)
  else
    let scan := scan.advance
    if scan.atEnd then Scan.fail .classUnclosed unclosed
    let (last, scan) ← readItem scan
    let first ← rangeEnd first
    let last ← rangeEnd last
    let stretch := first.stretch.through last.stretch
    if first.char ≤ last.char then return (⟨.range first last, stretch⟩, scan)
    else Scan.fail .classRange stretch

/-- The operator that comes next. -/
def operator? (scan : Scan) : Option (SetOperator × Scan) :=
  match scan.after? "&&", scan.after? "--", scan.after? "~~" with
  | some scan, _, _ => some (.inter, scan)
  | _, some scan, _ => some (.diff, scan)
  | _, _, some scan => some (.symmetricDiff, scan)
  | _, _, _ => none

/-- Reads a class up to its closing bracket.  `outer` are the classes around the innermost one;
every step uses up at least one character, so `fuel` may be the number of those left. -/
def readRest : Nat → OpenBrackets → List OpenBrackets → Scan → Reading (Piece × Scan)
  | 0, innermost, _, _ => Scan.fail .classUnclosed innermost.opening
  | fuel + 1, innermost, outer, scan => do
      let scan := scan.skipBlanks
      match scan.rest with
      | [] => Scan.fail .classUnclosed innermost.opening
      | '[' :: _ =>
          match readAscii? scan with
          | some (name, after) =>
              readRest fuel (innermost.push (.named name) name.stretch) outer after
          | none =>
              let (nested, after) ← read scan
              readRest fuel nested (innermost :: outer) after
      | ']' :: _ =>
          let after := scan.bump
          let members := innermost.whole.members
          let stretch := after.since innermost.opening.start
          match outer with
          | [] => return (.brackets innermost.negated members stretch, after)
          | around :: outer =>
              readRest fuel (around.push (.brackets innermost.negated members stretch) stretch)
                outer after
      | _ =>
          match operator? scan with
          | some (operator, after) => readRest fuel (innermost.operate operator after) outer after
          | none =>
              let (member, after) ← readMember innermost.opening scan
              readRest fuel (innermost.push member.members member.stretch) outer after

end OpenBrackets

/-- Reads a class in brackets from its bracket on. -/
def readBrackets (scan : Scan) : Reading (Piece × Scan) := do
  let (opened, after) ← OpenBrackets.read scan
  OpenBrackets.readRest (after.rest.length + 1) opened [] after

end Console
