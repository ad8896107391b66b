import Console.Pattern.Piece
import Console.Pattern.Query
import Console.Pattern.Scan
import Console.Text.Case

/-!
# The meaning of patterns

What the pieces of a pattern say under the flags around them.  Where case is ignored, each set is
extended by the other cases of its characters before it is taken the complement of.  Without the
Unicode flag a pattern speaks of bytes, and what could match a part of a character is refused.
-/

namespace Console

/-- How the characters of a pattern are meant. -/
structure Manner where
  ignoreCase : Bool := false
  multiLine : Bool := false
  dotNewline : Bool := false
  swapGreed : Bool := false
  unicode : Bool := true
  crlf : Bool := false
  deriving DecidableEq, Repr

namespace Manner

/-- The manner with a flag set or taken away. -/
def set (manner : Manner) (value : Bool) : Flag → Manner
  | .ignoreCase => { manner with ignoreCase := value }
  | .multiLine => { manner with multiLine := value }
  | .dotNewline => { manner with dotNewline := value }
  | .swapGreed => { manner with swapGreed := value }
  | .unicode => { manner with unicode := value }
  | .crlf => { manner with crlf := value }
  | .ignoreBlank => manner

/-- The manner under flags; those behind a negation are taken away. -/
def under (manner : Manner) : Bool → List FlagItem → Manner
  | _, [] => manner
  | _, .negation :: rest => manner.under false rest
  | value, .flag flag :: rest => (manner.set value flag).under value rest

/-- A set with the other cases of its characters.  Among bytes only ASCII letters have two cases. -/
def anyCase (manner : Manner) (characters : Text.Ranges) : Text.Ranges :=
  if !manner.ignoreCase then characters
  else if manner.unicode then characters.anyCase
  else
    let moved := fun (letters : Text.Ranges) (move : Nat → Nat) =>
      (characters.inter letters).map fun (first, last) => (move first, move last)
    .ofList <| characters ++ moved [(0x41, 0x5A)] (· + 32) ++ moved [(0x61, 0x7A)] (· - 32)

/-- A set with the other cases of its characters, or the complement of that.  Among bytes a
complement holds parts of characters, since a set holds only ASCII characters. -/
def close (manner : Manner) (characters : Text.Ranges) (negated : Bool) (stretch : Stretch) :
    Reading Text.Ranges :=
  let characters := manner.anyCase characters
  if !negated then .ok characters
  else if manner.unicode then .ok characters.complement
  else Scan.fail .brokenCharacters stretch

end Manner

namespace PropertyFault

/-- The fault of a pattern that asks for the name. -/
def inPattern : PropertyFault → PatternFault
  | unknownProperty => .propertyUnknown
  | unknownValue => .propertyValueUnknown

end PropertyFault

namespace Literal

/-- Whether a literal is meant as a byte that is only a part of a character. -/
def isBroken (literal : Literal) (manner : Manner) : Bool :=
  !manner.unicode && literal.isByte && 0x7F < literal.char.toNat

/-- The expression for a literal that stands alone. -/
def meaning (manner : Manner) (literal : Literal) : Reading Regex :=
  if literal.isBroken manner then Scan.fail .brokenCharacters literal.stretch
  else .ok (.ofSet (manner.anyCase (.single literal.char)) (!manner.unicode))

/-- The code point of a literal in a class. -/
def member (manner : Manner) (literal : Literal) : Reading Nat :=
  if literal.isBroken manner then Scan.fail .brokenCharacters literal.stretch
  else if !manner.unicode && 0x7F < literal.char.toNat then
    Scan.fail .unicodeNotAllowed literal.stretch
  else .ok literal.char.toNat

end Literal

namespace ClassName

/-- The set of a property. -/
def property (manner : Manner) (query : PropertyQuery) (stretch : Stretch) :
    Reading Text.Ranges :=
  if !manner.unicode then Scan.fail .unicodeNotAllowed stretch
  else
    let found :=
      match query with
      | .name name => Property.lookUp name
      | .value name value => Property.lookUpValue name value
    match found with
    | .ok characters => .ok characters
    | .error fault => Scan.fail fault.inPattern stretch

/-- The set of a named class. -/
def meaning (manner : Manner) (name : ClassName) : Reading Text.Ranges := do
  match name.named with
  | .escape kind =>
      let characters := kind.characters (!manner.unicode)
      { manner with ignoreCase := false }.close characters name.negated name.stretch
  | .ascii kind => manner.close kind.characters name.negated name.stretch
  | .property query =>
      let characters ← property manner query name.stretch
      manner.close characters name.negated name.stretch

end ClassName

namespace SetOperator

/-- The set that an operator makes of two. -/
def apply : SetOperator → Text.Ranges → Text.Ranges → Text.Ranges
  | inter, left, right => left.inter right
  | diff, left, right => left.diff right
  | symmetricDiff, left, right => left.symmetricDiff right

end SetOperator

namespace Members

/-- The set of the members of a class. -/
def meaning (manner : Manner) : Members → Reading Text.Ranges
  | none => .ok []
  | literal char => do
      let code ← char.member manner
      return [(code, code)]
  | range first last => do return [(← first.member manner, ← last.member manner)]
  | named name => name.meaning manner
  | brackets negated members stretch => do
      manner.close (← members.meaning manner) negated stretch
  | operation operator left right _ => do
      let left ← left.meaning manner
      let right ← right.meaning manner
      return operator.apply (manner.anyCase left) (manner.anyCase right)
  | both first second => do
      let first ← first.meaning manner
      let second ← second.meaning manner
      return first.union second
  | union members _ => members.meaning manner

end Members

namespace Assertion

/-- What has to hold under a manner. -/
def meaning (manner : Manner) : Assertion → Look
  | lineStart => if manner.multiLine then .lineStart manner.crlf else .start
  | lineEnd => if manner.multiLine then .lineEnd manner.crlf else .finish
  | start => .start
  | finish => .finish
  | word look => .word look (!manner.unicode)

end Assertion

namespace Manner

/-- The characters that a dot stands for. -/
def dot (manner : Manner) (stretch : Stretch) : Reading Regex :=
  if !manner.unicode then Scan.fail .brokenCharacters stretch
  else
    let breaks : Text.Ranges :=
      if manner.dotNewline then []
      else if manner.crlf then [(0x0A, 0x0A), (0x0D, 0x0D)]
      else [(0x0A, 0x0A)]
    .ok (.set breaks.complement false)

end Manner

namespace Piece

/-- The expressions of pieces one after another or of alternatives, and the manner behind them. -/
def meaning : Piece → Manner → Reading (List Regex × Manner)
  | empty, manner => .ok ([.empty], manner)
  | flags items, manner => .ok ([.empty], manner.under true items)
  | literal char, manner => do return ([← char.meaning manner], manner)
  | dot stretch, manner => do return ([← manner.dot stretch], manner)
  | assertion wanted _, manner => .ok ([.look (wanted.meaning manner)], manner)
  | named name, manner => do
      return ([.ofSet (← name.meaning manner) (!manner.unicode)], manner)
  | brackets negated members stretch, manner => do
      let characters ← members.meaning manner
      let characters ← manner.close characters negated stretch
      return ([.ofSet characters (!manner.unicode)], manner)
  | repeated body least most greedy _, manner => do
      let (regexes, manner) ← body.meaning manner
      let greedy := greedy != manner.swapGreed
      return ([(Regex.sequence regexes).repeated least most greedy], manner)
  | group index items body _, manner => do
      let (regexes, _) ← body.meaning (manner.under true items)
      let regex := Regex.sequence regexes
      return ([index.elim regex fun index => .capture index regex], manner)
  | both first second, manner | either first second, manner => do
      let (before, manner) ← first.meaning manner
      let (after, manner) ← second.meaning manner
      return (before ++ after, manner)
  | sequence pieces _, manner => do
      let (regexes, manner) ← pieces.meaning manner
      return ([.sequence regexes], manner)
  | choice alternatives _, manner => do
      let (regexes, manner) ← alternatives.meaning manner
      return ([.choice regexes], manner)

end Piece

end Console
