import Console.Pattern.Classes
import Console.Pattern.Fault
import Console.Pattern.Regex

/-!
# Pieces of patterns

A pattern as it is written: every piece with the stretch of the pattern that it takes up, before it
is decided what the piece means under the flags around it.  Pieces may be nested to a limited depth
only.
-/

namespace Console

/-- A character that stands for itself.  One written as two hexadecimal digits may be meant as a
byte. -/
structure Literal where
  char : Char
  isByte : Bool
  stretch : Stretch
  deriving DecidableEq, Repr

/-- What a property is asked for by. -/
inductive PropertyQuery where
  | name (name : List Char)
  | value (name value : List Char)
  deriving DecidableEq, Repr

/-- A class of characters that has a name. -/
inductive NamedClass where
  | escape (kind : EscapeClass)
  | ascii (kind : AsciiClass)
  | property (query : PropertyQuery)
  deriving DecidableEq, Repr

/-- A class of characters that has a name, or all characters that are not in it. -/
structure ClassName where
  named : NamedClass
  negated : Bool
  stretch : Stretch
  deriving DecidableEq, Repr

/-- How two sets of a class in brackets are put together. -/
inductive SetOperator where
  | inter
  | diff
  | symmetricDiff
  deriving DecidableEq, Repr

/-- What stands between the brackets of a class. -/
inductive Members where
  | none
  | literal (literal : Literal)
  | range (first last : Literal)
  | named (name : ClassName)
  | brackets (negated : Bool) (members : Members) (stretch : Stretch)
  | operation (operator : SetOperator) (left right : Members) (stretch : Stretch)
  /-- Members one after another. -/
  | both (first second : Members)
  /-- At least two members one after another. -/
  | union (members : Members) (stretch : Stretch)
  deriving DecidableEq, Repr

/-- The letters that flags are written with. -/
inductive Flag where
  | ignoreCase
  | multiLine
  | dotNewline
  | swapGreed
  | unicode
  | crlf
  | ignoreBlank
  deriving DecidableEq, Repr

/-- A flag, or the sign that takes away all flags after it. -/
inductive FlagItem where
  | flag (flag : Flag)
  | negation
  deriving DecidableEq, Repr

/-- What a piece without characters looks for, before the flags are known. -/
inductive Assertion where
  | lineStart
  | lineEnd
  | start
  | finish
  | word (look : WordLook)
  deriving DecidableEq, Repr

/-- A piece of a pattern. -/
inductive Piece where
  | empty
  | flags (items : List FlagItem)
  | literal (literal : Literal)
  | dot (stretch : Stretch)
  | assertion (assertion : Assertion) (stretch : Stretch)
  | named (name : ClassName)
  | brackets (negated : Bool) (members : Members) (stretch : Stretch)
  | repeated (body : Piece) (least : Nat) (most : Option Nat) (greedy : Bool) (stretch : Stretch)
  | group (index : Option Nat) (items : List FlagItem) (body : Piece) (stretch : Stretch)
  /-- Pieces one after another. -/
  | both (first second : Piece)
  /-- At least two pieces one after another. -/
  | sequence (pieces : Piece) (stretch : Stretch)
  /-- Alternatives, the first of which comes first. -/
  | either (first second : Piece)
  /-- At least two alternatives. -/
  | choice (alternatives : Piece) (stretch : Stretch)
  deriving DecidableEq, Repr

namespace Members

/-- Members in their order as one. -/
def ofList : List Members → Members
  | [] => none
  | [member] => member
  | member :: rest => both member (ofList rest)

/-- The first stretch that is nested too deeply, if only `room` levels are left. -/
def tooDeep? : Nat → Members → Option Stretch
  | _, none | _, literal _ | _, range .. | _, named _ => Option.none
  | room, both first second => (first.tooDeep? room).or (second.tooDeep? room)
  | 0, brackets _ _ stretch | 0, operation _ _ _ stretch | 0, union _ stretch => some stretch
  | room + 1, brackets _ members _ | room + 1, union members _ => members.tooDeep? room
  | room + 1, operation _ left right _ => (left.tooDeep? room).or (right.tooDeep? room)

end Members

namespace Piece

/-- Pieces in their order as one. -/
def ofList : List Piece → Piece
  | [] => empty
  | [piece] => piece
  | piece :: rest => both piece (ofList rest)

/-- Alternatives in their order as one. -/
def eitherOf : List Piece → Piece
  | [] => empty
  | [piece] => piece
  | piece :: rest => either piece (eitherOf rest)

/-- How deeply pieces may be nested. -/
def depthLimit : Nat := 250

/-- The first stretch that is nested too deeply, if only `room` levels are left. -/
def tooDeep? : Nat → Piece → Option Stretch
  | _, empty | _, flags _ | _, literal _ | _, dot _ | _, assertion .. | _, named _ =>
      none
  | room, both first second | room, either first second =>
      (first.tooDeep? room).or (second.tooDeep? room)
  | 0, brackets _ _ stretch | 0, repeated _ _ _ _ stretch | 0, group _ _ _ stretch
  | 0, sequence _ stretch | 0, choice _ stretch => some stretch
  | room + 1, brackets _ members _ => members.tooDeep? room
  | room + 1, repeated body _ _ _ _ | room + 1, group _ _ body _ | room + 1, sequence body _
  | room + 1, choice body _ => body.tooDeep? room

end Piece

end Console
