import Console.Pattern.Classes

/-!
# Regular expressions

What a pattern says.  Expressions are put together by `Regex.sequence`, `Regex.choice` and
`Regex.repeated`, which leave out what has no effect, so that a group in a part that is left out is
no group of the pattern.
-/

namespace Console

/-- What has to hold for the words around a place. -/
inductive WordLook where
  | boundary
  | noBoundary
  | start
  | finish
  | startHalf
  | finishHalf
  deriving DecidableEq, Repr

/-- What has to hold at a place for a pattern to go on, without using up any text. -/
inductive Look where
  /-- The start of the text. -/
  | start
  /-- The end of the text. -/
  | finish
  | lineStart (crlf : Bool)
  | lineEnd (crlf : Bool)
  | word (look : WordLook) (isAscii : Bool)
  deriving DecidableEq, Repr

/-- Whether the words around a place are as wanted, given whether the characters before and after
it belong to a word. -/
def WordLook.holds : WordLook → Bool → Bool → Bool
  | boundary, before, after => before != after
  | noBoundary, before, after => before == after
  | start, before, after => !before && after
  | finish, before, after => before && !after
  | startHalf, before, _ => !before
  | finishHalf, _, after => !after

/-- Whether a place between two characters is as wanted.  A carriage return and a newline that
end a line together have no line end between them. -/
def Look.holds : Look → Option Char → Option Char → Bool
  | start, before, _ => before.isNone
  | finish, _, after => after.isNone
  | lineStart false, before, _ => before.all (· == '\n')
  | lineStart true, before, after =>
      before.all (· == '\n') || (before == some '\r' && after != some '\n')
  | lineEnd false, _, after => after.all (· == '\n')
  | lineEnd true, before, after =>
      after.all (· == '\r') || (after == some '\n' && before != some '\r')
  | word look isAscii, before, after =>
      look.holds (before.any (EscapeClass.isWord isAscii)) (after.any (EscapeClass.isWord isAscii))

/-- A regular expression.  Capturing groups are numbered from one. -/
inductive Regex where
  | empty
  /-- The characters of a text, one after another. -/
  | literal (text : List Char)
  /-- One character of a set, which may be meant as a set of bytes. -/
  | set (characters : Text.Ranges) (isOfBytes : Bool)
  | look (look : Look)
  | seq (first second : Regex)
  | alt (first second : Regex)
  /-- At least `least` and, with a bound, at most `most` times. -/
  | times (body : Regex) (least : Nat) (most : Option Nat) (greedy : Bool)
  | capture (index : Nat) (body : Regex)
  deriving DecidableEq, Repr

namespace Regex

/-- One character of a set; a set of a single character is a text. -/
def ofSet (characters : Text.Ranges) (isOfBytes : Bool) : Regex :=
  match characters.single? with
  | some c => literal [c]
  | none => set characters (isOfBytes || characters.isEmpty)

/-- The expressions that an expression puts one after another. -/
def parts : Regex → List Regex
  | empty => []
  | seq first second => first :: second.parts
  | regex => [regex]

/-- The expression that puts others one after another. -/
def ofParts : List Regex → Regex
  | [] => empty
  | [regex] => regex
  | regex :: rest => seq regex (ofParts rest)

/-- Expressions with neighbouring texts made one. -/
def joinLiterals : List Regex → List Regex
  | [] => []
  | literal left :: rest =>
      match joinLiterals rest with
      | literal right :: rest => literal (left ++ right) :: rest
      | rest => literal left :: rest
  | regex :: rest => regex :: joinLiterals rest

/-- One expression after another. -/
def sequence (regexes : List Regex) : Regex := ofParts (joinLiterals (regexes.flatMap parts))

/-- The expressions that an expression chooses from. -/
def ways : Regex → List Regex
  | alt first second => first :: second.ways
  | regex => [regex]

/-- The expression that chooses from others; from none it never matches. -/
def ofWays : List Regex → Regex
  | [] => set [] true
  | [regex] => regex
  | regex :: rest => alt regex (ofWays rest)

/-- The set of a text of one character. -/
def singleLiteral? : Regex → Option Text.Ranges
  | literal [c] => some (.single c)
  | _ => none

/-- The set that an expression is one character of. -/
def set? : Regex → Option Text.Ranges
  | set characters _ => some characters
  | _ => none

/-- The union of the sets of all expressions, if all of them have one. -/
def unionOf? (view : Regex → Option Text.Ranges) (regexes : List Regex) : Option Text.Ranges :=
  (regexes.mapM view).map fun sets => .ofList sets.flatten

/-- A choice of which only single characters are left becomes a set. -/
def plainChoice (regexes : List Regex) : Regex :=
  let all := regexes.flatMap ways
  if all.length < 2 then ofWays all
  else match unionOf? singleLiteral? all with
    | some characters => ofSet characters false
    | none =>
        match unionOf? set? all with
        | some characters => ofSet characters false
        | none => ofWays all

/-- How many expressions two sequences begin with in common. -/
def commonLength : List Regex → List Regex → Nat
  | left :: lefts, right :: rights => if left = right then commonLength lefts rights + 1 else 0
  | _, _ => 0

/-- How many expressions all sequences of a choice begin with in common.  A choice with a member
that is no sequence of at least two has nothing in common. -/
def commonStart : List Regex → Nat
  | [] => 0
  | first :: rest =>
      if (first :: rest).all fun regex => 2 ≤ regex.parts.length then
        rest.foldl (fun count regex => min count (commonLength first.parts regex.parts))
          first.parts.length
      else 0

/-- One of several expressions, the first that matches.  What all of them begin with is put in
front of the choice. -/
def choice (regexes : List Regex) : Regex :=
  match plainChoice regexes with
  | alt first second =>
      let all := (alt first second).ways
      match commonStart all with
      | 0 => alt first second
      | count =>
          let tails := all.map fun regex => sequence (regex.parts.drop count)
          sequence (first.parts.take count ++ [plainChoice tails])
  | regex => regex

/-- Whether an expression can match nothing but the empty text. -/
def matchesOnlyEmpty : Regex → Bool
  | empty | look _ => true
  | literal text => text.isEmpty
  | set .. => false
  | seq first second | alt first second => first.matchesOnlyEmpty && second.matchesOnlyEmpty
  | times body _ most _ => most.isSome && body.matchesOnlyEmpty
  | capture _ body => body.matchesOnlyEmpty

/-- A number of characters that every match of an expression has at least, as far as its form shows;
none where the set without characters takes part, since it has no match. -/
def shortest? : Regex → Option Nat
  | empty | look _ => some 0
  | literal text => some text.length
  | set characters _ => if characters.isEmpty then none else some 1
  | seq first second => return (← first.shortest?) + (← second.shortest?)
  | alt first second => return min (← first.shortest?) (← second.shortest?)
  | times body least _ _ => body.shortest?.map (· * least)
  | capture _ body => body.shortest?

/-- Whether nothing in the form of an expression keeps it from matching the empty text. -/
def mayMatchEmpty (regex : Regex) : Bool := regex.shortest?.all (· == 0)

/-- An expression at least `least` and, with a bound, at most `most` times.  What matches only the
empty text need not be taken twice, and what may not be taken at all is left out. -/
def repeated (body : Regex) (least : Nat) (most : Option Nat) (greedy : Bool) : Regex :=
  let (least, most) :=
    if body.matchesOnlyEmpty then (min least 1, some (min (most.getD 1) 1)) else (least, most)
  if least == 0 && most == some 0 then empty
  else if least == 1 && most == some 1 then body
  else times body least most greedy

/-- The number of the last group of an expression. -/
def groupCount : Regex → Nat
  | empty | literal _ | set .. | look _ => 0
  | seq first second | alt first second => max first.groupCount second.groupCount
  | times body _ _ _ => body.groupCount
  | capture index body => max index body.groupCount

end Regex

end Console
