import Console.Pattern.Regex

/-!
# Searching way by way

A match is searched with backtracking: alternatives are tried in order, a greedy repetition tries
to go on before it stops and a lazy one the other way round, and the first way to match is the
match.  Each way is followed by what has to match after it, so that a failure later on brings the
next way.
-/

namespace Console

/-- A place in a text, and the texts that groups have matched, the latest first. -/
structure Cursor where
  before : Option Char
  rest : List Char
  groups : List (Nat × List Char) := []
  deriving DecidableEq, Repr

namespace Cursor

/-- The text between two places. -/
def upTo (cursor later : Cursor) : List Char :=
  cursor.rest.take (cursor.rest.length - later.rest.length)

/-- Whether a place is behind another one. -/
def isPast (later cursor : Cursor) : Bool := later.rest.length < cursor.rest.length

/-- The place after the character that comes next. -/
def next? (cursor : Cursor) (accepts : Char → Bool) : Option Cursor :=
  match cursor.rest with
  | [] => none
  | c :: rest => if accepts c then some { cursor with before := some c, rest } else none

/-- The place after a text that comes next. -/
def after? (cursor : Cursor) : List Char → Option Cursor
  | [] => some cursor
  | c :: text => (cursor.next? (· == c)).bind fun later => later.after? text

end Cursor

namespace Regex

/-- Finds a way to go on from a place; the second argument is what has to match after it. -/
abbrev Search (α : Type) := Cursor → (Cursor → Option α) → Option α

variable {α : Type}

/-- Exactly `count` times. -/
def exactly (body : Search α) : Nat → Search α
  | 0, cursor, next => next cursor
  | count + 1, cursor, next => body cursor fun later => exactly body count later next

/-- The first of two ways, the second one only where the first fails.  A lazy choice takes them the
other way round. -/
def choose (greedy : Bool) (goOn stop : Unit → Option α) : Option α :=
  if greedy then
    match goOn () with
    | some found => some found
    | none => stop ()
  else
    match stop () with
    | some found => some found
    | none => goOn ()

/-- Up to `count` times. -/
def atMost (body : Search α) (greedy : Bool) : Nat → Search α
  | 0, cursor, next => next cursor
  | count + 1, cursor, next =>
      choose greedy (fun _ => body cursor fun later => atMost body greedy count later next)
        (fun _ => next cursor)

/-- Any number of times more, as long as each time uses up some of the text; `fuel` is the length
of the text that is left. -/
def more (body : Search α) (greedy : Bool) : Nat → Search α
  | 0, cursor, next => next cursor
  | fuel + 1, cursor, next =>
      choose greedy
        (fun _ => body cursor fun later =>
          if later.isPast cursor then more body greedy fuel later next else none)
        (fun _ => next cursor)

/-- Once, and any number of times more. -/
def atLeastOnce (body : Search α) (greedy : Bool) : Search α := fun cursor next =>
  body cursor fun later =>
    if later.isPast cursor then more body greedy later.rest.length later next else next later

/-- At least `least` and, with a bound, at most `most` times. -/
def atLeast (body : Search α) (greedy : Bool) : Nat → Option Nat → Search α
  | least, some most => fun cursor next =>
      exactly body least cursor fun later => atMost body greedy (most - least) later next
  | 0, none => fun cursor next =>
      choose greedy (fun _ => atLeastOnce body greedy cursor next) (fun _ => next cursor)
  | least + 1, none => fun cursor next =>
      exactly body least cursor fun later => atLeastOnce body greedy later next

/-- Searches for a way to match, followed by what has to match after it. -/
def search : Regex → Search α
  | empty => fun cursor next => next cursor
  | literal text => fun cursor next => (cursor.after? text).bind next
  | set characters _ => fun cursor next => (cursor.next? characters.has).bind next
  | look condition => fun cursor next =>
      if condition.holds cursor.before cursor.rest.head? then next cursor else none
  | seq first second => fun cursor next =>
      first.search cursor fun later => second.search later next
  | alt first second => fun cursor next =>
      match first.search cursor next with
      | some found => some found
      | none => second.search cursor next
  | times body least most greedy => atLeast body.search greedy least most
  | capture index body => fun cursor next =>
      body.search cursor fun later =>
        next { later with groups := (index, cursor.upTo later) :: later.groups }

/-- The first place, from the given one on, where a match ends. -/
def searchFrom (regex : Regex) : Option Char → List Char → Option Cursor
  | before, [] => regex.search ⟨before, [], []⟩ some
  | before, c :: rest =>
      match regex.search ⟨before, c :: rest, []⟩ some with
      | some found => some found
      | none => searchFrom regex (some c) rest

/-- What the groups of the first match in a text have matched, the latest first. -/
def groupsByWays? (regex : Regex) (text : List Char) : Option (List (Nat × List Char)) :=
  (regex.searchFrom none text).map Cursor.groups

end Regex

end Console
