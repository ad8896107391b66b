import Console.Pattern.Regex

/-!
# Searching all ways at once

An expression is laid out as a net of states, and all ways to match are followed at once, one
character at a time.  A way is a thread: the state it has come to, and the places where its groups
have begun and ended.  Threads are kept in the order in which a search way by way would try them,
and of two threads in one state only the first is kept, so the time taken is at most proportional
to the size of the net for every character of the text.
-/

namespace Console

/-- A state of the net, with the states that come next. -/
inductive NetState where
  /-- Uses up one character of a set. -/
  | take (characters : Text.Ranges) (next : Nat)
  | check (look : Look) (next : Nat)
  /-- Notes the place as the beginning or the end of a group. -/
  | note (mark : Nat) (next : Nat)
  /-- Goes on in either of two ways, preferably the first. -/
  | split (first second : Nat)
  | accept
  deriving Repr

/-- The places noted on a way, the latest first. -/
abbrev Notes := List (Nat × Nat)

/-- A net of states, the state it starts from, and whether a match can start anywhere. -/
structure Net where
  states : Array NetState
  start : Nat
  deriving Repr

namespace Net

/-- The mark of the beginning of a group. -/
def opening (index : Nat) : Nat := 2 * index

/-- The mark of the end of a group. -/
def closing (index : Nat) : Nat := 2 * index + 1

/-- Adds a state to a net under construction; the result is its number. -/
def add (states : Array NetState) (state : NetState) : Nat × Array NetState :=
  (states.size, states.push state)

/-- Lays out a part of a net that goes on to the given state; the result is where it starts. -/
abbrev Layout := Nat → Array NetState → Nat × Array NetState

/-- The choice between going on with a repetition and leaving it. -/
def branch (greedy : Bool) (goOn leave : Nat) : NetState :=
  if greedy then .split goOn leave else .split leave goOn

/-- A text. -/
def layText (text : List Char) : Layout := fun next states =>
  text.foldr (fun c (next, states) => add states (.take (.single c) next)) (next, states)

/-- The same part `count` times. -/
def layCopies (body : Layout) : Nat → Layout
  | 0, next, states => (next, states)
  | count + 1, next, states =>
      let (later, states) := layCopies body count next states
      body later states

/-- The same part up to `count` times. -/
def layUpTo (body : Layout) (greedy : Bool) : Nat → Layout
  | 0, next, states => (next, states)
  | count + 1, next, states =>
      let (later, states) := layUpTo body greedy count next states
      let (entry, states) := body later states
      add states (branch greedy entry next)

/-- A part once and any number of times more. -/
def layAtLeastOnce (body : Layout) (greedy : Bool) : Layout := fun next states =>
  let (loop, states) := add states .accept
  let (entry, states) := body loop states
  (entry, states.setIfInBounds loop (branch greedy entry next))

/-- A part any number of times; the part uses up some text each time. -/
def layLoop (body : Layout) (greedy : Bool) : Layout := fun next states =>
  let (loop, states) := add states .accept
  let (entry, states) := body loop states
  (loop, states.setIfInBounds loop (branch greedy entry next))

/-- A part at least `least` and, with a bound, at most `most` times. -/
def layTimes (body : Layout) (mayBeEmpty greedy : Bool) : Nat → Option Nat → Layout
  | least, some most => fun next states =>
      let (later, states) := layUpTo body greedy (most - least) next states
      layCopies body least later states
  | 0, none => fun next states =>
      if mayBeEmpty then
        let (entry, states) := layAtLeastOnce body greedy next states
        add states (branch greedy entry next)
      else layLoop body greedy next states
  | least + 1, none => fun next states =>
      let (later, states) := layAtLeastOnce body greedy next states
      layCopies body least later states

/-- The part for an expression. -/
def lay : Regex → Layout
  | .empty => fun next states => (next, states)
  | .literal text => layText text
  | .set characters _ => fun next states => add states (.take characters next)
  | .look condition => fun next states => add states (.check condition next)
  | .seq first second => fun next states =>
      let (later, states) := lay second next states
      lay first later states
  | .alt first second => fun next states =>
      let (left, states) := lay first next states
      let (right, states) := lay second next states
      add states (.split left right)
  | .times body least most greedy => layTimes (lay body) body.mayMatchEmpty greedy least most
  | .capture index body => fun next states =>
      let (closed, states) := add states (.note (closing index) next)
      let (entry, states) := lay body closed states
      add states (.note (opening index) entry)

/-- The net for an expression. -/
def ofRegex (regex : Regex) : Net :=
  let (accept, states) := add #[] .accept
  let (start, states) := lay regex accept states
  ⟨states, start⟩

end Net

/-- A way that cannot go on without a character, or that has matched. -/
inductive Thread where
  | waiting (characters : Text.Ranges) (next : Nat) (notes : Notes)
  | matched (notes : Notes)

namespace Net

/-- A place in a text. -/
structure Place where
  offset : Nat
  before : Option Char
  after : Option Char

/-- Follows ways until they wait for a character.  `seen` holds for each state the offset, counted
from one, at which it was last come to; a state is followed once at a place.  Each state has at
most two successors, so `fuel` may be twice the number of states and the ways to follow. -/
def follow (net : Net) (place : Place) :
    Nat → List (Nat × Notes) → Array Nat → Array Thread → Array Nat × Array Thread
  | 0, _, seen, threads => (seen, threads)
  | _, [], seen, threads => (seen, threads)
  | fuel + 1, (state, notes) :: rest, seen, threads =>
      if seen[state]? == some (place.offset + 1) then net.follow place fuel rest seen threads
      else
        let seen := seen.setIfInBounds state (place.offset + 1)
        match net.states[state]? with
        | some (.take characters next) =>
            net.follow place fuel rest seen (threads.push (.waiting characters next notes))
        | some (.check look next) =>
            if look.holds place.before place.after then
              net.follow place fuel ((next, notes) :: rest) seen threads
            else net.follow place fuel rest seen threads
        | some (.note mark next) =>
            net.follow place fuel ((next, (mark, place.offset) :: notes) :: rest) seen threads
        | some (.split first second) =>
            net.follow place fuel ((first, notes) :: (second, notes) :: rest) seen threads
        | some .accept => net.follow place fuel rest seen (threads.push (.matched notes))
        | none => net.follow place fuel rest seen threads

/-- What becomes of threads, the first first: those that take the next character go on, and one
that has matched ends all that come after it. -/
def advance (after : Option Char) :
    List Thread → List (Nat × Notes) → List (Nat × Notes) × Option Notes
  | [], later => (later.reverse, none)
  | .matched notes :: _, later => (later.reverse, some notes)
  | .waiting characters next notes :: rest, later =>
      if after.any characters.has then advance after rest ((next, notes) :: later)
      else advance after rest later

/-- Follows all ways through a text; `found` are the notes of the best match so far.  A way starts
at every place until a match is found, and comes after those that started before it. -/
def run (net : Net) : Nat → Option Char → List Char → List (Nat × Notes) → Option Notes →
    Array Nat → Option Notes
  | offset, before, text, ways, found, seen =>
      let ways := if found.isNone then ways ++ [(net.start, [])] else ways
      let place : Place := ⟨offset, before, text.head?⟩
      let (seen, threads) := net.follow place (ways.length + 2 * net.states.size) ways seen #[]
      let (later, better) := advance text.head? threads.toList []
      let found := better.or found
      match text with
      | [] => found
      | c :: rest =>
          if later.isEmpty && found.isSome then found
          else net.run (offset + 1) (some c) rest later found seen

/-- The notes on the first match in a text. -/
def search (net : Net) (text : List Char) : Option Notes :=
  net.run 0 none text [] none (Array.replicate net.states.size 0)

/-- What a group has matched, by the notes on a match. -/
def group? (text : Array Char) (notes : Notes) (index : Nat) : Option (List Char) :=
  match notes.lookup (opening index), notes.lookup (closing index) with
  | some start, some stop => some (text.extract start stop).toList
  | _, _ => none

end Net

end Console
