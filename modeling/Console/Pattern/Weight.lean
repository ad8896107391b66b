import Console.Pattern.Regex
import Std.Data.HashMap

/-!
# The weight of a pattern

A pattern is laid out twice as a net of states that read a text byte by byte, once from its start
and once from its end.  What either net takes up is bounded, so that counted repetitions cannot use
up all memory; it is computed here without building the nets.

Characters outside ASCII are read as sequences of up to four bytes.  Sequences of one set share
states: those that are read from the start share what they end with, and a state is found again in
a table of limited size, in which a new state takes the place of an older one now and then.
-/

namespace Console

/-! ## Sequences of bytes -/

/-- An inclusive range of bytes. -/
abbrev ByteRange := Nat × Nat

/-- The largest code points that are written in one, two, three and four bytes. -/
def byteLimits : List Nat := [0x7F, 0x7FF, 0xFFFF, 0x10FFFF]

/-- The byte sequence of a code point, given its number of bytes. -/
def bytesOf (count code : Nat) : List Nat :=
  match count with
  | 1 => [code]
  | 2 => [0xC0 + code / 64, 0x80 + code % 64]
  | 3 => [0xE0 + code / 4096, 0x80 + code / 64 % 64, 0x80 + code % 64]
  | _ => [0xF0 + code / 262144, 0x80 + code / 4096 % 64, 0x80 + code / 64 % 64, 0x80 + code % 64]

/-- A range of code points cut into two where it has to be cut to be one sequence of byte ranges:
between lengths, and where a trailing byte does not run through all its values. -/
def cut? (first last : Nat) : Option ((Nat × Nat) × (Nat × Nat)) :=
  match byteLimits.find? fun limit => first ≤ limit && limit < last with
  | some limit => some ((first, limit), (limit + 1, last))
  | none =>
      if last ≤ 0x7F then none
      else
        [64, 4096, 262144].findSome? fun unit =>
          if first / unit == last / unit then none
          else if first % unit != 0 then
            let stop := first / unit * unit + unit - 1
            some ((first, stop), (stop + 1, last))
          else if last % unit != unit - 1 then
            let start := last / unit * unit
            some ((first, start - 1), (start, last))
          else none

/-- The sequences of byte ranges of a range of code points, in ascending order.  Every cut is at
one of few places, which `fuel` allows for. -/
def byteSequences : Nat → Nat → Nat → List (List ByteRange)
  | 0, _, _ => []
  | fuel + 1, first, last =>
      match cut? first last with
      | some ((first, stop), (start, last)) =>
          byteSequences fuel first stop ++ byteSequences fuel start last
      | none =>
          let count := (byteLimits.filter (· < last)).length + 1
          [(bytesOf count first).zip (bytesOf count last)]

/-! ## Loads -/

/-- What a net takes up so far: its states, and the room for what leads on from them. -/
structure Load where
  states : Nat := 0
  room : Nat := 0
  deriving DecidableEq, Repr

namespace Load

/-- The room for a state. -/
def stateRoom : Nat := 32

/-- The room for one way to go on from a state that reads nothing. -/
def branchRoom : Nat := 4

/-- The room for one way to go on from a state that reads a byte. -/
def stepRoom : Nat := 8

/-- The largest weight of a net. -/
def limit : Nat := 10485760

/-- The weight of a load. -/
def weight (load : Load) : Nat := stateRoom * load.states + load.room

/-- A load with more states and more room. -/
def plus (load : Load) (states room : Nat) : Load := ⟨load.states + states, load.room + room⟩

/-- A load, if it is not too large. -/
def checked (load : Load) : Option Load := if load.weight ≤ limit then some load else none

end Load

/-! ## Shared states -/

/-- A table of states by the numbers that describe them.  Each description has one slot, which
remembers only the latest state that was put there. -/
structure StateTable where
  size : Nat
  slots : Std.HashMap Nat (List Nat × Nat) := {}

namespace StateTable

/-- The slot of a description. -/
def slotOf (table : StateTable) (description : List Nat) : Nat :=
  let hash : UInt64 := description.foldl
    (fun hash number => (hash ^^^ number.toUInt64) * 1099511628211) 14695981039346656037
  hash.toNat % table.size

/-- The state with a description: one that is remembered, or a new one, which adds room to the
load. -/
def state (table : StateTable) (load : Load) (description : List Nat) (room : Nat) :
    Nat × StateTable × Load :=
  let slot := table.slotOf description
  let found :=
    match table.slots[slot]? with
    | some (other, number) => if other = description then some number else none
    | none => none
  match found with
  | some number => (number, table, load)
  | none =>
      let number := load.states
      (number, { table with slots := table.slots.insert slot (description, number) },
        load.plus 1 room)

/-- The sequences in order, put together with their neighbours that begin alike; each group has its
beginning and what comes after it. -/
def groups : List (List ByteRange) → List (ByteRange × List (List ByteRange))
  | [] => []
  | [] :: rest => groups rest
  | (first :: tail) :: rest =>
      match groups rest with
      | (other, tails) :: more =>
          if other = first then (first, tail :: tails) :: more
          else (first, [tail]) :: (other, tails) :: more
      | [] => [(first, [tail])]

/-- The state that reads one of the sequences, of which none is longer than the first number, and
then goes on to `target`. -/
def trunk (target : Nat) :
    Nat → List (List ByteRange) → StateTable × Load → Nat × StateTable × Load
  | 0, _, shared => (target, shared)
  | length + 1, sequences, shared =>
      if sequences.all (·.isEmpty) then (target, shared)
      else
        let (steps, table, load) := (groups sequences).foldl
          (fun (steps, shared) ((first, last), tails) =>
            let (next, shared) := trunk target length tails shared
            (steps ++ [first, last, next], shared)) ([], shared)
        table.state load steps (Load.stepRoom * (steps.length / 3))

/-- The state that a sequence is read to, from its end, before it goes on to `next`. -/
def twig (next : Nat) (shared : StateTable × Load) : List ByteRange → Nat × StateTable × Load
  | [] => (next, shared)
  | (first, last) :: rest =>
      let (number, shared) := shared.1.state shared.2 [next, first, last] 0
      twig number shared rest

end StateTable

namespace Load

/-- A load with a set of which the sequences are given, read from the start. -/
def withTrunk (sequences : List (List ByteRange)) (load : Load) : Load :=
  let (_, _, after) := StateTable.trunk load.states 4 sequences ({ size := 10000 }, load.plus 1 0)
  after

/-- A load with a set of which the sequences are given, read from the end. -/
def withTwigs (sequences : List (List ByteRange)) (load : Load) : Load :=
  let target := load.states + 1
  let (_, after) := sequences.foldl
    (fun shared sequence => (StateTable.twig target shared sequence).2)
    ({ size := 1000 }, load.plus 2 (branchRoom * sequences.length))
  after

end Load

/-! ## Texts to choose from -/

/-- Texts that begin with a byte, by their first bytes, without those. -/
def byFirst (texts : List (List Nat)) : List (List (List Nat)) :=
  let firsts := (texts.filterMap List.head?).eraseDups
  firsts.map fun first => texts.filterMap fun text =>
    match text with
    | c :: rest => if c = first then some rest else none
    | [] => none

/-- Texts cut where one of them is at its end. -/
def cutAtEnds : List (List Nat) → List (List Nat) → List (List (List Nat))
  | piece, [] => [piece.reverse]
  | piece, [] :: rest => piece.reverse :: cutAtEnds [] rest
  | piece, text :: rest => cutAtEnds (text :: piece) rest

/-- Texts without those that are at their end right from the start, but for the first of them. -/
def withoutRepeatedEnds (texts : List (List Nat)) : List (List Nat) :=
  match texts with
  | [] :: rest => [] :: rest.dropWhile List.isEmpty
  | texts => texts

/-- What the states take up that read one of some texts, each at most as long as the number. -/
def textsLoad : Nat → List (List Nat) → Load
  | 0, _ => {}
  | length + 1, texts =>
      if texts.all (·.isEmpty) then {}
      else
        let pieces := cutAtEnds [] (withoutRepeatedEnds texts)
        let own := pieces.map fun piece : List (List Nat) =>
          match (byFirst piece).length with
          | 0 => ({} : Load)
          | 1 => ⟨1, Load.branchRoom⟩
          | count => ⟨1, Load.branchRoom + Load.stepRoom * count⟩
        let inner := (pieces.flatMap byFirst).map (textsLoad length)
        (own ++ inner).foldl (fun load part => load.plus part.states part.room)
          ⟨1, Load.branchRoom * (pieces.length - 1)⟩

/-! ## Outlines -/

/-- What of an expression decides on the weight of its net. -/
inductive Outline where
  /-- Something that takes up the same wherever it stands. -/
  | fixed (load : Load)
  /-- A set with characters outside ASCII. -/
  | wide (sequences : List (List ByteRange))
  | seq (first second : Outline)
  | alt (first second : Outline)
  | times (body : Outline) (mayBeEmpty : Bool) (least : Nat) (most : Option Nat)
  deriving Repr

namespace Regex

/-- The bytes of a text. -/
def textBytes (text : List Char) : List Nat :=
  text.flatMap fun c => (String.utf8EncodeChar c).map UInt8.toNat

/-- The bytes of the texts that an expression chooses from, if it chooses from texts alone. -/
def texts? : Regex → Option (List (List Nat))
  | literal text => some [textBytes text]
  | alt first second => return (← first.texts?) ++ (← second.texts?)
  | _ => none

/-- The outline of an expression, whose net reads it from its end or from its start.  `isFurther`
says that it is a part of a choice from which its first ways have been taken off. -/
def outline (isBackward : Bool) : Regex → (isFurther : Bool) → Outline
  | empty, _ | look _, _ => .fixed ⟨1, 0⟩
  | literal text, _ => .fixed ⟨(textBytes text).length, 0⟩
  | set characters _, _ =>
      if characters.isAscii then .fixed ⟨2, Load.stepRoom * characters.length⟩
      else .wide (characters.flatMap fun (first, last) =>
        (if first < 0xE000 && 0xD7FF < last then [(first, 0xD7FF), (0xE000, last)]
          else [(first, last)]).flatMap fun (first, last) => byteSequences 24 first last)
  | seq first second, _ =>
      let first := first.outline isBackward false
      let second := second.outline isBackward false
      if isBackward then .seq second first else .seq first second
  | alt first second, isFurther =>
      match if isFurther then none else (alt first second).texts? with
      | some texts =>
          let texts := if isBackward then texts.map List.reverse else texts
          let length := texts.foldl (fun most text => max most text.length) 0
          .fixed ((textsLoad length texts).plus 1 0)
      | none => .alt (first.outline isBackward false) (second.outline isBackward true)
  | times body least most _, _ =>
      .times (body.outline isBackward false) body.mayMatchEmpty least most
  | capture _ body, _ =>
      let inner := body.outline isBackward false
      if isBackward then inner else .seq (.fixed ⟨1, 0⟩) (.seq inner (.fixed ⟨1, 0⟩))

end Regex

namespace Outline

/-- Does something to a load again and again. -/
def often (step : Load → Option Load) : Nat → Load → Option Load
  | 0, load => some load
  | count + 1, load => (step load).bind (often step count)

/-- The load with a part up to a number of times, or a state where there is none. -/
def exactly (step : Load → Option Load) (count : Nat) (load : Load) : Option Load :=
  if count = 0 then (load.plus 1 0).checked else often step count load

/-- The load with a repetition. -/
def repeated (step : Load → Option Load) (mayBeEmpty : Bool) (least : Nat) (most : Option Nat)
    (load : Load) : Option Load :=
  let fork := 2 * Load.branchRoom
  match least, most with
  | 0, none =>
      if mayBeEmpty then do ((← step load).plus 3 (2 * fork)).checked
      else step (load.plus 1 fork)
  | least, none => do ((← often step least load).plus 1 fork).checked
  | 0, some 1 => do ((← step (load.plus 1 fork)).plus 1 0).checked
  | least, some most => do
      let load ← exactly step least load
      if least = most then return load
      else often (fun load => step (load.plus 1 fork)) (most - least) (load.plus 1 0)

/-- The load with the net for an outline, unless that is too much.  `isFurther` says that what comes
are further ways of a choice that has begun already. -/
def lay (isBackward : Bool) : Outline → (isFurther : Bool) → Load → Option Load
  | fixed part, isFurther, load =>
      (load.plus part.states (part.room + if isFurther then Load.branchRoom else 0)).checked
  | wide sequences, isFurther, load =>
      let load := if isFurther then load.plus 0 Load.branchRoom else load
      (if isBackward then load.withTwigs sequences else load.withTrunk sequences).checked
  | seq first second, isFurther, load => do
      let load := if isFurther then load.plus 0 Load.branchRoom else load
      second.lay isBackward false (← first.lay isBackward false load)
  | alt first second, true, load => do
      second.lay isBackward true (← first.lay isBackward true load)
  | alt first (alt second rest), false, load => do
      let load ← second.lay isBackward false (← first.lay isBackward false load)
      rest.lay isBackward true (load.plus 2 (2 * Load.branchRoom))
  | alt first second, false, load => do
      let load ← second.lay isBackward false (← first.lay isBackward false load)
      (load.plus 2 (2 * Load.branchRoom)).checked
  | times body mayBeEmpty least most, isFurther, load =>
      let load := if isFurther then load.plus 0 Load.branchRoom else load
      repeated (body.lay isBackward false) mayBeEmpty least most load

end Outline

namespace Regex

/-- What has to hold where a match begins, or where it ends. -/
def edge (isBackward : Bool) : Regex → List Look
  | look condition => [condition]
  | seq first second =>
      if isBackward then
        second.edge isBackward ++ if second.matchesOnlyEmpty then first.edge isBackward else []
      else first.edge isBackward ++ if first.matchesOnlyEmpty then second.edge isBackward else []
  | alt first second =>
      let others := second.edge isBackward
      (first.edge isBackward).filter others.contains
  | times body least _ _ => if least = 0 then [] else body.edge isBackward
  | capture _ body => body.edge isBackward
  | _ => []

/-- Whether the net for a pattern takes up too much, in one of the directions.  Where a match is not
bound to the beginning of the text, it may start anywhere. -/
def isTooLargeIn (isBackward : Bool) (regex : Regex) : Bool :=
  let isBound := (regex.edge isBackward).contains (if isBackward then .finish else .start)
  let start : Load := if isBound then ⟨1, 0⟩ else ⟨3, Load.stepRoom + 2 * Load.branchRoom⟩
  let body := regex.outline isBackward false
  let whole : Outline :=
    if isBackward then .seq body (.fixed ⟨1, 0⟩)
    else .seq (.fixed ⟨1, 0⟩) (.seq body (.fixed ⟨2, 0⟩))
  (whole.lay isBackward false start).isNone

/-- Whether the net for a pattern takes up too much. -/
def isTooLarge (regex : Regex) : Bool := regex.isTooLargeIn false || regex.isTooLargeIn true

end Regex

end Console
