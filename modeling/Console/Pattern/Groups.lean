import Console.Pattern.Piece
import Console.Pattern.Scan
import Console.Text.Classes

/-!
# Groups of patterns

What stands behind an opening parenthesis: a group that captures, with or without a name, a group
under flags, or flags for the rest of the group around.
-/

namespace Console

/-- Flags with the stretches that they take up. -/
abbrev MeasuredFlags := List (FlagItem × Stretch)

/-- What a parenthesis opens. -/
inductive GroupOpening where
  | capture
  | named (name : List Char) (stretch : Stretch)
  | plain (items : List FlagItem)
  /-- Flags for what comes after them; the parenthesis is closed again. -/
  | flags (items : List FlagItem)

namespace GroupOpening

/-- The flag that a letter stands for. -/
def flag? : Char → Option Flag
  | 'i' => some .ignoreCase
  | 'm' => some .multiLine
  | 's' => some .dotNewline
  | 'U' => some .swapGreed
  | 'u' => some .unicode
  | 'R' => some .crlf
  | 'x' => some .ignoreBlank
  | _ => none

/-- Reads a flag or the sign that takes flags away. -/
def readFlag (scan : Scan) (c : Char) : Reading FlagItem :=
  if c = '-' then .ok .negation
  else match flag? c with
    | some flag => .ok (.flag flag)
    | none => Scan.fail .flagUnknown scan.here

/-- Reads flags up to a colon or a closing parenthesis; `items` are those read so far, newest
first. -/
def readFlags : Nat → Scan → MeasuredFlags → Reading (MeasuredFlags × Scan)
  | 0, scan, _ => Scan.fail .flagEnd scan.spot
  | fuel + 1, scan, items =>
      match scan.rest with
      | [] => Scan.fail .flagEnd scan.spot
      | c :: _ => do
          if c = ':' || c = ')' then
            match items with
            | (.negation, stretch) :: _ => Scan.fail .flagDangling stretch
            | _ => return (items, scan)
          else
            let item ← readFlag scan c
            match items.find? fun (other, _) => other == item with
            | some (_, earlier) =>
                let fault := if c = '-' then .flagNegationRepeated else .flagDuplicate
                throw { fault, stretch := scan.here, earlier := some earlier }
            | none => readFlags fuel scan.bump ((item, scan.here) :: items)

/-- Whether a character may stand in the name of a group, at its start or later on. -/
def isNameChar (isFirst : Bool) (c : Char) : Bool :=
  c == '_' ||
    if isFirst then Text.isAlphabetic c
    else c == '.' || c == '[' || c == ']' || Text.isAlphanumeric c

/-- Reads the name of a group up to its angle bracket, in reverse. -/
def readName : Nat → Scan → List Char → Reading (List Char × Scan)
  | 0, scan, _ => Scan.fail .groupNameEnd scan.spot
  | fuel + 1, scan, name =>
      match scan.rest with
      | [] => Scan.fail .groupNameEnd scan.spot
      | c :: _ =>
          if c = '>' then .ok (name, scan)
          else if isNameChar name.isEmpty c then readName fuel scan.bump (c :: name)
          else Scan.fail .groupName scan.here

/-- Reads what a parenthesis opens, from the parenthesis on. -/
def read (scan : Scan) : Reading (GroupOpening × Scan) := do
  let stretch := scan.here
  let scan := scan.advance
  let lookAround := ["?=", "?!", "?<=", "?<!"].findSome? scan.after?
  if let some after := lookAround then Scan.fail .lookAround (after.since stretch.start)
  else if let some inside := (scan.after? "?P<").or (scan.after? "?<") then
    let (name, after) ← readName (inside.rest.length + 1) inside []
    if name.isEmpty then Scan.fail .groupNameEmpty inside.spot
    return (.named name.reverse (after.since inside.place), after.bump)
  else if let some inside := scan.after? "?" then
    if inside.atEnd then Scan.fail .groupUnclosed stretch
    let (items, after) ← readFlags (inside.rest.length + 1) inside []
    let flags := (items.map Prod.fst).reverse
    if after.rest.head? != some ')' then return (.plain flags, after.bump)
    else if flags.isEmpty then Scan.fail .nothingToRepeat scan.spot
    else return (.flags flags, after.bump)
  else return (.capture, scan)

end GroupOpening

namespace FlagItem

/-- What flags say about one of them, if anything. -/
def state? (wanted : Flag) : List FlagItem → Bool → Option Bool
  | [], _ => none
  | negation :: rest, _ => state? wanted rest false
  | flag present :: rest, value =>
      if present = wanted then some value else state? wanted rest value

end FlagItem

end Console
