import Console.Shell.Report.Datum

/-!
# Arrays of report programs

An array gives keys values.  Its keys are gone through in an order that follows from numbers made of
their characters, and from the order in which they have been used: `Table.keys` is that order.
-/

namespace Console.Shell.Report

/-- Entries with the one of a name put in its place. -/
def putEntry {α : Type} (name : Octets) (value : α) : List (Octets × α) → List (Octets × α)
  | [] => [(name, value)]
  | (other, old) :: rest =>
      if other = name then (name, value) :: rest else (other, old) :: putEntry name value rest

/-- What an entry is found by. -/
structure Key where
  text : Octets
  /-- The integer that the key has been given as, if it was one. -/
  number? : Option Int := none

namespace Key

/-- The key that is the number of a place. -/
def ofIndex (index : Nat) : Key := { text := countOctets index, number? := some index }

/-- The key that a value means, where a format says how numbers are written. -/
def ofDatum (format : Octets) (datum : Datum) : Key :=
  { text := datum.toText format
    number? := match datum with | .number x => wholeNumber? x | _ => none }

end Key

/-- An array. -/
structure Table where
  entries : List (Octets × Datum) := []
  /-- The keys that have been used as numbers, the latest first. -/
  numbered : List Int := []
  /-- The keys that have been used as texts, the latest first. -/
  named : List Octets := []
  /-- Whether a key has been used as a text, so that all keys are among the texts. -/
  hasNames : Bool := false

namespace Table

/-- How many classes the keys have; each holds up to twelve keys on average. -/
def classCount (table : Table) : Nat :=
  let count := table.entries.length
  ((List.range 24).map fun power => 64 * Nat.pow 2 power).find?
      (fun classes => count ≤ 12 * classes)
    |>.getD 64

/-- The number of a key that is a text, which says its class. -/
def textNumber (key : Octets) : Nat :=
  key.foldl (fun sum c => ((sum ^^^ c.toNat) * 16777619) % 0x100000000) 2166136261

/-- The value of a key. -/
def value? (table : Table) (key : Key) : Option Datum := table.entries.lookup key.text

/-- The table with all keys among the texts. -/
def withNames (table : Table) : Table :=
  if table.hasNames then table
  else
    let classOf (number : Int) : Int := number.emod table.classCount
    let inOrder := table.numbered.mergeSort fun left right => classOf left ≤ classOf right
    { table with named := (inOrder.map Text.intDigits).reverse, hasNames := true }

/-- The table after a key has been looked for: if it is there, it is the latest one. -/
def touched (table : Table) (key : Key) : Table :=
  let asText (table : Table) : Table :=
    let table := table.withNames
    if table.named.contains key.text then
      { table with named := key.text :: table.named.erase key.text }
    else table
  match key.number? with
  | some number =>
      if table.numbered.contains number then
        { table with numbered := number :: table.numbered.erase number }
      else if table.hasNames then
        let table := asText table
        if table.named.contains key.text then { table with numbered := number :: table.numbered }
        else table
      else table
  | none => asText table

/-- The table with a value for a key. -/
def put (table : Table) (key : Key) (value : Datum) : Table :=
  if (table.value? key).isSome then
    { table.touched key with entries := putEntry key.text value table.entries }
  else
    let table :=
      match key.number? with
      | some number =>
          { table with
            numbered := number :: table.numbered
            named := if table.hasNames then key.text :: table.named else table.named }
      | none =>
          let table := table.withNames
          { table with named := key.text :: table.named }
    { table with entries := (key.text, value) :: table.entries }

/-- The table without a key. -/
def erase (table : Table) (key : Key) : Table :=
  let table := table.touched key
  let entries := table.entries.filter (·.1 != key.text)
  if entries.isEmpty then {}
  else
    { table with
      entries
      numbered := table.numbered.filter (Text.intDigits · != key.text)
      named := table.named.erase key.text }

/-- The keys in the order in which they are gone through. -/
def keys (table : Table) : List Octets :=
  let table := table.withNames
  let classOf (key : Octets) : Nat := textNumber key % table.classCount
  table.named.mergeSort fun left right => classOf left ≤ classOf right

/-- The table of texts that are numbered from one on. -/
def ofParts (parts : List Datum) : Table :=
  { entries := (parts.zipIdx.map fun (part, place) => (countOctets (place + 1), part)).reverse
    numbered := ((List.range parts.length).map fun place => Int.ofNat place + 1).reverse }

end Table

end Console.Shell.Report
