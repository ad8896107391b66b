import Console.Text.Decimal

/-!
# TOML values

A document is a table.  Its tables come about in four ways, and the way decides what may still be
added to them: a header may go through any table but an inline one, a key with dots only through
tables that no header has named, and the last table on its way has to be one that came about
through dots as well.
-/

namespace Console.Toml

/-- How a table came about. -/
inductive TableKind where
  /-- A header names it. -/
  | explicit
  /-- A header names a table inside it. -/
  | implied
  /-- A key with dots leads through it. -/
  | dotted
  /-- It is written between braces. -/
  | inline
  deriving DecidableEq, Repr

/-- A value. -/
inductive Value where
  | text (text : String)
  | boolean (value : Bool)
  | integer (value : Int64)
  /-- A number with a fraction or an exponent, as it is written. -/
  | float (written : String)
  /-- A date, a time of day or both, as it is written. -/
  | moment (written : String)
  | array (items : List Value)
  | table (kind : TableKind) (entries : List (String × Value))
  /-- The tables that headers in double brackets have added, the latest apart. -/
  | tables (earlier : List (List (String × Value))) (latest : List (String × Value))
  deriving Repr

/-- The keys of a table with their values. -/
abbrev Entries := List (String × Value)

namespace Entries

/-- The value of a key. -/
def get? (entries : Entries) (key : String) : Option Value := entries.lookup key

/-- Gives a key a value. -/
def put (entries : Entries) (key : String) (value : Value) : Entries :=
  if (entries.get? key).isSome then
    entries.map fun (other, held) => if other == key then (other, value) else (other, held)
  else entries ++ [(key, value)]

/-- Gives a key at the end of a path with dots a value; it must not have one. -/
def assign : List String → String → Value → Entries → Option Entries
  | [], key, value, entries =>
      if (entries.get? key).isSome then none else some (entries.put key value)
  | name :: path, key, value, entries =>
      match entries.get? name with
      | none =>
          (assign path key value []).map fun inner => entries.put name (.table .dotted inner)
      | some (.table kind inner) =>
          if kind = .dotted || (kind = .implied && !path.isEmpty) then
            (assign path key value inner).map fun inner => entries.put name (.table kind inner)
          else none
      | some (.tables earlier latest) =>
          if path.isEmpty then none
          else
            (assign path key value latest).map fun latest =>
              entries.put name (.tables earlier latest)
      | some _ => none

/-- Changes the table that a path of a header leads to. -/
def within : List String → (Entries → Option Entries) → Entries → Option Entries
  | [], change, entries => change entries
  | name :: path, change, entries =>
      match entries.get? name with
      | none => (within path change []).map fun inner => entries.put name (.table .implied inner)
      | some (.table kind inner) =>
          if kind = .inline then none
          else (within path change inner).map fun inner => entries.put name (.table kind inner)
      | some (.tables earlier latest) =>
          (within path change latest).map fun latest => entries.put name (.tables earlier latest)
      | some _ => none

/-- A header names a table; it may have been implied, but not named before. -/
def openTable (key : String) (entries : Entries) : Option Entries :=
  match entries.get? key with
  | none => some (entries.put key (.table .explicit []))
  | some (.table .implied inner) => some (entries.put key (.table .explicit inner))
  | some _ => none

/-- A header in double brackets adds a table to those of its name. -/
def openNext (key : String) (entries : Entries) : Option Entries :=
  match entries.get? key with
  | none => some (entries.put key (.tables [] []))
  | some (.tables earlier latest) => some (entries.put key (.tables (earlier ++ [latest]) []))
  | some _ => none

end Entries

end Console.Toml
