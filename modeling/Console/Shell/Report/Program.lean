import Console.Shell.Utility.Pattern

/-!
# Report programs

A program has rules, each a pattern that says for which records it is meant and what it does with
them, and functions.
-/

namespace Console.Shell.Report

/-- An operation on numbers. -/
inductive Operation where
  | add
  | subtract
  | multiply
  | divide
  | remainder
  | power
  deriving DecidableEq, Repr

/-- How two values are compared. -/
inductive Comparison where
  | less
  | atMost
  | equal
  | unequal
  | greater
  | atLeast
  deriving DecidableEq, Repr

/-- What has a value. -/
inductive Term where
  | number (x : Float)
  | text (text : Octets)
  /-- Whether the record matches a pattern. -/
  | pattern (source : Octets) (regex : LineRegex)
  | name (name : Octets)
  | element (array : Octets) (indices : List Term)
  | field (index : Term)
  /-- Terms between parentheses. -/
  | group (terms : List Term)
  | negative (term : Term)
  | positive (term : Term)
  | not (term : Term)
  | both (left right : Term)
  | either (left right : Term)
  | choice (condition yes no : Term)
  | operation (operation : Operation) (left right : Term)
  | comparison (comparison : Comparison) (left right : Term)
  /-- One text after the other. -/
  | joined (left right : Term)
  | matching (isNegated : Bool) (text pattern : Term)
  | isKey (indices : List Term) (array : Octets)
  | assign (target : Term) (operation : Option Operation) (value : Term)
  /-- The value of a place after or before it is changed by one. -/
  | step (target : Term) (isAfter isUp : Bool)
  | call (function : Octets) (arguments : List Term)
  /-- A function that is always there; its arguments may be left out. -/
  | builtin (function : String) (arguments : Option (List Term))
  /-- Whether a line could be read, into a place or as the record. -/
  | readLine (target file : Option Term)
  /-- Whether a line could be read from the output of a command. -/
  | readOutput (command : Term) (target : Option Term)

/-- Where what is printed goes. -/
inductive Outlet where
  | new
  | appended
  | command
  deriving DecidableEq, Repr

/-- What is done. -/
inductive Statement where
  | block (statements : List Statement)
  | compute (term : Term)
  | print (terms : List Term) (isFormatted : Bool) (outlet : Option (Outlet × Term))
  | choose (condition : Term) (yes : Statement) (no : Option Statement)
  | repeatWhile (condition : Term) (body : Statement)
  | repeatUntil (body : Statement) (condition : Term)
  | count (start : Option Statement) (condition : Option Term) (step : Option Statement)
      (body : Statement)
  | forEach (name array : Octets) (body : Statement)
  | next
  | nextFile
  | exit (status : Option Term)
  | return_ (value : Option Term)
  | leave
  | renew
  | delete (array : Octets) (indices : Option (List Term))

/-- What a rule is meant for. -/
inductive Selection where
  | start
  | finish
  | always
  | when (condition : Term)
  /-- The records from one on for which the first condition holds, up to one for which the second
  one does. -/
  | range (first last : Term)

/-- What is done for which records; without a body, the record is printed. -/
structure Rule where
  selection : Selection
  body : Option Statement

/-- A function of a program. -/
structure Function where
  name : Octets
  parameters : List Octets
  body : Statement

/-- A program. -/
structure Program where
  rules : List Rule := []
  functions : List Function := []

end Console.Shell.Report
