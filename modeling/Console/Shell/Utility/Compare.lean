import Console.Shell.Utility.Texts

/-!
# Comparing files

Where two files differ: the first byte, the lines that only one of them has, and the lines to
change to make one of the other.
-/

namespace Console.Shell.Utility

/-- Reads two files; none if one of them cannot be read, which is complained about. -/
def pairOf (program : String) (names : List Octets) : Work (Option (Octets × Octets)) := do
  match names with
  | [left, right] =>
      match ← textOf program left, ← textOf program right with
      | some left, some right => pure (some (left, right))
      | _, _ => pure none
  | [left] =>
      let _ ← complainOfUse program ("missing operand after '" ++ Octets.toText left ++ "'") 2
      pure none
  | _ =>
      let _ ← complainOfUse program "missing operand" 2
      pure none

/-- The number of characters that two texts begin with alike. -/
def commonLength : Octets → Octets → Nat
  | c :: rest, d :: others => if c = d then commonLength rest others + 1 else 0
  | _, _ => 0

/-- Shows the first place where two files differ. -/
def cmp : Utility :=
  withOptions "cmp" [('s', false)] 2 fun given names => do
    let names := if names.length = 1 then names ++ [['-']] else names
    match ← pairOf "cmp" names with
    | none => pure 2
    | some (left, right) =>
        let nameOf (index : Nat) : Octets := names[index]?.getD []
        if left == right then pure 0
        else if has given 's' then pure 1
        else
          let same := commonLength left right
          let line := (left.take same).count '\n' + 1
          if same < left.length && same < right.length then
            say (nameOf 0 ++ ' ' :: nameOf 1 ++ " differ: char ".toList ++ countOctets (same + 1) ++
              ", line ".toList ++ countOctets line ++ ['\n'])
            pure 1
          else
            let short := Octets.toText (nameOf (if left.length < right.length then 0 else 1))
            let place := natText same ++
              (if (left.take same).getLast? = some '\n' then ", line " ++ natText (line - 1)
               else ", in line " ++ natText line)
            complain "cmp"
              (if same = 0 then "EOF on " ++ short ++ " which is empty"
               else "EOF on " ++ short ++ " after byte " ++ place) 1

/-- The lines of two lists in order, each with the column it belongs to: the first list, the second
one, or both.  The number is that of all lines. -/
def merged : Nat → List Octets → List Octets → List (Nat × Octets)
  | 0, _, _ => []
  | _ + 1, [], [] => []
  | _ + 1, left, [] => left.map (0, ·)
  | _ + 1, [], right => right.map (1, ·)
  | bound + 1, first :: left, second :: right =>
      if first = second then (2, first) :: merged bound left right
      else if Octets.isBefore first second then (0, first) :: merged bound left (second :: right)
      else (1, second) :: merged bound (first :: left) right

/-- Shows the lines of two sorted files in three columns. -/
def comm : Utility :=
  withOptions "comm" [('1', false), ('2', false), ('3', false)] 1 fun given names => do
    match ← pairOf "comm" names with
    | none => pure 1
    | some (left, right) =>
        let isHidden (column : Nat) : Bool := has given (Char.ofNat ('1'.toNat + column))
        let left := wholeLines left
        let right := wholeLines right
        for (column, line) in merged (left.length + right.length + 1) left right do
          unless isHidden column do
            let before := ((List.range column).filter (!isHidden ·)).length
            say (List.replicate before '\t' ++ line ++ ['\n'])
        pure 0

/-! ## Changes from one text to another -/

/-- What becomes of lines. -/
inductive LineChange where
  | kept
  | removed
  | added
  deriving DecidableEq, Repr

/-- The lengths of the longest common lists of lines from each line of the second list on, given
those for the first list without its first line. -/
def commonRow (line : Octets) : List Octets → List Nat → List Nat
  | [], _ => [0]
  | other :: rest, lengths =>
      let row := commonRow line rest (lengths.drop 1)
      let above := lengths.head?.getD 0
      let diagonal := (lengths.drop 1).head?.getD 0
      (if line = other then diagonal + 1 else max above (row.head?.getD 0)) :: row

/-- The tables of lengths of the longest common lists, for each line of the first list. -/
def commonRows (right : List Octets) : List Octets → List (List Nat)
  | [] => [List.replicate (right.length + 1) 0]
  | line :: rest =>
      let rows := commonRows right rest
      commonRow line right (rows.head?.getD []) :: rows

/-- What becomes of lines, in order; the number is that of all lines. -/
def changes : Nat → List (List Nat) → List Octets → List Octets → List LineChange
  | 0, _, _, _ => []
  | _, _, left, [] => left.map fun _ => .removed
  | _, _, [], right => right.map fun _ => .added
  | bound + 1, rows, first :: left, second :: right =>
      let row := rows.head?.getD []
      let below := (rows.drop 1).head?.getD []
      if first = second then .kept :: changes bound ((rows.drop 1).map (·.drop 1)) left right
      else if (row.drop 1).head?.getD 0 ≤ below.head?.getD 0 then
        .removed :: changes bound (rows.drop 1) left (second :: right)
      else .added :: changes bound (rows.map (·.drop 1)) (first :: left) right

/-- The places in two texts where changes follow one another: how many lines are before them, and
how many are removed and added. -/
def hunks : (before after : Nat) → List LineChange → List ((Nat × Nat) × (Nat × Nat))
  | _, _, [] => []
  | before, after, .kept :: rest => hunks (before + 1) (after + 1) rest
  | before, after, change :: rest =>
      let (removed, added) : Nat × Nat := if change = .removed then (1, 0) else (0, 1)
      let isAlone := rest.head?.all (· == .kept)
      let later := hunks (before + removed) (after + added) rest
      match isAlone, later with
      | false, (_, (more, others)) :: later =>
          ((before, after), (more + removed, others + added)) :: later
      | _, later => ((before, after), (removed, added)) :: later

/-- The numbers of lines that follow one another. -/
def lineRange (before count : Nat) : Octets :=
  if count = 0 then countOctets before
  else if count = 1 then countOctets (before + 1)
  else countOctets (before + 1) ++ ',' :: countOctets (before + count)

/-- The lines to change. -/
def changeText (left right : List Octets) : Octets :=
  let shown (mark : Octets) (lines : List Octets) : Octets :=
    lines.flatMap fun line =>
      mark ++ line ++
        (if line.getLast? = some '\n' then []
         else "\n\\ No newline at end of file\n".toList)
  (hunks 0 0 (changes (left.length + right.length + 1) (commonRows right left) left right)).flatMap
    fun ((before, after), (removed, added)) =>
      let letter := if removed = 0 then 'a' else if added = 0 then 'd' else 'c'
      lineRange before removed ++ letter :: lineRange after added ++ ['\n'] ++
        shown ['<', ' '] ((left.drop before).take removed) ++
        (if letter = 'c' then "---\n".toList else []) ++
        shown ['>', ' '] ((right.drop after).take added)

/-- Shows the lines to change to make one file of the other. -/
def diff : Utility :=
  withOptions "diff" [('q', false), ('s', false)] 2 fun given names => do
    match ← pairOf "diff" names with
    | none => pure 2
    | some (left, right) =>
        let both :=
          "Files ".toList ++ names.head?.getD [] ++ " and ".toList ++ names.getLast?.getD []
        if left == right then
          if has given 's' then say (both ++ " are identical\n".toList)
          pure 0
        else
          if has given 'q' then say (both ++ " differ\n".toList)
          else say (changeText (Octets.lines left) (Octets.lines right))
          pure 1

end Console.Shell.Utility
