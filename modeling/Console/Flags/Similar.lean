/-!
# Similar names

How alike two names are: by the share of characters that they have in common at about the same
place, and by how many of those are in the same order.
-/

namespace Console.Flags

/-- Marks the first unmarked `c` at a position from `low` on and below `high`. -/
def markFirst (c : Char) (low high : Nat) : Nat → List (Char × Bool) → Option (List (Char × Bool))
  | _, [] => none
  | position, (other, marked) :: rest =>
      if high ≤ position then none
      else if low ≤ position && other == c && !marked then some ((other, true) :: rest)
      else (markFirst c low high (position + 1) rest).map ((other, marked) :: ·)

/-- The characters of the first name that have a partner in the second, and the second name with
the partners marked.  Partners are at most `reach` positions apart, and a character is the partner
of one other only. -/
def partners (reach : Nat) : Nat → List Char → List (Char × Bool) → List Char × List (Char × Bool)
  | _, [], marks => ([], marks)
  | position, c :: rest, marks =>
      match markFirst c (position - reach) (position + reach + 1) 0 marks with
      | some marks =>
          let (found, marks) := partners reach (position + 1) rest marks
          (c :: found, marks)
      | none => partners reach (position + 1) rest marks

/-- The similarity of two names, from zero for nothing in common to one for the same name: the mean
of three shares, of the common characters in either name and of those among them that are in
order. -/
def similarity (first second : List Char) : Float :=
  let reach := max first.length second.length / 2 - 1
  let (found, marks) := partners reach 0 first (second.map fun c => (c, false))
  let other := marks.filterMap fun (c, marked) => if marked then some c else none
  let swapped := ((found.zip other).filter fun (c, d) => c != d).length / 2
  let common := found.length
  let share (part whole : Nat) : Float := part.toFloat / whole.toFloat
  if common = 0 then 0.0
  else
    (share common first.length + share common second.length +
      share (common - swapped) common) / 3.0

/-- The name that is most similar to a given one, if any is similar enough; of several that are
equally similar, the last. -/
def mostSimilar? (name : String) (names : List String) : Option String :=
  let scored := names.map fun other => (other, similarity name.toList other.toList)
  let close := scored.filter fun (_, score) => 0.7 < score
  (close.foldl (fun best entry =>
    match best with
    | none => some entry
    | some held => if entry.2 < held.2 then best else some entry) none).map (·.1)

end Console.Flags
