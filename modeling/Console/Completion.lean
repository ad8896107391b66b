import Console.Text.Blank

/-!
# Completion

Names of commands that complete what has been typed of the first word of a line.
-/

namespace Console.Completion

/-- The names that start with a text, in ascending order, each once. -/
def candidates (names : List String) (typed : String) : List String :=
  let found := names.filter fun name => typed.toList.isPrefixOf name.toList
  (found.mergeSort fun left right => decide (left ≤ right)).eraseReps

/-- The characters of a text that its first bytes make up. -/
def firstBytes : Nat → List Char → List Char
  | _, [] => []
  | count, c :: rest =>
      if c.utf8Size ≤ count then c :: firstBytes (count - c.utf8Size) rest else []

/-- What may stand in a line in place of the text from a position up to the cursor, both counted in
bytes: the candidates for the first word while it is being typed, and nothing after that. -/
def complete (names : List String) (line : String) (cursor : Nat) : Nat × List String :=
  let typed := firstBytes cursor line.toList
  if typed.isEmpty || typed.any Text.isBlank then (cursor, [])
  else (0, candidates names (.ofList typed))

end Console.Completion
