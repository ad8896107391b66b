import Console.Text.Blank
import Console.Text.Classes

/-!
# Texts between blank characters

What is cut off a text at either end is blank, and what is left neither begins nor ends with a blank
character.  No word of letters and numbers goes on with a blank character, of whatever script they
are.
-/

namespace Console.Text

/-! ## Sets of characters -/

namespace Ranges

variable {left right : Ranges} {c : Char}

theorem exists_of_contains {code : Nat} (within : left.contains code = true) :
    ∃ range ∈ left, range.1 ≤ code ∧ code ≤ range.2 := by
  induction left with
  | nil => cases within
  | cons range left ih =>
      rw [contains] at within
      split at within
      · cases within
      next above =>
        simp only [Bool.or_eq_true, decide_eq_true_eq] at within
        rcases within with here | later
        · exact ⟨range, by simp, by omega, here⟩
        · obtain ⟨found, member, bounds⟩ := ih later
          exact ⟨found, by simp [member], bounds⟩

/-- Sets have no character in common if no range of one meets a range of the other. -/
theorem not_has_of_apart
    (apart : left.all fun range => right.all fun other => range.2 < other.1 || other.2 < range.1)
    (member : left.has c = true) : right.has c = false := by
  rw [← Bool.not_eq_true]
  intro both
  obtain ⟨range, inLeft, first, last⟩ := exists_of_contains member
  obtain ⟨other, inRight, start, stop⟩ := exists_of_contains both
  simp only [List.all_eq_true] at apart
  have met := apart range inLeft other inRight
  simp only [Bool.or_eq_true, decide_eq_true_eq] at met
  omega

end Ranges

/-- No character that a name goes on with is blank. -/
theorem not_isAlphanumeric_of_isBlank {c : Char} (blank : isBlank c = true) :
    isAlphanumeric c = false := by
  have apart : ∀ table ∈ [letters, otherAlphabetic, decimals, otherNumbers],
      blanks.all fun range => table.all fun other => range.2 < other.1 || other.2 < range.1 := by
    decide +kernel
  simp only [List.forall_mem_cons] at apart
  obtain ⟨letter, other, decimal, number, _⟩ := apart
  simp only [isAlphanumeric, isAlphabetic, Ranges.not_has_of_apart letter blank,
    Ranges.not_has_of_apart other blank, Ranges.not_has_of_apart decimal blank,
    Ranges.not_has_of_apart number blank, Bool.or_self]

/-! ## Texts -/

variable {front text rest : List Char}

theorem allBlank_iff : allBlank text = true ↔ ∀ c ∈ text, isBlank c = true := List.all_eq_true

@[simp] theorem allBlank_append (front rest : List Char) :
    allBlank (front ++ rest) = (allBlank front && allBlank rest) := List.all_append

@[simp] theorem allBlank_reverse (text : List Char) : allBlank text.reverse = allBlank text :=
  List.all_reverse

@[simp] theorem isBlank_space : isBlank ' ' = true := rfl

/-! ## The beginning -/

@[simp] theorem trimStart_nil : trimStart [] = [] := rfl

@[simp] theorem trimStart_space (rest : List Char) : trimStart (' ' :: rest) = trimStart rest := rfl

theorem trimStart_cons (c : Char) (rest : List Char) :
    trimStart (c :: rest) = if isBlank c then trimStart rest else c :: rest := List.dropWhile_cons

theorem trimStart_append (rest : List Char) (visible : allBlank text = false) :
    trimStart (text ++ rest) = trimStart text ++ rest := by
  induction text with
  | nil => cases visible
  | cons c text ih =>
      rw [List.cons_append, trimStart_cons, trimStart_cons]
      split
      next blank => exact ih (by simpa [blank] using visible)
      next => rfl

theorem trimStart_append_of_allBlank (blank : allBlank front = true) (rest : List Char) :
    trimStart (front ++ rest) = trimStart rest :=
  List.dropWhile_append_of_pos (allBlank_iff.mp blank)

/-- Nothing is cut off a text that begins visibly. -/
theorem trimStart_of_begins (begins : ∀ c ∈ text.head?, isBlank c = false) :
    trimStart text = text := by
  cases text with
  | nil => rfl
  | cons c rest => rw [trimStart_cons, begins c rfl, if_neg Bool.false_ne_true]

/-- What is cut off at the beginning is blank. -/
theorem exists_append_trimStart (text : List Char) :
    ∃ front, allBlank front = true ∧ text = front ++ trimStart text :=
  ⟨text.takeWhile isBlank, List.all_takeWhile, List.takeWhile_append_dropWhile.symm⟩

theorem isBlank_of_head?_trimStart (text : List Char) :
    ∀ c ∈ (trimStart text).head?, isBlank c = false := by
  intro c begins
  have first := List.head?_dropWhile_not isBlank text
  rw [Option.mem_def] at begins
  rwa [← trimStart, begins] at first

@[simp] theorem allBlank_trimStart (text : List Char) :
    allBlank (trimStart text) = allBlank text := by
  obtain ⟨front, blank, split⟩ := exists_append_trimStart text
  have whole := congrArg allBlank split
  rw [allBlank_append, blank, Bool.true_and] at whole
  exact whole.symm

/-! ## The end -/

theorem trimEnd_eq_nil_iff : trimEnd text = [] ↔ allBlank text = true := by
  rw [trimEnd, List.reverse_eq_nil_iff, ← trimStart, trimStart_eq_nil_iff, allBlank_reverse]

theorem trimEnd_append_of_allBlank (text : List Char) (blank : allBlank rest = true) :
    trimEnd (text ++ rest) = trimEnd text := by
  rw [trimEnd, List.reverse_append, List.dropWhile_append_of_pos]
  · rfl
  · exact allBlank_iff.mp (by simpa using blank)

/-- What is cut off at the end is blank. -/
theorem exists_trimEnd_append (text : List Char) :
    ∃ rest, allBlank rest = true ∧ text = trimEnd text ++ rest := by
  obtain ⟨front, blank, split⟩ := exists_append_trimStart text.reverse
  refine ⟨front.reverse, by simpa using blank, ?_⟩
  rw [trimEnd, ← trimStart, ← List.reverse_append, ← split, List.reverse_reverse]

/-- Nothing is cut off a text that ends visibly. -/
theorem trimEnd_of_ends (ends : ∀ c ∈ text.getLast?, isBlank c = false) : trimEnd text = text := by
  have begins : trimStart text.reverse = text.reverse :=
    trimStart_of_begins (by rwa [List.head?_reverse])
  rw [trimEnd, ← trimStart, begins, List.reverse_reverse]

theorem trimEnd_of_visible (visible : ∀ c ∈ text, isBlank c = false) : trimEnd text = text :=
  trimEnd_of_ends fun c ends => visible c (List.mem_of_getLast? ends)

theorem isBlank_of_trimEnd {c : Char} (ends : trimEnd text = front ++ [c]) : isBlank c = false := by
  have begins : trimStart text.reverse = c :: front.reverse := by
    rw [trimStart, ← List.reverse_inj, ← trimEnd, ends]
    simp
  exact isBlank_of_head?_trimStart text.reverse c (by simp [begins])

/-- A text that is not blank ends in the same way whatever stands before it. -/
theorem trimEnd_append (front : List Char) (visible : allBlank text = false) :
    trimEnd (front ++ text) = front ++ trimEnd text := by
  have some : text.reverse.dropWhile isBlank ≠ [] := by
    rw [← trimStart, ne_eq, trimStart_eq_nil_iff]
    simp [visible]
  rw [trimEnd, List.reverse_append, List.dropWhile_append]
  simp [trimEnd, some]

@[simp] theorem trim_space (rest : List Char) : trim (' ' :: rest) = trim rest := rfl

theorem trim_append_of_allBlank (text : List Char) (blank : allBlank rest = true) :
    trim (text ++ rest) = trim text := by
  by_cases hidden : allBlank text
  · have all : allBlank (text ++ rest) = true := by simp [hidden, blank]
    rw [trim, trim, trimStart_eq_nil_iff.mpr all, trimStart_eq_nil_iff.mpr hidden]
  · rw [Bool.not_eq_true] at hidden
    rw [trim, trimStart_append rest hidden, trimEnd_append_of_allBlank _ blank, ← trim]

/-- Nothing is cut off a text that begins and ends visibly. -/
theorem trim_of_visible (begins : ∀ c ∈ text.head?, isBlank c = false)
    (ends : ∀ c ∈ text.getLast?, isBlank c = false) : trim text = text := by
  rw [trim, trimStart_of_begins begins, trimEnd_of_ends ends]

theorem trim_eq_nil_iff : trim text = [] ↔ allBlank text = true := by
  rw [trim, trimEnd_eq_nil_iff, allBlank_trimStart]

theorem mem_of_mem_trim {c : Char} (member : c ∈ trim text) : c ∈ text := by
  obtain ⟨front, _, begins⟩ := exists_append_trimStart text
  obtain ⟨rest, _, ends⟩ := exists_trimEnd_append (trimStart text)
  rw [begins, ends]
  exact List.mem_append_right _ (List.mem_append_left _ member)

end Console.Text
