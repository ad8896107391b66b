import Console.Proofs.Buffer
import Console.Proofs.Range

/-!
# Amending as a list splice

Amending cuts the text of a buffer into lines, changes their list and puts them together again.
The lines come back as they were, because each of them ends in a newline and has no other one:
this holds of whatever has been done to a buffer before, and of the line that is put in.
-/

namespace Console

namespace Text

/-- Lines that are written one after the other are the pieces of the whole. -/
theorem pieces_flatten {lines : List (List Char)} (each : ∀ line ∈ lines, IsLine line) :
    pieces lines.flatten = lines := by
  induction lines with
  | nil => rfl
  | cons line rest ih =>
      obtain ⟨front, whole, rfl⟩ := each line List.mem_cons_self
      rw [List.flatten_cons, List.append_assoc, List.singleton_append, pieces_append_newline,
        pieces_concat_newline whole, List.singleton_append,
        ih fun other member => each other (List.mem_cons_of_mem _ member)]

theorem count_newline_flatten {lines : List (List Char)} (each : ∀ line ∈ lines, IsLine line) :
    lines.flatten.count '\n' = lines.length := by
  induction lines with
  | nil => rfl
  | cons line rest ih =>
      obtain ⟨front, whole, rfl⟩ := each line List.mem_cons_self
      rw [List.flatten_cons, List.count_append, List.count_append,
        List.count_eq_zero_of_not_mem whole, List.count_singleton_self,
        ih fun other member => each other (List.mem_cons_of_mem _ member),
        List.length_cons]
      omega

end Text

/-- A list without the members at the positions of a span and, if there is one, with a new member in
their place. -/
def Span.splice {α : Type} (span : Span) (new : Option α) (items : List α) : List α :=
  let rest := items.take span.first ++ items.drop span.last
  match new with
  | none => rest
  | some item => rest.insertIdx span.first item

theorem insertIdx_length_append {α : Type} (before after : List α) (item : α) :
    (before ++ after).insertIdx before.length item = before ++ item :: after := by
  induction before with
  | nil => rfl
  | cons first before ih =>
      rw [List.cons_append, List.length_cons, List.insertIdx_succ_cons, ih, List.cons_append]

theorem Span.splice_some {α : Type} {span : Span} {items : List α}
    (within : span.first ≤ items.length) (item : α) :
    span.splice (some item) items = items.take span.first ++ item :: items.drop span.last := by
  have inserted := insertIdx_length_append (items.take span.first) (items.drop span.last) item
  rwa [List.length_take, Nat.min_eq_left within] at inserted

namespace Buffer

/-! ## The lines of a buffer -/

theorem Terminated.isLine_of_mem_lines {buffer : Buffer} (terminated : buffer.Terminated)
    {line : String} (member : line ∈ buffer.lines) : Text.IsLine line.toList := by
  have last := terminated.getLast?_of_mem_lines member
  obtain ⟨piece, inPieces, rfl⟩ := List.mem_map.mp member
  rw [String.toList_ofList] at last ⊢
  rcases Text.not_mem_or_isLine_of_mem_pieces inPieces with whole | isLine
  · exact absurd (List.mem_of_getLast? last) whole
  · exact isLine

/-- Lines that are put together are cut where they were before. -/
theorem lines_ofLines {lines : List String} (each : ∀ line ∈ lines, Text.IsLine line.toList) :
    (ofLines lines).lines = lines := by
  have pieces : ∀ piece ∈ lines.map String.toList, Text.IsLine piece := by
    intro piece member
    obtain ⟨line, inLines, rfl⟩ := List.mem_map.mp member
    exact each line inLines
  unfold Buffer.lines ofLines
  rw [String.toList_join, List.flatMap_def, Text.pieces_flatten pieces, List.map_map]
  simp

/-- A terminated buffer has as many lines as its text has newlines. -/
theorem Terminated.count_eq {buffer : Buffer} (terminated : buffer.Terminated) :
    buffer.count = buffer.text.toList.count '\n' := by
  have each : ∀ piece ∈ Text.pieces buffer.text.toList, Text.IsLine piece := by
    intro piece member
    have isLine := terminated.isLine_of_mem_lines (List.mem_map_of_mem member)
    rwa [String.toList_ofList] at isLine
  conv_rhs => rw [← Text.flatten_pieces buffer.text.toList]
  rw [Text.count_newline_flatten each]
  exact List.length_map ..

/-! ## What is done to a buffer -/

/-- What can be done to a buffer. -/
inductive Operation where
  | push (line : String)
  | replace (text : String)
  | amend (range : LineRange) (base : IndexBase) (replacement : String)
  | clear
  | take

/-- The buffer after an operation; one that cannot be amended stays as it is. -/
def apply (buffer : Buffer) : Operation → Buffer
  | .push line => buffer.push line
  | .replace text => ofText text
  | .amend range base replacement =>
      match buffer.amend range base replacement with
      | .ok (_, amended) => amended
      | .error _ => buffer
  | .clear => empty
  | .take => empty

/-- Operations on an empty buffer lead there. -/
def Reached (buffer : Buffer) : Prop := ∃ operations, List.foldl apply empty operations = buffer

theorem Terminated.apply {buffer : Buffer} (terminated : buffer.Terminated)
    (operation : Operation) : (buffer.apply operation).Terminated := by
  cases operation with
  | push line => exact terminated_push buffer line
  | replace text => exact terminated_ofText text
  | amend range base replacement =>
      unfold Buffer.apply
      dsimp only
      split
      next done => exact terminated.amend done
      next => exact terminated
  | clear => exact terminated_empty
  | take => exact terminated_empty

theorem Reached.terminated {buffer : Buffer} (reached : buffer.Reached) : buffer.Terminated := by
  obtain ⟨operations, rfl⟩ := reached
  exact List.foldlRecOn operations apply terminated_empty
    fun _ terminated operation _ => terminated.apply operation

/-! ## The splice -/

/-- The line that is put in when a buffer is amended. -/
def newLine? (replacement : String) : Option String :=
  if replacement = deletion then none else some (replacement ++ "\n")

theorem ne_empty_iff {buffer : Buffer} : buffer ≠ empty ↔ buffer.isEmpty = false := by
  rw [isEmpty, ← Bool.not_eq_true, String.isEmpty_iff]
  cases buffer
  simp [empty]

/-- The lines of a terminated buffer that is amended are spliced. -/
theorem Terminated.lines_amend {buffer : Buffer} (terminated : buffer.Terminated)
    (waiting : buffer ≠ empty) {range : LineRange} {base : IndexBase} {span : Span}
    (resolved : range.resolve buffer.count base = some span) {replacement : String}
    (whole : '\n' ∉ replacement.toList) :
    ∃ amended, buffer.amend range base replacement =
        .ok (if replacement = deletion then .deleted else .replaced, amended) ∧
      amended.lines = span.splice (newLine? replacement) buffer.lines := by
  obtain ⟨nonempty, within⟩ := LineRange.resolve_spec resolved
  have kept : ∀ line ∈ buffer.lines.take span.first ++ buffer.lines.drop span.last,
      Text.IsLine line.toList := by
    intro line member
    rcases List.mem_append.mp member with before | after
    · exact terminated.isLine_of_mem_lines (List.mem_of_mem_take before)
    · exact terminated.isLine_of_mem_lines (List.mem_of_mem_drop after)
  unfold count at resolved within
  unfold Buffer.amend newLine?
  simp only [ne_empty_iff.mp waiting, Bool.false_eq_true, if_false, resolved]
  split
  next => exact ⟨_, rfl, lines_ofLines kept⟩
  next =>
    refine ⟨_, rfl, ?_⟩
    rw [Span.splice_some (by omega), lines_ofLines]
    intro line member
    rcases List.mem_append.mp member with before | after
    · exact kept line (List.mem_append_left _ before)
    · rcases List.mem_cons.mp after with rfl | after
      · exact ⟨replacement.toList, whole, String.toList_append ..⟩
      · exact kept line (List.mem_append_right _ after)

/-- Amending is the list splice.  Whatever has been done to a buffer before, there is nothing to
amend in an empty one; a range that does not select lines is reported with the number of lines, and
the buffer stays as it is; otherwise the lines of the span are gone and, unless they are deleted,
the new line is in their place.  Afterwards the text ends its lines, of which there are as many as
it has newlines. -/
theorem amend_is_splice {buffer : Buffer} (reached : buffer.Reached) (range : LineRange)
    (base : IndexBase) {replacement : String} (whole : '\n' ∉ replacement.toList) :
    let after := buffer.apply (.amend range base replacement)
    (buffer = empty → buffer.amend range base replacement = .ok (.nothing, buffer) ∧
      after = buffer) ∧
    (buffer ≠ empty → range.resolve buffer.count base = none →
      buffer.amend range base replacement = .error ⟨range, buffer.count⟩ ∧ after = buffer) ∧
    (buffer ≠ empty → ∀ span, range.resolve buffer.count base = some span →
      buffer.amend range base replacement =
          .ok (if replacement = deletion then .deleted else .replaced, after) ∧
        after.lines = span.splice (newLine? replacement) buffer.lines) ∧
    after.Terminated ∧ after.count = after.lines.length ∧
      after.count = after.text.toList.count '\n' := by
  have terminated := reached.terminated.apply (.amend range base replacement)
  refine ⟨?_, ?_, ?_, terminated, rfl, terminated.count_eq⟩
  · rintro rfl
    exact ⟨rfl, rfl⟩
  · intro waiting unresolved
    have failed : buffer.amend range base replacement = .error ⟨range, buffer.count⟩ := by
      unfold count at unresolved
      unfold Buffer.amend
      simp only [ne_empty_iff.mp waiting, Bool.false_eq_true, if_false, unresolved]
      rfl
    refine ⟨failed, ?_⟩
    rw [Buffer.apply, failed]
  · intro waiting span resolved
    obtain ⟨amended, done, lines⟩ := reached.terminated.lines_amend waiting resolved whole
    have after : buffer.apply (.amend range base replacement) = amended := by
      rw [Buffer.apply, done]
    rw [after]
    exact ⟨done, lines⟩

/-- Of a text that comes back without its final newline, the last line is amended. -/
theorem amend_is_splice_last_line :
    ((ofText "(1 +\n\n2").amend .last .one "3)").toOption.map (·.2.lines) =
      some ["(1 +\n", "\n", "3)\n"] := by
  have reached : (ofText "(1 +\n\n2").Reached := ⟨[.push "oops", .replace "(1 +\n\n2"], rfl⟩
  have whole : '\n' ∉ "3)".toList := by decide
  obtain ⟨_, _, splices, _⟩ := amend_is_splice reached .last .one whole
  obtain ⟨done, lines⟩ := splices (by decide) ⟨2, 3⟩ (by decide)
  rw [done, Except.toOption, Option.map_some, lines]
  decide

end Buffer

end Console
