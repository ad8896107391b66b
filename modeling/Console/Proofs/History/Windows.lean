import Console.History
import Console.Proofs.Range
import Mathlib.Data.List.DropRight

/-!
# Windows on a history

However a window is cut from another one, its lines keep the numbers that they have in the whole
history, and so do the lines that are left when some of them are passed over.
-/

namespace Console

namespace HistorySlice

variable {slice middle whole : HistorySlice} {number : Nat} {line : String}

/-- An entry of a slice is a line with its number. -/
theorem mem_entries_iff : (number, line) ∈ slice.entries ↔
    slice.start ≤ number ∧ slice.lines[number - slice.start]? = some line := by
  unfold entries
  rw [← List.mk_mem_zipIdx_iff_le_and_getElem?_sub, List.mem_map]
  constructor
  · rintro ⟨⟨line, number⟩, member, same⟩
    cases same
    exact member
  · intro member
    exact ⟨(line, number), member, rfl⟩

theorem getElem?_entries (slice : HistorySlice) (place : Nat) :
    slice.entries[place]? = slice.lines[place]?.map fun line => (slice.start + place, line) := by
  simp [entries, Function.comp_def]

@[simp] theorem length_entries (slice : HistorySlice) :
    slice.entries.length = slice.lines.length := by
  simp [entries]

theorem entries_take (slice : HistorySlice) (count : Nat) :
    entries ⟨slice.start, slice.lines.take count⟩ = slice.entries.take count := by
  ext1 place
  simp only [getElem?_entries, List.getElem?_take]
  split <;> rfl

theorem entries_drop (slice : HistorySlice) (count : Nat) :
    entries ⟨slice.start + count, slice.lines.drop count⟩ = slice.entries.drop count := by
  ext1 place
  simp only [getElem?_entries, List.getElem?_drop, Nat.add_assoc]

/-- The numbers of a slice follow one another from its start on. -/
theorem map_fst_entries (slice : HistorySlice) :
    slice.entries.map Prod.fst = List.range' slice.start slice.lines.length := by
  simp only [entries, List.map_map, Function.comp_def]
  exact List.zipIdx_map_snd ..

/-- A slice is cut out of another one, and its lines have the same numbers there. -/
def Within (slice whole : HistorySlice) : Prop :=
  ∃ before after, whole.lines = before ++ slice.lines ++ after ∧
    slice.start = whole.start + before.length

namespace Within

theorem refl (slice : HistorySlice) : slice.Within slice := ⟨[], [], by simp, rfl⟩

theorem trans (inner : slice.Within middle) (outer : middle.Within whole) :
    slice.Within whole := by
  obtain ⟨before, after, lines, start⟩ := inner
  obtain ⟨outerBefore, outerAfter, outerLines, outerStart⟩ := outer
  refine ⟨outerBefore ++ before, after ++ outerAfter, ?_, ?_⟩
  · rw [outerLines, lines]
    simp only [List.append_assoc]
  · rw [start, outerStart, List.length_append, Nat.add_assoc]

theorem head (slice : HistorySlice) (count : Nat) : (slice.head count).Within slice :=
  ⟨[], slice.lines.drop count, (List.take_append_drop ..).symm, rfl⟩

theorem tail (slice : HistorySlice) (count : Nat) : (slice.tail count).Within slice := by
  let skipped := slice.lines.length - count
  refine ⟨slice.lines.take skipped, [], ?_, ?_⟩
  · rw [List.append_nil]
    exact (List.take_append_drop ..).symm
  · change slice.start + skipped = _
    rw [List.length_take, Nat.min_eq_left (Nat.sub_le ..)]

theorem select {range : LineRange} (found : whole.select? range = some slice) :
    slice.Within whole := by
  obtain ⟨span, cut, rfl⟩ := Option.map_eq_some_iff.mp found
  obtain ⟨nonempty, within⟩ := LineRange.clamp_spec cut
  refine ⟨whole.lines.take span.first, whole.lines.drop span.last, ?_, ?_⟩
  · have behind : (whole.lines.drop span.first).drop span.length = whole.lines.drop span.last := by
      rw [List.drop_drop, Span.length]
      congr 1
      omega
    rw [Span.of, ← behind, List.append_assoc, List.take_append_drop, List.take_append_drop]
  · rw [List.length_take, Nat.min_eq_left (by omega)]

theorem upTo (history : History) (stop : Nat) : (history.upTo stop).Within history.all := by
  refine ⟨[], history.entries.drop stop, ?_, rfl⟩
  rw [History.all, History.upTo, History.upTo, History.size, List.take_length, List.nil_append,
    List.take_append_drop]

/-- An entry of a window is an entry of the whole. -/
theorem mem_entries (within : slice.Within whole) (member : (number, line) ∈ slice.entries) :
    (number, line) ∈ whole.entries := by
  obtain ⟨before, after, lines, start⟩ := within
  obtain ⟨above, found⟩ := mem_entries_iff.mp member
  have inside := (List.getElem?_eq_some_iff.mp found).1
  refine mem_entries_iff.mpr ⟨by omega, ?_⟩
  have place : number - whole.start = before.length + (number - slice.start) := by omega
  rw [lines, place, List.append_assoc, List.getElem?_append_right (Nat.le_add_right ..),
    Nat.add_sub_cancel_left, List.getElem?_append_left inside, found]

end Within

/-- A line that a test holds for keeps its number. -/
theorem mem_entries_of_mem_grep {test : String → Bool} (member : (number, line) ∈ slice.grep test) :
    (number, line) ∈ slice.entries := (List.mem_filter.mp member).1

/-- The line with a number can be selected by it. -/
theorem select?_single {index : Int64} (found : whole.lines[number]? = some line)
    (same : index.toInt = number) (small : number < Text.largestInteger) :
    whole.select? (.single index) = some ⟨whole.start + number, [line]⟩ := by
  obtain ⟨within, isLine⟩ := List.getElem?_eq_some_iff.mp found
  have isLineNumber : number < min whole.lines.length Text.largestInteger := by omega
  have clamped : (LineRange.single index).clamp whole.lines.length .zero =
      some ⟨number, number + 1⟩ :=
    LineRange.clamp_single (same.trans (Int.add_zero _).symm) isLineNumber
  have cut : (Span.mk number (number + 1)).of whole.lines = [line] := by
    rw [Span.of, Span.length, Nat.add_sub_cancel_left, List.drop_eq_getElem_cons within, isLine]
    rfl
  rw [select?, clamped, Option.map_some, cut]

@[simp] theorem joined_singleton (start : Nat) (line : String) :
    (⟨start, [line]⟩ : HistorySlice).joined = line ++ "\n" := by simp [joined, joinWith]

end HistorySlice

/-- A cut of a window on a history. -/
inductive HistoryCut where
  | head (count : Nat)
  | tail (count : Nat)
  | select (range : LineRange)
  deriving DecidableEq, Repr

namespace HistoryCut

/-- What it leaves of a slice; `none` if its range selects no line. -/
def slice? (slice : HistorySlice) : HistoryCut → Option HistorySlice
  | head count => some (slice.head count)
  | tail count => some (slice.tail count)
  | select range => slice.select? range

/-- What it leaves of a list.  A range counts the members from zero, in unbounded integers, as far
as the largest word counts. -/
def of? {α : Type} (items : List α) : HistoryCut → Option (List α)
  | head count => some (items.take count)
  | tail count => some (items.rtake count)
  | select range =>
      let length := min items.length Text.largestInteger
      let start := LineRange.exactPosition range.start.toInt length .zero
      let stop := min (range.exactStop length .zero) length
      if 0 ≤ start ∧ start < stop then some ((items.take stop.toNat).drop start.toNat) else none

theorem of?_select {α : Type} (range : LineRange) (items : List α) :
    (select range).of? items = (range.clamp items.length .zero).map (·.of items) := by
  rw [← LineRange.clamp_min, of?]
  have notLonger := Nat.min_le_right items.length Text.largestInteger
  generalize min items.length Text.largestInteger = length at notLonger ⊢
  have clamps (span : Span) : range.clamp length .zero = some span ↔
      range.Selects length .zero (min (range.exactStop length .zero) length) span :=
    LineRange.clamp_eq_some_iff_of_le notLonger
  generalize LineRange.exactStop range length .zero = stop at clamps ⊢
  split
  next some =>
    obtain ⟨notNegative, nonempty⟩ := some
    let start := LineRange.exactPosition range.start.toInt length .zero
    have clamped := (clamps ⟨start.toNat, (min stop length).toNat⟩).mpr
      { notNegative
        isLine := by omega
        nonempty
        within := Int.min_le_right ..
        first := Int.toNat_of_nonneg notNegative
        last := Int.toNat_of_nonneg (by omega) }
    rw [clamped, Option.map_some, Span.of, Span.length, List.drop_take]
  next none =>
    cases found : range.clamp length .zero with
    | none => rfl
    | some span =>
        have selects := (clamps span).mp found
        exact absurd ⟨selects.notNegative, selects.nonempty⟩ none

/-- A cut of a slice is the same cut of its lines with their numbers. -/
theorem map_entries_slice? (cut : HistoryCut) (slice : HistorySlice) :
    (cut.slice? slice).map HistorySlice.entries = cut.of? slice.entries := by
  cases cut with
  | head count => exact congrArg some (slice.entries_take count)
  | tail count =>
      rw [of?, List.rtake, slice.length_entries, ← slice.entries_drop]
      rfl
  | select range =>
      rw [of?_select, slice.length_entries]
      unfold slice? HistorySlice.select?
      rw [Option.map_map]
      congr 1
      funext span
      rw [Span.of, ← slice.entries_drop, ← HistorySlice.entries_take]
      rfl

/-- Cuts one after another. -/
theorem map_entries_foldlM (cuts : List HistoryCut) (slice : HistorySlice) :
    (cuts.foldlM slice? slice).map HistorySlice.entries = cuts.foldlM of? slice.entries := by
  induction cuts generalizing slice with
  | nil => rfl
  | cons cut cuts ih =>
      rw [List.foldlM_cons, List.foldlM_cons, ← map_entries_slice?]
      cases cut.slice? slice with
      | none => rfl
      | some left => exact ih left

theorem within_of_slice? {cut : HistoryCut} {slice left : HistorySlice}
    (done : cut.slice? slice = some left) : left.Within slice := by
  cases cut with
  | head count => exact Option.some.inj done ▸ .head slice count
  | tail count => exact Option.some.inj done ▸ .tail slice count
  | select range => exact .select done

theorem within_of_foldlM {cuts : List HistoryCut} {slice left : HistorySlice}
    (done : cuts.foldlM slice? slice = some left) : left.Within slice := by
  induction cuts generalizing slice with
  | nil => exact Option.some.inj done ▸ .refl slice
  | cons cut cuts ih =>
      obtain ⟨middle, first, others⟩ := Option.bind_eq_some_iff.mp done
      exact (ih others).trans (within_of_slice? first)

end HistoryCut

namespace History

theorem getElem?_lines_all (history : History) (number : Nat) :
    history.all.lines[number]? = history.get? number := by
  rw [all, upTo, size, List.take_length, get?]

/-- An entry of the whole history is a line with its number. -/
theorem mem_entries_all {history : History} {number : Nat} {line : String} :
    (number, line) ∈ history.all.entries ↔ history.get? number = some line := by
  rw [HistorySlice.mem_entries_iff, ← getElem?_lines_all]
  exact and_iff_right (Nat.zero_le number)

theorem entries_upTo (history : History) (stop : Nat) :
    (history.upTo stop).entries = (history.entries.mapIdx Prod.mk).take stop := by
  ext1 place
  rw [HistorySlice.getElem?_entries, upTo, List.getElem?_take, List.getElem?_take]
  split
  · simp
  · rfl

/-- However windows are cut out of one another, they hold the lines that the same cuts leave of the
list of all lines with their numbers: a window's numbers follow one another from its start on, and
each line has the number under which the history has it.  If some lines are passed over then, just
those are left that the test holds for, in the same order and with the same numbers. -/
theorem windows_keep_numbers (history : History) (stop : Nat) (cuts : List HistoryCut) :
    (cuts.foldlM HistoryCut.slice? (history.upTo stop)).map HistorySlice.entries =
        cuts.foldlM HistoryCut.of? ((history.entries.mapIdx Prod.mk).take stop) ∧
    ∀ window, cuts.foldlM HistoryCut.slice? (history.upTo stop) = some window →
      window.entries.map Prod.fst = List.range' window.start window.lines.length ∧
      (∀ entry ∈ window.entries, history.get? entry.1 = some entry.2) ∧
      ∀ test : String → Bool,
        (window.grep test).Sublist window.entries ∧
        (∀ entry, entry ∈ window.grep test ↔ entry ∈ window.entries ∧ test entry.2 = true) ∧
        ((window.grep test).map Prod.fst).Pairwise (· < ·) := by
  constructor
  · rw [HistoryCut.map_entries_foldlM, entries_upTo]
  · intro window found
    have inAll := (HistoryCut.within_of_foldlM found).trans (HistorySlice.Within.upTo history stop)
    refine ⟨window.map_fst_entries, ?_, ?_⟩
    · intro entry member
      exact mem_entries_all.mp (inAll.mem_entries member)
    · intro test
      have kept : (window.grep test).Sublist window.entries := List.filter_sublist
      have increasing : (window.entries.map Prod.fst).Pairwise (· < ·) := by
        rw [window.map_fst_entries]
        exact List.pairwise_lt_range' 1
      exact ⟨kept, fun _ => List.mem_filter, increasing.sublist (kept.map Prod.fst)⟩

/-- The last four of five lines, of these the last three, and of these the first two. -/
theorem windows_keep_numbers_of_last_lines :
    ∃ window, [.tail 4, .select ⟨-3, some 9, false⟩, .head 2].foldlM HistoryCut.slice?
        (upTo ⟨["a", "b", "c", "d", "e"], 0⟩ 9) = some window ∧
      window.entries.map Prod.fst = [2, 3] ∧
      (∀ entry ∈ window.entries, get? ⟨["a", "b", "c", "d", "e"], 0⟩ entry.1 = some entry.2) ∧
      (3, "d") ∈ window.grep (· == "d") := by
  obtain ⟨_, keeps⟩ := windows_keep_numbers ⟨["a", "b", "c", "d", "e"], 0⟩ 9
    [.tail 4, .select ⟨-3, some 9, false⟩, .head 2]
  obtain ⟨numbers, lines, greps⟩ := keeps ⟨2, ["c", "d"]⟩ (by decide)
  exact ⟨_, by decide, numbers, lines, ((greps (· == "d")).2.1 _).mpr ⟨by decide, rfl⟩⟩

end History

end Console
