import Console.Calculator.Arithmetic
import Console.Range

/-!
# Line ranges over unbounded integers

What a range selects is said here over unbounded integers, where no sum is ever cut.  The words that
positions are computed with select the same lines of every text that has fewer lines than the
largest word, as a sum is cut only where it is beyond the text anyway.  No plain step of the
computation overflows, however long the text is: with every plain step checked, the same spans
come out.
-/

namespace Console

theorem toInt_wordLength (length : Nat) :
    (wordLength length).toInt = min length Text.largestInteger := by
  unfold wordLength
  rw [Int64.toInt_ofNat_of_lt (Nat.lt_of_le_of_lt (Nat.min_le_right ..) (by decide))]

namespace LineRange

/-! ## The meaning of a range -/

/-- The position, counted from zero, of the line with a number. -/
def exactPosition (index : Int) (length : Nat) (base : IndexBase) : Int :=
  if index < 0 then length + index else index - base.first

/-- The position after the last selected line. -/
def exactStop (range : LineRange) (length : Nat) (base : IndexBase) : Int :=
  match range.stop with
  | none => exactPosition range.start.toInt length base + 1
  | some stop =>
      if range.exclusive then exactPosition stop.toInt length base
      else exactPosition stop.toInt length base + 1

/-- A span holds the lines of a text from the start of a range to a stop, of which there is one. -/
structure Selects (range : LineRange) (length : Nat) (base : IndexBase) (stop : Int)
    (span : Span) : Prop where
  notNegative : 0 ≤ exactPosition range.start.toInt length base
  isLine : exactPosition range.start.toInt length base < length
  nonempty : exactPosition range.start.toInt length base < stop
  within : stop ≤ length
  first : span.first = exactPosition range.start.toInt length base
  last : span.last = stop

/-! ## Steps that are checked -/

/-- The position of the line with a number, if that is computed without an overflow. -/
def checkedPosition? (index : Int64) (length : Nat) (base : IndexBase) : Option Int64 :=
  if index < 0 then some (saturatingAdd (wordLength length) index)
  else do word? (index.toInt - (← word? base.first).toInt)

/-- The position after the last selected line, if that is computed without an overflow. -/
def checkedStop? (range : LineRange) (start : Int64) (length : Nat) (base : IndexBase) :
    Option Int64 :=
  match range.stop with
  | none => word? (start.toInt + 1)
  | some stop => do
      let found ← checkedPosition? stop length base
      some (if range.exclusive then found else saturatingAdd found 1)

/-- The positions a range stands for, if they are computed without an overflow. -/
def checkedBounds? (range : LineRange) (length : Nat) (base : IndexBase) :
    Option (Option (Int64 × Int64)) := do
  let start ← checkedPosition? range.start length base
  if start < 0 || wordLength length ≤ start then some none
  else some (some (start, ← range.checkedStop? start length base))

/-- The span between two positions, if neither is negative. -/
def checkedSpan? (start stop : Int64) : Option Span := do
  some ⟨← start.toInt.toNat?, ← stop.toInt.toNat?⟩

/-- The lines a range selects of a text, if they are found without an overflow. -/
def checkedResolve? (range : LineRange) (length : Nat) (base : IndexBase) :
    Option (Option Span) := do
  match ← range.checkedBounds? length base with
  | none => some none
  | some (start, stop) =>
      if stop ≤ start || wordLength length < stop then some none
      else some (some (← checkedSpan? start stop))

/-- The lines a range selects of a text, its end cut to the last line, if they are found without an
overflow. -/
def checkedClamp? (range : LineRange) (length : Nat) (base : IndexBase) :
    Option (Option Span) := do
  match ← range.checkedBounds? length base with
  | none => some none
  | some (start, stop) =>
      let stop := if wordLength length < stop then wordLength length else stop
      if stop ≤ start then some none else some (some (← checkedSpan? start stop))

/-! ## Words and integers -/

variable {range : LineRange} {length : Nat} {base : IndexBase} {start stop : Int64}

/-- Going back from a line that is counted from the front passes no end of the words. -/
theorem toInt_sub_first {index : Int64} (counted : ¬index < 0) (base : IndexBase) :
    (index - .ofNat base.first).toInt = index.toInt - base.first := by
  rw [Int64.not_lt, Int64.le_iff_toInt_le, Int64.toInt_zero] at counted
  have large : index.toInt ≤ 9223372036854775807 := Int64.toInt_le index
  have first : (Int64.ofNat base.first).toInt = base.first := by cases base <;> rfl
  have small : base.first ≤ 1 := by cases base <;> decide
  rw [Int64.toInt_sub, first, Int.bmod_eq_of_le]
  · omega
  · omega

/-- Behind a line of the text there is another word. -/
theorem toInt_add_one {start : Int64} (isLine : start < wordLength length) :
    (start + 1).toInt = start.toInt + 1 := by
  have small : -9223372036854775808 ≤ start.toInt := Int64.minValue_le_toInt start
  rw [Int64.lt_iff_toInt_lt, toInt_wordLength, Text.largestInteger] at isLine
  have one : (1 : Int64).toInt = 1 := rfl
  rw [Int64.toInt_add, one, Int.bmod_eq_of_le]
  · omega
  · omega

/-- In a text that has no more lines than the largest word says, positions are exact. -/
theorem toInt_position (short : length ≤ Text.largestInteger) (index : Int64) :
    (position index length base).toInt = exactPosition index.toInt length base := by
  unfold position exactPosition
  have sameSign : index < 0 ↔ index.toInt < 0 := Int64.lt_iff_toInt_lt
  by_cases negative : index < 0
  · rw [if_pos negative, if_pos (sameSign.mp negative), toInt_saturatingAdd, toInt_wordLength,
      Nat.min_eq_left short]
    have small : Int64.minValue.toInt ≤ index.toInt := Int64.minValue_le_toInt index
    have most : Int64.maxValue.toInt = Text.largestInteger := rfl
    have below := sameSign.mp negative
    omega
  · rw [if_neg negative, if_neg (mt sameSign.mpr negative), toInt_sub_first negative]

/-- The position after the last selected line is exact, unless it is cut at the largest word. -/
theorem toInt_stopPosition (short : length ≤ Text.largestInteger)
    (isLine : position range.start length base < wordLength length) :
    (range.stopPosition (position range.start length base) length base).toInt =
      min (Text.largestInteger : Int) (range.exactStop length base) := by
  have most : Int64.maxValue.toInt = Text.largestInteger := rfl
  unfold stopPosition exactStop
  cases range.stop with
  | none =>
      have next := toInt_add_one isLine
      have large := Int64.toInt_le (position range.start length base + 1)
      rw [toInt_position short] at next
      dsimp only
      omega
  | some stop =>
      have found : (position stop length base).toInt = exactPosition stop.toInt length base :=
        toInt_position short stop
      have large := Int64.toInt_le (position stop length base)
      cases range.exclusive with
      | true =>
          simp only [if_true]
          omega
      | false =>
          have small := Int64.minValue_le_toInt (position stop length base)
          have one : (1 : Int64).toInt = 1 := rfl
          simp only [Bool.false_eq_true, if_false, toInt_saturatingAdd, one]
          omega

/-- What the bounds of a range say, whatever the text. -/
theorem bounds_eq_some_iff :
    range.bounds length base = some (start, stop) ↔
      start = position range.start length base ∧ stop = range.stopPosition start length base ∧
        0 ≤ start.toInt ∧ start < wordLength length := by
  unfold bounds
  simp only [Bool.or_eq_true, decide_eq_true_eq, Int64.lt_iff_toInt_lt (y := 0), Int64.toInt_zero]
  split
  next outside =>
    constructor
    · intro none
      cases none
    · rintro ⟨rfl, _, notNegative, isLine⟩
      rw [← Int64.not_le] at isLine
      rcases outside with negative | beyond
      · omega
      · exact absurd beyond isLine
  next inside =>
    rw [not_or, Int64.not_le] at inside
    simp only [Option.some.injEq, Prod.mk.injEq]
    constructor
    · rintro ⟨rfl, rfl⟩
      exact ⟨rfl, rfl, by omega, inside.2⟩
    · rintro ⟨rfl, rfl, _⟩
      exact ⟨rfl, rfl⟩

/-- The start of the bounds is exact, and the stop unless it is cut at the largest word. -/
theorem toInt_bounds (short : length ≤ Text.largestInteger)
    (found : range.bounds length base = some (start, stop)) :
    start.toInt = exactPosition range.start.toInt length base ∧
      stop.toInt = min (Text.largestInteger : Int) (range.exactStop length base) ∧
      0 ≤ start.toInt ∧ start.toInt < length := by
  obtain ⟨rfl, rfl, notNegative, isLine⟩ := bounds_eq_some_iff.mp found
  have below := Int64.lt_iff_toInt_lt.mp isLine
  rw [toInt_wordLength, Nat.min_eq_left short] at below
  exact ⟨toInt_position short _, toInt_stopPosition short isLine, notNegative, below⟩

/-- A range has bounds if it starts at a line of the text. -/
theorem bounds_eq_none_iff (short : length ≤ Text.largestInteger) :
    range.bounds length base = none ↔
      ¬(0 ≤ exactPosition range.start.toInt length base ∧
        exactPosition range.start.toInt length base < length) := by
  constructor
  · intro none ⟨notNegative, isLine⟩
    rw [← toInt_position short] at notNegative isLine
    have below : position range.start length base < wordLength length := by
      rwa [Int64.lt_iff_toInt_lt, toInt_wordLength, Nat.min_eq_left short]
    have some := bounds_eq_some_iff.mpr ⟨rfl, rfl, notNegative, below⟩
    rw [none] at some
    cases some
  · intro outside
    cases found : range.bounds length base with
    | none => rfl
    | some limits =>
        obtain ⟨exact, _, notNegative, isLine⟩ := toInt_bounds short found
        rw [exact] at notNegative isLine
        exact absurd ⟨notNegative, isLine⟩ outside

/-- The span of two words is the one that a range selects if the words say so. -/
theorem selects_iff {last : Int64} {exactLast : Int} {span : Span}
    (exact : start.toInt = exactPosition range.start.toInt length base)
    (exactToo : last.toInt = exactLast) (notNegative : 0 ≤ start.toInt)
    (isLine : start.toInt < length) :
    range.Selects length base exactLast span ↔
      start < last ∧ exactLast ≤ length ∧ ⟨start.toInt.toNat, last.toInt.toNat⟩ = span := by
  rw [Int64.lt_iff_toInt_lt]
  constructor
  · rintro ⟨_, _, nonempty, within, sameFirst, sameLast⟩
    refine ⟨by omega, within, ?_⟩
    rw [Span.mk.injEq]
    omega
  · rintro ⟨nonempty, within, rfl⟩
    have first : (start.toInt.toNat : Int) = start.toInt := Int.toNat_of_nonneg notNegative
    have behind : (last.toInt.toNat : Int) = last.toInt := Int.toNat_of_nonneg (by omega)
    exact ⟨by omega, by omega, by omega, within, first.trans exact, behind.trans exactToo⟩

/-- All the lines that a range says have to be there. -/
theorem resolve_eq_some_iff (short : length < Text.largestInteger) {span : Span} :
    range.resolve length base = some span ↔
      range.Selects length base (range.exactStop length base) span := by
  have notLonger := Nat.le_of_lt short
  unfold resolve
  cases found : range.bounds length base with
  | none =>
      refine iff_of_false nofun fun selects => ?_
      exact (bounds_eq_none_iff notLonger).mp found ⟨selects.notNegative, selects.isLine⟩
  | some limits =>
      obtain ⟨start, stop⟩ := limits
      obtain ⟨exact, exactStop, notNegative, isLine⟩ := toInt_bounds notLonger found
      have beyond : wordLength length < stop ↔ (length : Int) < range.exactStop length base := by
        rw [Int64.lt_iff_toInt_lt, toInt_wordLength, Nat.min_eq_left notLonger, exactStop]
        omega
      dsimp only
      by_cases fits : range.exactStop length base ≤ length
      · rw [selects_iff exact (exactStop.trans (by omega)) notNegative isLine]
        simp [beyond, fits, Int.not_lt.mpr fits, Int64.not_le]
      · have cut : wordLength length < stop := beyond.mpr (by omega)
        simp only [cut, decide_true, Bool.or_true, if_true]
        exact iff_of_false nofun fun selects => fits selects.within

/-- The lines that a range says and that are there. -/
theorem clamp_eq_some_iff_of_le (notLonger : length ≤ Text.largestInteger) {span : Span} :
    range.clamp length base = some span ↔
      range.Selects length base (min (range.exactStop length base) length) span := by
  unfold clamp
  cases found : range.bounds length base with
  | none =>
      refine iff_of_false nofun fun selects => ?_
      exact (bounds_eq_none_iff notLonger).mp found ⟨selects.notNegative, selects.isLine⟩
  | some limits =>
      obtain ⟨start, stop⟩ := limits
      obtain ⟨exact, exactStop, notNegative, isLine⟩ := toInt_bounds notLonger found
      have cut : (if wordLength length < stop then wordLength length else stop).toInt =
          min (range.exactStop length base) length := by
        have whole := toInt_wordLength length
        split
        next beyond =>
          rw [Int64.lt_iff_toInt_lt] at beyond
          omega
        next within =>
          rw [Int64.not_lt, Int64.le_iff_toInt_le] at within
          omega
      dsimp only
      rw [selects_iff exact cut notNegative isLine]
      generalize (if wordLength length < stop then wordLength length else stop) = last
      by_cases nonempty : start < last
      · rw [if_neg (Int64.not_le.mpr nonempty), Option.some.injEq]
        exact ⟨fun same => ⟨nonempty, Int.min_le_right .., same⟩, fun ⟨_, _, same⟩ => same⟩
      · rw [if_pos (Int64.not_lt.mp nonempty)]
        exact iff_of_false nofun fun ⟨later, _⟩ => nonempty later

theorem clamp_eq_some_iff (short : length < Text.largestInteger) {span : Span} :
    range.clamp length base = some span ↔
      range.Selects length base (min (range.exactStop length base) length) span :=
  clamp_eq_some_iff_of_le (Nat.le_of_lt short)

/-- Lines that no word counts are never clamped to. -/
theorem clamp_min (range : LineRange) (length : Nat) (base : IndexBase) :
    range.clamp (min length Text.largestInteger) base = range.clamp length base := by
  have same : wordLength (min length Text.largestInteger) = wordLength length := by
    rw [wordLength, Nat.min_assoc, Nat.min_self, wordLength]
  have positions (index : Int64) : position index (min length Text.largestInteger) base =
      position index length base := by rw [position, same, position]
  have stops (start : Int64) : range.stopPosition start (min length Text.largestInteger) base =
      range.stopPosition start length base := by
    unfold stopPosition
    simp only [positions]
  simp only [clamp, bounds, positions, stops, same]

/-- A line that is there can be clamped to by its number. -/
theorem clamp_single {index : Int64} {place : Nat} (same : index.toInt = place + base.first)
    (isLine : place < min length Text.largestInteger) :
    (single index).clamp length base = some ⟨place, place + 1⟩ := by
  have notNegative : ¬index < 0 := by
    rw [Int64.lt_iff_toInt_lt, same, Int64.toInt_zero]
    omega
  have exact : (position index length base).toInt = place := by
    rw [position, if_neg notNegative, toInt_sub_first notNegative, same]
    omega
  have below : position index length base < wordLength length := by
    rw [Int64.lt_iff_toInt_lt, toInt_wordLength, exact]
    exact Int.ofNat_lt.mpr isLine
  have found : (single index).bounds length base =
      some (position index length base, position index length base + 1) :=
    bounds_eq_some_iff.mpr ⟨rfl, rfl, by omega, below⟩
  have next := toInt_add_one below
  have uncut : ¬wordLength length < position index length base + 1 := by
    rw [Int64.lt_iff_toInt_lt, toInt_wordLength, next, exact]
    omega
  have nonempty : ¬position index length base + 1 ≤ position index length base := by
    rw [Int64.le_iff_toInt_le, next]
    omega
  unfold clamp
  rw [found]
  dsimp only
  rw [if_neg uncut, if_neg nonempty, next, exact]
  rfl

/-! ## Spans lie in their text -/

theorem within_of_bounds {last : Int64} (found : range.bounds length base = some (start, stop))
    (nonempty : start < last) (within : last ≤ wordLength length) :
    start.toInt.toNat < last.toInt.toNat ∧ last.toInt.toNat ≤ length := by
  obtain ⟨_, _, notNegative, _⟩ := bounds_eq_some_iff.mp found
  rw [Int64.lt_iff_toInt_lt] at nonempty
  rw [Int64.le_iff_toInt_le, toInt_wordLength] at within
  omega

/-- A range selects at least one line of a text, and only lines of the text. -/
theorem resolve_spec {span : Span} (found : range.resolve length base = some span) :
    span.first < span.last ∧ span.last ≤ length := by
  unfold resolve at found
  cases bounds : range.bounds length base with
  | none =>
      rw [bounds] at found
      cases found
  | some limits =>
      rw [bounds] at found
      dsimp only at found
      split at found
      · cases found
      next inside =>
        cases found
        simp only [Bool.or_eq_true, decide_eq_true_eq, not_or, Int64.not_le, Int64.not_lt] at inside
        exact within_of_bounds bounds inside.1 inside.2

/-- A range that is cut to a text selects at least one line, and only lines of the text. -/
theorem clamp_spec {span : Span} (found : range.clamp length base = some span) :
    span.first < span.last ∧ span.last ≤ length := by
  unfold clamp at found
  cases bounds : range.bounds length base with
  | none =>
      rw [bounds] at found
      cases found
  | some limits =>
      obtain ⟨start, stop⟩ := limits
      rw [bounds] at found
      dsimp only at found
      have cut : (if wordLength length < stop then wordLength length else stop) ≤
          wordLength length := by
        split
        next => exact Int64.le_refl _
        next short => exact Int64.not_lt.mp short
      generalize (if wordLength length < stop then wordLength length else stop) = last
        at found cut
      split at found
      · cases found
      next nonempty =>
        cases found
        exact within_of_bounds bounds (Int64.not_le.mp nonempty) cut

/-! ## No step overflows -/

theorem checkedPosition?_eq (index : Int64) :
    checkedPosition? index length base = some (position index length base) := by
  unfold checkedPosition? position
  split
  · rfl
  next counted =>
    have first : word? base.first = some (.ofNat base.first) := by cases base <;> rfl
    have firstInt : (Int64.ofNat base.first).toInt = base.first := by cases base <;> rfl
    rw [first]
    change word? (index.toInt - (Int64.ofNat base.first).toInt) = _
    rw [firstInt, ← toInt_sub_first counted, word?_toInt]

theorem checkedStop?_eq (isLine : start < wordLength length) :
    range.checkedStop? start length base = some (range.stopPosition start length base) := by
  unfold checkedStop? stopPosition
  cases range.stop with
  | none =>
      dsimp only
      rw [← toInt_add_one isLine, word?_toInt]
  | some stop =>
      dsimp only
      rw [checkedPosition?_eq]
      rfl

theorem checkedBounds?_eq :
    range.checkedBounds? length base = some (range.bounds length base) := by
  unfold checkedBounds? bounds
  rw [checkedPosition?_eq]
  simp only [Option.bind_eq_bind, Option.bind_some]
  split
  · rfl
  next inside =>
    simp only [Bool.or_eq_true, decide_eq_true_eq, not_or, Int64.not_le] at inside
    rw [checkedStop?_eq inside.2]
    rfl

theorem checkedSpan?_eq (notNegative : 0 ≤ start.toInt) (ordered : start < stop) :
    checkedSpan? start stop = some ⟨start.toInt.toNat, stop.toInt.toNat⟩ := by
  have later := Int64.lt_iff_toInt_lt.mp ordered
  unfold checkedSpan?
  rw [Int.mem_toNat?.mpr (Int.toNat_of_nonneg notNegative).symm,
    Int.mem_toNat?.mpr (Int.toNat_of_nonneg (by omega : 0 ≤ stop.toInt)).symm]
  rfl

theorem checkedResolve?_eq :
    range.checkedResolve? length base = some (range.resolve length base) := by
  unfold checkedResolve? resolve
  rw [checkedBounds?_eq]
  simp only [Option.bind_eq_bind, Option.bind_some]
  cases found : range.bounds length base with
  | none => rfl
  | some limits =>
      dsimp only
      split
      · rfl
      next inside =>
        obtain ⟨_, _, notNegative, _⟩ := bounds_eq_some_iff.mp found
        simp only [Bool.or_eq_true, decide_eq_true_eq, not_or, Int64.not_le] at inside
        rw [checkedSpan?_eq notNegative inside.1]
        rfl

theorem checkedClamp?_eq :
    range.checkedClamp? length base = some (range.clamp length base) := by
  unfold checkedClamp? clamp
  rw [checkedBounds?_eq]
  simp only [Option.bind_eq_bind, Option.bind_some]
  cases found : range.bounds length base with
  | none => rfl
  | some limits =>
      dsimp only
      generalize (if wordLength length < limits.2 then wordLength length else limits.2) = last
      split
      · rfl
      next nonempty =>
        obtain ⟨_, _, notNegative, _⟩ := bounds_eq_some_iff.mp found
        rw [checkedSpan?_eq notNegative (Int64.not_le.mp nonempty)]
        rfl

/-! ## What ranges mean -/

/-- Line ranges mean what unbounded integers say.  In every text with fewer lines than the largest
word, a range is resolved to the lines from its start to its stop if all of them are there, and
clamped to those of them that are there; for texts of any length no step of the computation
overflows, and a span lies in its text and is not empty. -/
theorem ranges_mean_integers (range : LineRange) (length : Nat) (base : IndexBase) :
    (length < Text.largestInteger → ∀ span,
      (range.resolve length base = some span ↔
        range.Selects length base (range.exactStop length base) span) ∧
      (range.clamp length base = some span ↔
        range.Selects length base (min (range.exactStop length base) length) span)) ∧
    range.checkedResolve? length base = some (range.resolve length base) ∧
    range.checkedClamp? length base = some (range.clamp length base) ∧
    ∀ span, range.resolve length base = some span ∨ range.clamp length base = some span →
      span.first < span.last ∧ span.last ≤ length := by
  refine ⟨?_, checkedResolve?_eq, checkedClamp?_eq, ?_⟩
  · intro short span
    exact ⟨resolve_eq_some_iff short, clamp_eq_some_iff short⟩
  · rintro span (resolved | clamped)
    · exact resolve_spec resolved
    · exact clamp_spec clamped

/-- From the last but two of five lines through the one that the largest word counts, which is cut
before it is compared. -/
theorem ranges_mean_integers_at_largest_word :
    (inclusive (-3) Int64.maxValue).clamp 5 .zero = some ⟨2, 5⟩ ∧
      (inclusive (-3) Int64.maxValue).resolve 5 .zero = none ∧
      (2 < 5 ∧ 5 ≤ 5) := by
  obtain ⟨exact, _, _, within⟩ := ranges_mean_integers (inclusive (-3) Int64.maxValue) 5 .zero
  have clamped : (inclusive (-3) Int64.maxValue).clamp 5 .zero = some ⟨2, 5⟩ :=
    (exact (by decide) ⟨2, 5⟩).2.mpr (by constructor <;> decide)
  refine ⟨clamped, ?_, within _ (.inr clamped)⟩
  rw [Option.eq_none_iff_forall_ne_some]
  intro span resolved
  have selects := (exact (by decide) span).1.mp resolved
  exact absurd selects.within (by decide)

end LineRange

end Console
