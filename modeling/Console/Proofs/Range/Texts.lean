import Console.Command.Basic
import Console.Proofs.Text.Blank
import Console.Proofs.Text.Decimal

/-!
# Texts of line ranges

A range is spelled with one bound, or with two bounds around two or three dots, or with a bound in
front of dots that nothing follows.  A bound is an integer in decimal with blank characters around
it, and no dot stands in one, so the first two dots of a text are those between its bounds.  What is
read as a range is what is spelled like that, and the text that a range is written as is read back.
-/

namespace Console

/-! ## Bounds -/

namespace Text

/-- A text is an integer of 64 bits in decimal, with blank characters around it. -/
def Bounds (text : List Char) (number : Int64) : Prop :=
  ∃ before numeral after, text = before ++ numeral ++ after ∧ allBlank before = true ∧
    allBlank after = true ∧ Denotes numeral number.toInt

variable {text : List Char} {number : Int64} {i : Int}

/-- The characters of an integer are digits and signs. -/
theorem Denotes.of_mem (denotes : Denotes text i) {c : Char} (member : c ∈ text) :
    isDigit c = true ∨ c = '+' ∨ c = '-' := by
  cases denotes with
  | unsigned some allDigits => exact .inl (allDigits c member)
  | plus some allDigits =>
      rcases List.mem_cons.mp member with same | digit
      · exact .inr (.inl same)
      · exact .inl (allDigits c digit)
  | minus some allDigits =>
      rcases List.mem_cons.mp member with same | digit
      · exact .inr (.inr same)
      · exact .inl (allDigits c digit)

theorem Denotes.ne_nil (denotes : Denotes text i) : text ≠ [] := by
  cases denotes with
  | unsigned some => exact some
  | plus => nofun
  | minus => nofun

theorem Denotes.isBlank_of_mem (denotes : Denotes text i) {c : Char} (member : c ∈ text) :
    isBlank c = false := by
  rcases denotes.of_mem member with digit | rfl | rfl
  · exact isBlank_of_isDigit digit
  · decide
  · decide

/-- Nothing is cut off an integer. -/
theorem Denotes.trim_eq (denotes : Denotes text i) : trim text = text :=
  trim_of_visible (fun _ begins => denotes.isBlank_of_mem (List.mem_of_mem_head? begins))
    fun _ ends => denotes.isBlank_of_mem (List.mem_of_getLast? ends)

/-- An integer is a bound. -/
theorem Denotes.bounds (denotes : Denotes text number.toInt) : Bounds text number :=
  ⟨[], text, [], by simp, rfl, rfl, denotes⟩

/-- What is left of a bound between its blank characters is the integer. -/
theorem bounds_iff : Bounds text number ↔ Denotes (trim text) number.toInt := by
  constructor
  · rintro ⟨before, numeral, after, rfl, blankBefore, blankAfter, denotes⟩
    have front : trim (before ++ numeral) = trim numeral := by
      rw [trim, trimStart_append_of_allBlank blankBefore, ← trim]
    rwa [trim_append_of_allBlank _ blankAfter, front, denotes.trim_eq]
  · intro denotes
    obtain ⟨before, blankBefore, begins⟩ := exists_append_trimStart text
    obtain ⟨after, blankAfter, ends⟩ := exists_trimEnd_append (trimStart text)
    refine ⟨before, trim text, after, ?_, blankBefore, blankAfter, denotes⟩
    rw [trim, List.append_assoc, ← ends, ← begins]

/-- No dot stands in a bound. -/
theorem Bounds.dotless (bounds : Bounds text number) : '.' ∉ text := by
  obtain ⟨before, numeral, after, rfl, blankBefore, blankAfter, denotes⟩ := bounds
  intro member
  have visible : isBlank '.' = false := by decide
  rcases List.mem_append.mp member with member | blank
  · rcases List.mem_append.mp member with blank | member
    · rw [allBlank_iff.mp blankBefore _ blank] at visible
      cases visible
    · rcases denotes.of_mem member with digit | same | same
      · cases digit
      · cases same
      · cases same
  · rw [allBlank_iff.mp blankAfter _ blank] at visible
    cases visible

/-- A bound is not blank. -/
theorem Bounds.allBlank_eq (bounds : Bounds text number) : allBlank text = false := by
  rw [← Bool.not_eq_true, ← trim_eq_nil_iff]
  exact (bounds_iff.mp bounds).ne_nil

end Text

namespace LineRange

open Text (Bounds)

theorem readBound?_eq_some_iff {text : List Char} {number : Int64} :
    readBound? text = some number ↔ Bounds text number := by
  rw [Text.bounds_iff, ← Text.readInteger_eq_ok_iff, readBound?]
  cases Text.readInteger (Text.trim text) with
  | ok read => simp [Except.toOption]
  | error error => simp [Except.toOption]

/-! ## Dots -/

variable {text front rest : List Char}

theorem splitDots_of_not_mem (dotless : '.' ∉ text) : splitDots text = none := by
  induction text with
  | nil => rfl
  | cons c rest ih =>
      rw [List.mem_cons, not_or] at dotless
      obtain ⟨other, dotless⟩ := dotless
      unfold splitDots
      split
      next same =>
        cases same
        exact absurd rfl other
      next c rest _ same =>
        cases same
        rw [ih dotless]
        rfl
      next same => cases same

/-- A text is cut at its first two dots. -/
theorem splitDots_append (dotless : '.' ∉ front) (rest : List Char) :
    splitDots (front ++ '.' :: '.' :: rest) = some (front, rest) := by
  induction front with
  | nil => rfl
  | cons c front ih =>
      rw [List.mem_cons, not_or] at dotless
      obtain ⟨other, dotless⟩ := dotless
      rw [List.cons_append]
      unfold splitDots
      split
      next same => exact absurd (List.cons.inj same).1.symm other
      next same =>
        cases same
        rw [ih dotless]
        rfl
      next same => cases same

theorem splitDots_dots (dotless : '.' ∉ front) (rest : List Char) :
    splitDots (front ++ "..".toList ++ rest) = some (front, rest) := by
  rw [List.append_assoc]
  exact splitDots_append dotless rest

theorem splitDots_thirdDot (dotless : '.' ∉ front) (rest : List Char) :
    splitDots (front ++ "...".toList ++ rest) = some (front, '.' :: rest) := by
  rw [List.append_assoc]
  exact splitDots_append dotless ('.' :: rest)

theorem ne_cons_of_dotless (dotless : '.' ∉ text) (stop : List Char) : text ≠ '.' :: stop := by
  rintro rfl
  exact dotless List.mem_cons_self

/-- Where a text is cut there are two dots. -/
theorem append_of_splitDots (cut : splitDots text = some (front, rest)) :
    text = front ++ '.' :: '.' :: rest := by
  induction text generalizing front with
  | nil => cases cut
  | cons c text ih =>
      unfold splitDots at cut
      split at cut
      next same =>
        cases same
        cases cut
        rfl
      next same =>
        cases same
        obtain ⟨⟨before, after⟩, found, same⟩ := Option.map_eq_some_iff.mp cut
        cases same
        rw [ih found, List.cons_append]
      next same => cases same

/-! ## Ranges -/

/-- How a range is spelled between blank characters. -/
inductive Spells : List Char → LineRange → Prop where
  | single {first : List Char} {start : Int64} (bounds : Bounds first start) :
      Spells first (single start)
  | inclusive {first second : List Char} {start stop : Int64} (bounds : Bounds first start)
      (ends : Bounds second stop) : Spells (first ++ "..".toList ++ second) (inclusive start stop)
  | exclusive {first second : List Char} {start stop : Int64} (bounds : Bounds first start)
      (ends : Bounds second stop) :
      Spells (first ++ "...".toList ++ second) ⟨start, some stop, true⟩
  | through {first : List Char} {start : Int64} (bounds : Bounds first start) :
      Spells (first ++ "..".toList) (inclusive start (-1))
  | throughDots {first : List Char} {start : Int64} (bounds : Bounds first start) :
      Spells (first ++ "...".toList) (inclusive start (-1))

/-- The ranges that are made: a line, the lines from one through another, and what is read. -/
inductive Made : LineRange → Prop where
  | single (index : Int64) : Made (single index)
  | inclusive (start stop : Int64) : Made (inclusive start stop)
  | last : Made last
  | read {text : String} {range : LineRange} (read : ofText? text = some range) : Made range

/-- What is read behind the dots. -/
def readStop? (start : Int64) (exclusive : Bool) (stop : List Char) : Option LineRange :=
  if Text.allBlank stop then some (inclusive start (-1))
  else (readBound? stop).map fun stop => ⟨start, some stop, exclusive⟩

/-- The dots between two bounds. -/
def dots (exclusive : Bool) : List Char := if exclusive then "...".toList else "..".toList

variable {range : LineRange} {start stop : Int64} {exclusive : Bool}

theorem parse?_of_single (uncut : splitDots (Text.trim text) = none) :
    parse? text = (readBound? (Text.trim text)).map single := by
  rw [parse?]
  dsimp only
  rw [uncut]

theorem parse?_of_dots (cut : splitDots (Text.trim text) = some (front, rest))
    (noThird : ∀ stop, rest ≠ '.' :: stop) :
    parse? text = (readBound? front).bind fun start => readStop? start false rest := by
  rw [parse?]
  dsimp only
  rw [cut]
  dsimp only
  split
  next => exact absurd rfl (noThird _)
  next => rfl

theorem parse?_of_thirdDot (cut : splitDots (Text.trim text) = some (front, '.' :: rest)) :
    parse? text = (readBound? front).bind fun start => readStop? start true rest := by
  rw [parse?]
  dsimp only
  rw [cut]
  rfl

theorem readStop?_of_bounds (start : Int64) (exclusive : Bool) (ends : Bounds rest stop) :
    readStop? start exclusive rest = some ⟨start, some stop, exclusive⟩ := by
  rw [readStop?, ends.allBlank_eq, readBound?_eq_some_iff.mpr ends]
  rfl

/-- What is read behind a bound and dots is spelled with them, if it does not end in a blank
character. -/
theorem spells_of_readStop? (bounds : Bounds front start)
    (read : readStop? start exclusive rest = some range)
    (ends : Text.allBlank rest = true → rest = []) :
    Spells (front ++ dots exclusive ++ rest) range := by
  unfold readStop? at read
  split at read
  next blank =>
    cases read
    rw [ends blank, List.append_nil]
    cases exclusive with
    | false => exact .through bounds
    | true => exact .throughDots bounds
  next =>
    obtain ⟨stop, second, rfl⟩ := Option.map_eq_some_iff.mp read
    have ends := readBound?_eq_some_iff.mp second
    cases exclusive with
    | false => exact .inclusive bounds ends
    | true => exact .exclusive bounds ends

/-- A trimmed text does not end in blank characters. -/
theorem eq_nil_of_trim_eq (same : Text.trim text = front ++ rest)
    (blank : Text.allBlank rest = true) : rest = [] := by
  rcases List.eq_nil_or_concat rest with rfl | ⟨before, c, rfl⟩
  · rfl
  · rw [List.concat_eq_append, ← List.append_assoc] at same
    have visible : Text.isBlank c = false := Text.isBlank_of_trimEnd same
    rw [List.concat_eq_append, Text.allBlank_append, Bool.and_eq_true] at blank
    rw [Text.allBlank_iff.mp blank.2 c List.mem_cons_self] at visible
    cases visible

/-- A range is read from a text that spells it, and from no other. -/
theorem parse?_eq_some_iff : parse? text = some range ↔ Spells (Text.trim text) range := by
  constructor
  · intro read
    cases cut : splitDots (Text.trim text) with
    | none =>
        rw [parse?_of_single cut] at read
        obtain ⟨start, bound, rfl⟩ := Option.map_eq_some_iff.mp read
        exact .single (readBound?_eq_some_iff.mp bound)
    | some parts =>
        obtain ⟨front, rest⟩ := parts
        have whole := append_of_splitDots cut
        by_cases third : ∃ stop, rest = '.' :: stop
        · obtain ⟨stop, rfl⟩ := third
          rw [parse?_of_thirdDot cut] at read
          obtain ⟨start, bound, read⟩ := Option.bind_eq_some_iff.mp read
          have same : Text.trim text = front ++ dots true ++ stop := by
            rw [whole, List.append_assoc]
            rfl
          rw [same]
          exact spells_of_readStop? (readBound?_eq_some_iff.mp bound) read (eq_nil_of_trim_eq same)
        · rw [parse?_of_dots cut (not_exists.mp third)] at read
          obtain ⟨start, bound, read⟩ := Option.bind_eq_some_iff.mp read
          have same : Text.trim text = front ++ dots false ++ rest := by
            rw [whole, List.append_assoc]
            rfl
          rw [same]
          exact spells_of_readStop? (readBound?_eq_some_iff.mp bound) read (eq_nil_of_trim_eq same)
  · intro spells
    generalize same : Text.trim text = spelled at spells
    cases spells with
    | single bounds =>
        rw [parse?_of_single (by rw [same, splitDots_of_not_mem bounds.dotless]), same,
          readBound?_eq_some_iff.mpr bounds]
        rfl
    | inclusive bounds ends =>
        rw [parse?_of_dots (same ▸ splitDots_dots bounds.dotless _)
            (ne_cons_of_dotless ends.dotless),
          readBound?_eq_some_iff.mpr bounds]
        exact readStop?_of_bounds _ _ ends
    | exclusive bounds ends =>
        rw [parse?_of_thirdDot (same ▸ splitDots_thirdDot bounds.dotless _),
          readBound?_eq_some_iff.mpr bounds]
        exact readStop?_of_bounds _ _ ends
    | through bounds =>
        rw [← List.append_nil (_ ++ _)] at same
        rw [parse?_of_dots (same ▸ splitDots_dots bounds.dotless _)
            (ne_cons_of_dotless List.not_mem_nil),
          readBound?_eq_some_iff.mpr bounds]
        rfl
    | throughDots bounds =>
        rw [← List.append_nil (_ ++ _)] at same
        rw [parse?_of_thirdDot (same ▸ splitDots_thirdDot bounds.dotless _),
          readBound?_eq_some_iff.mpr bounds]
        rfl

/-! ## Writing and reading -/

/-- Nothing is cut off a text between two integers. -/
theorem trim_between {first second : List Char} {i j : Int} (begins : Text.Denotes first i)
    (middle : List Char) (ends : Text.Denotes second j) :
    Text.trim (first ++ middle ++ second) = first ++ middle ++ second := by
  apply Text.trim_of_visible
  · intro c isFirst
    rw [List.append_assoc, List.head?_append, List.head?_eq_some_head begins.ne_nil] at isFirst
    cases isFirst
    exact begins.isBlank_of_mem (List.head_mem _)
  · intro c isLast
    rw [List.getLast?_append, List.getLast?_eq_some_getLast ends.ne_nil] at isLast
    cases isLast
    exact ends.isBlank_of_mem (List.getLast_mem _)

/-- A range is spelled as it is written, unless it leaves out the end that it does not have. -/
theorem spells_render (range : LineRange) (hasEnd : range.stop = none → range.exclusive = false) :
    Spells (Text.trim range.render) range := by
  obtain ⟨start, stop, exclusive⟩ := range
  have begins := Text.denotes_intDigits start.toInt
  cases stop with
  | none =>
      cases hasEnd rfl
      rw [render, begins.trim_eq]
      exact .single begins.bounds
  | some stop =>
      have ends := Text.denotes_intDigits stop.toInt
      rw [render, trim_between begins _ ends]
      cases exclusive with
      | false => exact .inclusive begins.bounds ends.bounds
      | true => exact .exclusive begins.bounds ends.bounds

/-- No range is made that leaves out an end that it does not have. -/
theorem Made.hasEnd (made : Made range) : range.stop = none → range.exclusive = false := by
  cases made with
  | single index => exact fun _ => rfl
  | inclusive start stop => exact fun _ => rfl
  | last => exact fun _ => rfl
  | read read =>
      have spells := parse?_eq_some_iff.mp read
      generalize Text.trim _ = spelled at spells
      cases spells with
      | single => exact fun _ => rfl
      | inclusive => exact fun _ => rfl
      | exclusive => nofun
      | through => exact fun _ => rfl
      | throughDots => exact fun _ => rfl

theorem ofText?_text (made : Made range) : ofText? range.text = some range := by
  rw [ofText?, text, String.toList_ofList, parse?_eq_some_iff]
  exact spells_render range made.hasEnd

/-- Ranges are read as they are spelled.  The text of every range that is made is read back as that
range; a text is read as a range if it spells the range between blank characters; and a command
that reads a range from any other text fails, with an error of its arguments that quotes the
text. -/
theorem ranges_read_as_spelled :
    (∀ range, Made range → ofText? range.text = some range) ∧
      (∀ text range, ofText? text = some range ↔ Spells (Text.trim text.toList) range) ∧
      ∀ text desk,
        (∃ range, Spells (Text.trim text.toList) range ∧
          Action.readRange text desk = .ok range desk) ∨
        (∀ range, ¬Spells (Text.trim text.toList) range) ∧
          ∃ error, Action.readRange text desk = .error error desk ∧
            error.kind = .malformedArguments ∧ error.message = "Invalid line range: " ++ text := by
  refine ⟨fun _ => ofText?_text, fun text range => parse?_eq_some_iff, fun text desk => ?_⟩
  cases read : ofText? text with
  | some range =>
      refine .inl ⟨range, parse?_eq_some_iff.mp read, ?_⟩
      rw [Action.readRange, read]
      rfl
  | none =>
      refine .inr ⟨fun range spells => ?_, .invalidRange text, ?_, rfl, rfl⟩
      · rw [ofText?, parse?_eq_some_iff.mpr spells] at read
        cases read
      · rw [Action.readRange, read]
        rfl

/-- From the least word through the greatest, and a spelling with a sign and blank characters. -/
theorem ranges_read_as_spelled_at_ends :
    ofText? (inclusive Int64.minValue Int64.maxValue).text =
        some (inclusive Int64.minValue Int64.maxValue) ∧
      ofText? " +1 ... -03" = some ⟨1, some (-3), true⟩ := by
  obtain ⟨readBack, spelled, _⟩ := ranges_read_as_spelled
  refine ⟨readBack _ (.inclusive ..), (spelled _ _).mpr ?_⟩
  have first : Bounds "+1 ".toList 1 :=
    ⟨[], "+1".toList, [' '], rfl, rfl, rfl,
      .plus (List.cons_ne_nil '1' []) (List.forall_mem_singleton.mpr rfl)⟩
  have second : Bounds " -03".toList (-3) :=
    ⟨[' '], "-03".toList, [], rfl, rfl, rfl,
      .minus (List.cons_ne_nil '0' ['3'])
        (List.forall_mem_cons.mpr ⟨rfl, List.forall_mem_singleton.mpr rfl⟩)⟩
  exact .exclusive first second

end LineRange

end Console
