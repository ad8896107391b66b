import Console.Proofs.Command.Trailing
import Console.Proofs.Text.Decimal

/-!
# The edit that a line spells

A line that amends the buffer names the lines to amend, by one number, by two or by none, and goes
on with the new text.  The numbers end where their digits end, and everything behind the blank
characters that follow is the new text, whatever characters it is made of.  So the line denotes the
edit of the buffer that it spells.
-/

namespace Console

/-! ## The numbers of the lines -/

namespace Commands

variable {digits rest gap : List Char} {text : String}

/-- Numbers are written with some of the digits that a pattern takes for one. -/
theorem isDigit_of_decimal {c : Char} (digit : Text.isDigit c = true) : isDigit c = true := by
  obtain ⟨first, last⟩ := Text.bounds_of_isDigit digit
  have begins : EscapeClass.digits = (48, 57) :: EscapeClass.digits.tail := rfl
  rw [isDigit, begins, Text.Ranges.has, Text.Ranges.contains, if_neg (by omega)]
  simp [last]

theorem digits?_append_of_ends (isSome : digits ≠ []) (all : ∀ c ∈ digits, isDigit c = true)
    (ends : ∀ c ∈ rest.head?, isDigit c = false) :
    digits? (digits ++ rest) = some (digits, rest) := by
  have stops : rest.takeWhile isDigit = [] ∧ rest.dropWhile isDigit = rest := by
    cases rest with
    | nil => exact ⟨rfl, rfl⟩
    | cons c rest => simp [ends c rfl]
  rw [digits?, List.takeWhile_append_of_pos all, List.dropWhile_append_of_pos all, stops.1, stops.2,
    List.append_nil, if_neg isSome]

/-- An integer is found at the beginning of a text that does not go on with a digit. -/
theorem number?_intDigits (number : Int) (ends : ∀ c ∈ rest.head?, isDigit c = false) :
    number? (Text.intDigits number ++ rest) = some (Text.intDigits number, rest) := by
  have all : ∀ c ∈ Text.natDigits number.natAbs, isDigit c = true :=
    fun c member => isDigit_of_decimal (Text.isDigit_of_mem_natDigits member)
  have found := digits?_append_of_ends (Text.natDigits_ne_nil _) all ends
  unfold Text.intDigits
  split
  next => rw [List.cons_append, number?, found]; rfl
  next =>
    have isSome := Text.natDigits_ne_nil number.natAbs
    obtain ⟨c, digits, split⟩ := List.exists_cons_of_ne_nil isSome
    have unsigned : c ≠ '-' := by
      rintro rfl
      have digit := Text.isDigit_of_mem_natDigits (n := number.natAbs) (c := '-') (by simp [split])
      cases digit
    rw [split] at found ⊢
    rw [List.cons_append, number?, ← List.cons_append, found]
    simpa using unsigned

theorem readLineNumber_integerText (number : Int64) :
    readLineNumber (integerText number) = .ok number := by
  rw [readLineNumber, readInteger, integerText, String.toList_ofList, Text.readInteger_intDigits]

/-- A text that begins with neither a digit nor a minus sign does not begin with a number. -/
theorem number?_eq_none {text : List Char}
    (begins : ∀ c ∈ text.head?, isDigit c = false ∧ c ≠ '-') : number? text = none := by
  cases text with
  | nil => rfl
  | cons c text =>
      obtain ⟨noDigit, unsigned⟩ := begins c rfl
      simp [number?, unsigned, digits?, noDigit]

/-! ## The new text -/

/-- A text in one line that begins and ends with characters which are not blank. -/
structure IsReplacement (text : String) : Prop where
  whole : '\n' ∉ text.toList
  nonempty : text ≠ ""
  begins : ∀ c ∈ text.toList.head?, Text.isBlank c = false
  ends : ∀ c ∈ text.toList.getLast?, Text.isBlank c = false

/-- Blank characters, of which there is one. -/
structure IsGap (gap : List Char) : Prop where
  blank : Text.allBlank gap = true
  nonempty : gap ≠ []

theorem IsGap.head (isGap : IsGap gap) (rest : List Char) :
    ∀ c ∈ (gap ++ rest).head?, Text.isBlank c = true := by
  intro c first
  rw [List.head?_append_of_ne_nil _ isGap.nonempty] at first
  exact Text.allBlank_iff.mp isGap.blank c (List.mem_of_mem_head? first)

theorem IsGap.not_isDigit (isGap : IsGap gap) (rest : List Char) :
    ∀ c ∈ (gap ++ rest).head?, isDigit c = false :=
  fun c first => not_isDigit_of_isBlank (isGap.head rest c first)

/-- A range ends where blank characters begin. -/
theorem IsGap.ranged?_eq (isGap : IsGap gap) (groups : Regex.Matched) (rest : List Char) :
    ranged? groups (gap ++ rest) = ending? groups (gap ++ rest) := by
  rw [ranged?]
  intro text dots
  have blank := isGap.head rest '.' (by rw [dots]; rfl)
  cases blank

namespace IsReplacement

theorem trimmedEnd_eq (replacement : IsReplacement text) : trimmedEnd text = text := by
  rw [trimmedEnd, Text.trimEnd_of_ends replacement.ends, String.ofList_toList]

/-- What follows the blank characters at the end of the numbers is the new text. -/
theorem ending?_eq (replacement : IsReplacement text) (isGap : IsGap gap)
    (groups : Regex.Matched) :
    ending? groups (gap ++ text.toList) = some ((3, text.toList) :: groups) := by
  obtain ⟨blank, isSome⟩ := isGap
  obtain ⟨c, gap, rfl⟩ := List.exists_cons_of_ne_nil isSome
  rw [Text.allBlank_cons, Bool.and_eq_true] at blank
  have found : Text.trimStart (gap ++ text.toList) = text.toList := by
    rw [Text.trimStart_append_of_allBlank blank.2, Text.trimStart_of_begins replacement.begins]
  have nonempty : text.toList ≠ [] := mt String.toList_eq_nil_iff.mp replacement.nonempty
  rw [List.cons_append, ending?, found, if_neg nonempty]
  simp [blank.1, replacement.nonempty, replacement.whole]

end IsReplacement

/-! ## What is captured -/

/-- The lines that an amendment names. -/
inductive Selection where
  | lines (start stop : Int64)
  | line (number : Int64)
  | last

namespace Selection

/-- How the lines are named. -/
def spelled : Selection → String
  | lines start stop => integerText start ++ ".." ++ integerText stop
  | line number => integerText number
  | last => ""

/-- The lines as a range. -/
def range : Selection → LineRange
  | lines start stop => .inclusive start stop
  | line number => .single number
  | last => .last

/-- The captured numbers. -/
def numbers : Selection → Regex.Matched
  | lines start stop => [(2, Text.intDigits stop.toInt), (1, Text.intDigits start.toInt)]
  | line number => [(1, Text.intDigits number.toInt)]
  | last => []

/-- Whether a new text cannot be taken for one of the numbers in front of it. -/
def Admits (selection : Selection) (text : String) : Prop :=
  selection = .last → ∀ c ∈ text.toList.head?, isDigit c = false ∧ c ≠ '-'

/-- Behind the name, the numbers and the new text are captured as they are spelled. -/
theorem amendment?_spelled (selection : Selection) {front : List Char}
    (frontBlank : Text.allBlank front = true) (isGap : IsGap gap) (replacement : IsReplacement text)
    (admits : selection.Admits text) :
    amendment? (front ++ (selection.spelled.toList ++ (gap ++ text.toList))) =
      some ((3, text.toList) :: selection.numbers) := by
  have ended := replacement.ending?_eq isGap
  have noDigit := isGap.not_isDigit text.toList
  rw [amendment?, Text.trimStart_append_of_allBlank frontBlank]
  cases selection with
  | lines start stop =>
      have dots (rest : List Char) : ∀ c ∈ ('.' :: rest).head?, isDigit c = false := by
        rintro c ⟨⟩
        rfl
      have first := number?_intDigits start.toInt
        (dots ('.' :: (Text.intDigits stop.toInt ++ (gap ++ text.toList))))
      have second := number?_intDigits stop.toInt noDigit
      have split : (lines start stop).spelled.toList ++ (gap ++ text.toList) =
          Text.intDigits start.toInt ++ '.' :: '.' ::
            (Text.intDigits stop.toInt ++ (gap ++ text.toList)) := by
        simp [spelled, integerText]
      rw [split, trimStart_of_number? first, numbered?, first]
      dsimp only
      rw [ranged?, second]
      dsimp only
      rw [ended]
      rfl
  | line number =>
      have found := number?_intDigits number.toInt noDigit
      rw [spelled, integerText, String.toList_ofList, trimStart_of_number? found, numbered?, found]
      dsimp only
      rw [isGap.ranged?_eq, ended]
      rfl
  | last =>
      -- Nothing stands between the blank characters, so all of them are in front of the new text.
      have missing := number?_eq_none (admits rfl)
      have isGapToo : IsGap (front ++ gap) :=
        ⟨by rw [Text.allBlank_append, frontBlank, isGap.blank]; rfl, by simp [isGap.nonempty]⟩
      rw [spelled, String.toList_empty, List.nil_append,
        Text.trimStart_append_of_allBlank isGap.blank,
        Text.trimStart_of_begins replacement.begins, numbered?, missing, ← List.append_assoc,
        replacement.ending?_eq isGapToo]
      rfl

/-- The numbers of the range are read back from what is captured. -/
theorem amendedRange_numbers (selection : Selection) :
    amendedRange ((selection.numbers.lookup 1).map .ofList)
      ((selection.numbers.lookup 2).map .ofList) = .ok selection.range := by
  have reads (number : Int64) :
      readLineNumber (.ofList (Text.intDigits number.toInt)) = .ok number :=
    readLineNumber_integerText number
  cases selection with
  | lines start stop =>
      simp [numbers, List.lookup, amendedRange, reads, range]
      rfl
  | line number =>
      simp [numbers, List.lookup, amendedRange, reads, range]
      rfl
  | last => rfl

end Selection

/-! ## What is done with it -/

/-- What is written when the buffer has been amended. -/
def amendReport (base : IndexBase) : Amended × Buffer → String
  | (.nothing, _) => "Nothing to amend."
  | (_, buffer) => buffer.numbered base

/-- Where there is nothing to amend, the buffer stays as it is. -/
theorem eq_of_amend_nothing {buffer after : Buffer} {range : LineRange} {base : IndexBase}
    (amended : buffer.amend range base text = .ok (.nothing, after)) : after = buffer := by
  unfold Buffer.amend at amended
  split at amended
  · cases amended
    rfl
  · dsimp only at amended
    split at amended
    · cases amended
    · split at amended <;> cases amended

/-- The effect of amending a range of the buffer: either the buffer cannot be amended, and that is
the error, or it becomes the amended one, and what has become of it is written. -/
def amending (base : IndexBase) (range : LineRange) (text : String) (desk : Desk) :
    EStateM.Result Error Desk Dispatched :=
  match desk.buffer.amend range base text with
  | .error error => .error (.amendOutOfRange error) desk.unlogged
  | .ok amended =>
      (do
        Action.say (amendReport base amended)
        pure (.handled .next) : Action Dispatched).apparent { desk with buffer := amended.2 }

theorem apparent_amendLine {start stop : Option String} {range : LineRange}
    (read : amendedRange start stop = .ok range) (kept : trimmedEnd text = text)
    (around : Surroundings) (desk : Desk) :
    (amendLine around [start, stop, some text] >>= fun outcome => pure (.handled outcome) :
      Action Dispatched).apparent desk = amending around.settings.base range text desk := by
  unfold amendLine amending
  simp only [List.getElem?_cons_succ, List.getElem?_cons_zero, Option.bind_some, id_eq, read, kept,
    Action.ofExcept, pure_bind, bind_assoc, Action.apparent_get]
  cases amended : desk.buffer.amend range around.settings.base text with
  | error error => rfl
  | ok amendment =>
      obtain ⟨what, buffer⟩ := amendment
      cases what with
      | nothing =>
          obtain rfl := eq_of_amend_nothing amended
          simp only [bind_assoc, pure_bind]
          rfl
      | replaced | deleted =>
          simp only [bind_assoc, pure_bind]
          rfl

end Commands

namespace Registry

open Commands

/-- A line that amends the buffer denotes the edit which it spells: under either name, and whatever
blank characters stand in front of the lines and behind them, the lines that are named become the
new text as it is written, or it is an error just as it is one for the buffer.  Without a number the
last line is meant, unless the new text could be taken for a number itself. -/
theorem amendments_are_spelled {name : String} (amends : name ∈ ["amend-line", "%"])
    {front gap text : String} (frontBlank : isBlankText front = true)
    (isGap : IsGap gap.toList) (replacement : IsReplacement text) (around : Surroundings)
    (desk : Desk) (selection : Selection) (admits : selection.Admits text) :
    (builtin.dispatch around (name ++ front ++ selection.spelled ++ gap ++ text)).apparent desk =
      amending around.settings.base selection.range text desk := by
  have begins : (name ++ front ++ selection.spelled ++ gap ++ text).toList = name.toList ++
      (front.toList ++ (selection.spelled.toList ++ (gap.toList ++ text.toList))) := by
    simp
  have captured := selection.amendment?_spelled frontBlank isGap replacement admits
  rw [apparent_dispatch_amend amends begins captured,
    ← apparent_amendLine selection.amendedRange_numbers replacement.trimmedEnd_eq]
  conv_rhs => rw [← String.ofList_toList (s := text)]
  rfl

/-- Dots, digits, quotes and backslashes are left as they are. -/
theorem amendments_are_spelled_verbatim :
    "%" ∈ ["amend-line", "%"] ∧ isBlankText "" = true ∧ IsGap "\t".toList ∧
      IsReplacement "..2 \"\\" ∧ (Selection.lines 1 (-1)).Admits "..2 \"\\" ∧
      ∃ after, (builtin.dispatch alone "%1..-1\t..2 \"\\").apparent begun =
          .ok (.handled .next) after ∧
        after.buffer = .ofText "..2 \"\\\n" := by
  have amends : "%" ∈ ["amend-line", "%"] := by simp
  have isGap : IsGap "\t".toList := ⟨by decide, by decide⟩
  have blank : isBlankText "" = true := rfl
  have replacement : IsReplacement "..2 \"\\" :=
    ⟨by decide, by decide, by rintro c ⟨⟩; rfl, by rintro c ⟨⟩; rfl⟩
  have admits : (Selection.lines 1 (-1)).Admits "..2 \"\\" := nofun
  refine ⟨amends, blank, isGap, replacement, admits, ?_⟩
  have spelled := amendments_are_spelled amends blank isGap replacement alone begun _ admits
  have line : "%" ++ "" ++ (Selection.lines 1 (-1)).spelled ++ "\t" ++ "..2 \"\\" =
      "%1..-1\t..2 \"\\" := rfl
  rw [line] at spelled
  rw [spelled]
  exact ⟨_, rfl, by decide⟩

end Registry

end Console
