import Console.Proofs.Command.Patterns
import Console.Proofs.Pattern.Search
import Console.Proofs.Text.Blank

/-!
# What the patterns of the built-in commands capture

What the three patterns find in a line is said without any searching: how far a number goes, and
where the text begins that follows it.
-/

namespace Console

namespace Commands

/-- The characters that do not end a line. -/
theorem has_inLine (c : Char) :
    Text.Ranges.has [(0, 0x9), (0xB, 0xD7FF), (0xE000, 0x10FFFF)] c = (c != '\n') := by
  have newline : c = '\n' ↔ c.toNat = 10 := by
    constructor
    · rintro rfl
      rfl
    · exact fun same => Char.toNat_inj.mp same
  have valid : c.toNat < 0xD800 ∨ 0xDFFF < c.toNat ∧ c.toNat < 0x110000 := c.valid
  rw [Bool.eq_iff_iff]
  simp only [Text.Ranges.has, Text.Ranges.contains, bne_iff_ne, ne_eq, newline]
  split <;> simp <;> omega

theorem within_inLine {text : List Char} (whole : '\n' ∉ text) :
    ∀ c ∈ text, Text.Ranges.has [(0, 0x9), (0xB, 0xD7FF), (0xE000, 0x10FFFF)] c = true := by
  intro c member
  rw [has_inLine, bne_iff_ne]
  exact fun newline => whole (newline ▸ member)

theorem whole_of_within_inLine {text : List Char}
    (within : ∀ c ∈ text, Text.Ranges.has [(0, 0x9), (0xB, 0xD7FF), (0xE000, 0x10FFFF)] c = true) :
    '\n' ∉ text := by
  intro newline
  have taken := within '\n' newline
  rw [has_inLine] at taken
  cases taken

/-- Whether a character is a digit of a line number. -/
abbrev isDigit (c : Char) : Bool := EscapeClass.digits.has c

theorem isBlank_of_isDigit {c : Char} (digit : isDigit c = true) : Text.isBlank c = false :=
  Text.Ranges.not_has_of_apart rfl digit

theorem not_isDigit_of_isBlank {c : Char} (blank : Text.isBlank c = true) : isDigit c = false := by
  rw [← Bool.not_eq_true]
  intro digit
  rw [isBlank_of_isDigit digit] at blank
  cases blank

/-! ## Numbers of lines -/

/-- The digits at the beginning of a text, if there are any, and what follows them. -/
def digits? (text : List Char) : Option (List Char × List Char) :=
  if text.takeWhile isDigit = [] then none
  else some (text.takeWhile isDigit, text.dropWhile isDigit)

/-- The number at the beginning of a text, if there is one, and what follows it. -/
def number? : List Char → Option (List Char × List Char)
  | '-' :: text => (digits? text).map fun (digits, rest) => ('-' :: digits, rest)
  | text => digits? text

section Numbers

variable {text number rest : List Char}

theorem digits?_eq_some (found : digits? text = some (number, rest)) :
    text = number ++ rest ∧ number ≠ [] ∧ (∀ c ∈ number, isDigit c = true) ∧
      ∀ c ∈ rest.head?, isDigit c = false := by
  unfold digits? at found
  split at found
  · cases found
  next some =>
    cases found
    refine ⟨List.takeWhile_append_dropWhile.symm, some, List.all_eq_true.mp List.all_takeWhile, ?_⟩
    intro c first
    have stops := List.head?_dropWhile_not isDigit text
    rw [Option.mem_def] at first
    rwa [first] at stops

theorem not_signed_of_digits? (found : digits? text = some (number, rest)) : ¬['-'] <+: text := by
  rintro ⟨after, rfl⟩
  cases found

theorem digits?_eq_none (missing : digits? text = none) : ∀ c ∈ text.head?, isDigit c = false := by
  cases text with
  | nil => nofun
  | cons c text =>
      intro first same
      cases same
      rw [← Bool.not_eq_true]
      intro digit
      simp [digits?, digit] at missing

theorem number?_eq_some (found : number? text = some (number, rest)) :
    ∃ sign digits, number = sign ++ digits ∧ (sign = ['-'] ∨ sign = []) ∧
      text = sign ++ digits ++ rest ∧ digits? (digits ++ rest) = some (digits, rest) := by
  unfold number? at found
  split at found
  next text =>
    obtain ⟨⟨digits, after⟩, known, same⟩ := Option.map_eq_some_iff.mp found
    cases same
    have split := (digits?_eq_some known).1
    exact ⟨['-'], digits, rfl, .inl rfl, by simp [split], by rwa [← split]⟩
  next text _ =>
    have split := (digits?_eq_some found).1
    exact ⟨[], number, rfl, .inr rfl, by simpa using split, by rwa [← split]⟩

theorem append_of_number? (found : number? text = some (number, rest)) : text = number ++ rest := by
  obtain ⟨sign, digits, rfl, _, split, _⟩ := number?_eq_some found
  exact split

/-- A number is at least one character, and none of its characters but the first can be anything
else than a digit. -/
theorem number?_of_isBlank {c : Char} (blank : Text.isBlank c = true) (text : List Char) :
    number? (c :: text) = none := by
  have noSign : c ≠ '-' := by
    rintro rfl
    cases blank
  simp [number?, noSign, digits?, not_isDigit_of_isBlank blank]

theorem visible_of_number? (found : number? text = some (number, rest)) :
    ∀ c ∈ number, Text.isBlank c = false := by
  obtain ⟨sign, digits, rfl, signed, _, known⟩ := number?_eq_some found
  obtain ⟨_, _, allDigits, _⟩ := digits?_eq_some known
  have visible : ∀ c ∈ digits, Text.isBlank c = false :=
    fun c member => isBlank_of_isDigit (allDigits c member)
  rcases signed with rfl | rfl
  · simpa using ⟨rfl, visible⟩
  · exact visible

theorem trimStart_of_number? (found : number? text = some (number, rest)) :
    Text.trimStart text = text := by
  cases text with
  | nil => rfl
  | cons c text =>
      cases blank : Text.isBlank c with
      | true =>
          rw [number?_of_isBlank blank] at found
          cases found
      | false => simp [Text.trimStart_cons, blank]

end Numbers

section Laws

open Regex

variable {text number rest : List Char} {groups result : Matched} {next : Cursor → Option Cursor}

theorem leads_digits (found : digits? text = some (number, rest))
    (leads : Leads next rest groups (some result)) :
    Leads (decimals.followedBy next) text groups (some result) := by
  obtain ⟨rfl, some, digits, ends⟩ := digits?_eq_some found
  exact leads.plus_run digits some ends

theorem digits_fail (found : digits? text = some (number, rest))
    (stops : ∀ front back, number = front ++ back → front ≠ [] →
      Leads next (back ++ rest) groups none) :
    Leads (decimals.followedBy next) text groups none := by
  obtain ⟨rfl, _, _, ends⟩ := digits?_eq_some found
  exact Leads.plus_run_fails ends stops

theorem digits_fail_of_none (missing : digits? text = none) :
    Leads (decimals.followedBy next) text groups none :=
  Leads.plus_fails_here (digits?_eq_none missing)

theorem leads_number (found : number? text = some (number, rest))
    (leads : Leads next rest groups (some result)) :
    Leads (lineNumber.followedBy next) text groups (some result) := by
  obtain ⟨sign, digits, rfl, signed, rfl, known⟩ := number?_eq_some found
  have digitsLead := leads_digits known leads
  apply Leads.seq
  rcases signed with rfl | rfl
  · exact digitsLead.literal.optional_taken
  · exact (Leads.literal_fails (not_signed_of_digits? known)).optional_skipped digitsLead

theorem number_fails (found : number? text = some (number, rest))
    (stops : ∀ front back, number = front ++ back → front ≠ [] →
      Leads next (back ++ rest) groups none) :
    Leads (lineNumber.followedBy next) text groups none := by
  obtain ⟨sign, digits, rfl, signed, rfl, known⟩ := number?_eq_some found
  have digitsFail : Leads (decimals.followedBy next) (digits ++ rest) groups none :=
    digits_fail known fun front back split some =>
      stops (sign ++ front) back (by simp [split]) (by simp [some])
  apply Leads.seq
  rcases signed with rfl | rfl
  · apply digitsFail.literal.optional_skipped
    apply digits_fail_of_none
    rfl
  · exact (Leads.literal_fails (not_signed_of_digits? known)).optional_skipped digitsFail

theorem number_fails_of_none (missing : number? text = none) :
    Leads (lineNumber.followedBy next) text groups none := by
  apply Leads.seq
  unfold number? at missing
  split at missing
  next text =>
    rw [Option.map_eq_none_iff] at missing
    have digitsFail : Leads (decimals.followedBy next) text groups none :=
      digits_fail_of_none missing
    apply digitsFail.literal.optional_skipped
    apply digits_fail_of_none
    rfl
  next text unsigned =>
    apply Leads.optional_skipped ?_ (digits_fail_of_none missing)
    apply Leads.literal_fails
    rintro ⟨after, rfl⟩
    exact unsigned after rfl

/-- A number that is captured. -/
theorem leads_captured {index : Nat} (found : number? text = some (number, rest))
    (leads : Leads next rest ((index, number) :: groups) (some result)) :
    Leads ((Regex.capture index lineNumber).followedBy next) text groups (some result) := by
  apply Leads.capture
  apply leads_number found
  rw [append_of_number? found]
  exact leads.closing

theorem captured_fails {index : Nat} (found : number? text = some (number, rest))
    (stops : ∀ front back, number = front ++ back → front ≠ [] →
      Leads next (back ++ rest) ((index, front) :: groups) none) :
    Leads ((Regex.capture index lineNumber).followedBy next) text groups none := by
  apply Leads.capture
  apply number_fails found
  intro front back split some
  rw [append_of_number? found, split, List.append_assoc]
  exact (stops front back split some).closing

theorem captured_fails_of_none {index : Nat} (missing : number? text = none) :
    Leads ((Regex.capture index lineNumber).followedBy next) text groups none :=
  Leads.capture (number_fails_of_none missing)

/-! ## What follows the numbers -/

/-- What is captured in the end, where a text follows the numbers: what comes after blank
characters, or the last of them if nothing else comes. -/
def ending? (groups : Matched) : List Char → Option Matched
  | [] => some groups
  | c :: rest =>
      let text := Text.trimStart rest
      let found := if text = [] then rest.getLast?.toList else text
      if Text.isBlank c = false ∨ found = [] ∨ '\n' ∈ found then none
      else some ((3, found) :: groups)

/-- The end of the text. -/
def stop : Cursor → Option Cursor := (Regex.look .finish).followedBy some

/-- The end of a pattern, behind the numbers. -/
def ending : Cursor → Option Cursor := (Regex.times replacement 0 (some 1) true).followedBy stop

theorem leads_stop : Leads stop [] groups (some groups) := .finish .done

theorem stop_fails (more : rest ≠ []) : Leads stop rest groups none := .finish_fails more

theorem leads_newText (isSome : text ≠ []) (whole : '\n' ∉ text) :
    Leads (newText.followedBy stop) text groups (some ((3, text) :: groups)) := by
  have within := within_inLine whole
  have closed : Leads (closing 3 text stop) [] groups (some ((3, text) :: groups)) := by
    have closed : Leads (closing 3 (text ++ []) stop) [] groups (some ((3, text) :: groups)) :=
      leads_stop.closing
    rwa [List.append_nil] at closed
  have leads : Leads ((Regex.times inLine 1 none true).followedBy (closing 3 text stop))
      (text ++ []) groups (some ((3, text) :: groups)) := closed.plus_run within isSome (by simp)
  rw [List.append_nil] at leads
  exact leads.capture

theorem newText_fails (broken : text = [] ∨ '\n' ∈ text) :
    Leads (newText.followedBy stop) text groups none := by
  apply Leads.capture
  apply Leads.plus_fails
  intro pre post split isSome within
  subst split
  apply Leads.closing
  apply stop_fails
  rintro rfl
  rcases broken with nothing | newline
  · simp_all
  · exact whole_of_within_inLine within (by simpa using newline)

theorem replacement_fails_of_visible (groups : Matched)
    (visible : ∀ c ∈ rest.head?, Text.isBlank c = false) :
    Leads (replacement.followedBy stop) rest groups none := by
  apply Leads.seq
  exact Leads.plus_fails_here visible

/-- Blank characters are followed by something else. -/
theorem leads_replacement (groups : Matched) {front : List Char} (isSome : front ≠ [])
    (blank : Text.allBlank front) (visible : ∀ c ∈ text.head?, Text.isBlank c = false)
    (more : text ≠ []) :
    Leads (replacement.followedBy stop) (front ++ text) groups
      (if '\n' ∈ text then none else some ((3, text) :: groups)) := by
  apply Leads.seq
  split
  next newline =>
    apply Leads.plus_run_fails visible
    intro _ back _ _
    exact newText_fails (.inr (by simp [newline]))
  next whole =>
    exact (leads_newText more whole).plus_run (Text.allBlank_iff.mp blank) isSome visible

/-- There is nothing but blank characters. -/
theorem leads_replacement_of_blank (groups : Matched) {c : Char}
    (blank : Text.allBlank (c :: rest)) :
    Leads (replacement.followedBy stop) (c :: rest) groups
      (if rest = [] ∨ rest.getLast? = some '\n' then none
        else some ((3, rest.getLast?.toList) :: groups)) := by
  have within := Text.allBlank_iff.mp blank
  apply Leads.seq
  split
  next broken =>
    rw [← List.append_nil (c :: rest)]
    apply Leads.plus_run_fails (by simp)
    intro front back split isSome
    obtain ⟨d, front, rfl⟩ := List.exists_cons_of_ne_nil isSome
    obtain ⟨rfl, rfl⟩ := List.cons.inj split
    rw [List.append_nil]
    apply newText_fails
    rcases back.eq_nil_or_concat with rfl | ⟨init, last, rfl⟩
    · exact .inl rfl
    · rw [List.concat_eq_append] at broken ⊢
      obtain rfl : last = '\n' := by simpa using broken
      exact .inr (by simp)
  next whole =>
    obtain ⟨isSome, noNewline⟩ := not_or.mp whole
    obtain rfl | ⟨front, last, rfl⟩ := rest.eq_nil_or_concat
    · exact absurd rfl isSome
    · rw [List.concat_eq_append, List.getLast?_concat] at noNewline ⊢
      rw [List.concat_eq_append, List.forall_mem_cons, List.forall_mem_append] at within
      have ends : ∀ mid later, [last] = mid ++ later → mid ≠ [] →
          (∀ c ∈ mid, Text.blanks.has c = true) →
            Leads (newText.followedBy stop) later groups none := by
        intro mid later split some _
        obtain ⟨d, mid, rfl⟩ := List.exists_cons_of_ne_nil some
        exact newText_fails (.inl (by simp_all))
      have leads : Leads (newText.followedBy stop) [last] groups (some ((3, [last]) :: groups)) :=
        leads_newText (by simp) (by simpa [eq_comm] using noNewline)
      exact leads.plus_greedy (List.forall_mem_cons.mpr ⟨within.1, within.2.1⟩) (by simp) ends

theorem leads_ending_of_replacement {found : Option Matched} (more : rest ≠ [])
    (leads : Leads (replacement.followedBy stop) rest groups found) :
    Leads ending rest groups found := by
  cases found with
  | none => exact leads.optional_skipped (stop_fails more)
  | some => exact leads.optional_taken

/-- The end of a pattern captures what `ending?` says. -/
theorem leads_ending (groups : Matched) (rest : List Char) :
    Leads ending rest groups (ending? groups rest) := by
  cases rest with
  | nil => exact (replacement_fails_of_visible groups (by simp)).optional_skipped leads_stop
  | cons c rest =>
      apply leads_ending_of_replacement (by simp)
      by_cases blank : Text.isBlank c
      · by_cases hidden : Text.trimStart rest = []
        · have allBlank : Text.allBlank (c :: rest) := by
            simp [blank, Text.trimStart_eq_nil_iff.mp hidden]
          have leads := leads_replacement_of_blank groups allBlank
          simpa [ending?, blank, hidden] using leads
        · obtain ⟨front, frontBlank, split⟩ := Text.exists_append_trimStart rest
          have visible := Text.isBlank_of_head?_trimStart rest
          have allBlank : Text.allBlank (c :: front) := by simp [blank, frontBlank]
          have leads := leads_replacement groups (by simp) allBlank visible hidden
          rw [List.cons_append, ← split] at leads
          simpa [ending?, blank, hidden] using leads
      · have visible : ∀ d ∈ (c :: rest).head?, Text.isBlank d = false := by simpa using blank
        have fails := replacement_fails_of_visible groups visible
        simpa [ending?, blank] using fails

/-! ## The numbers and what follows them -/

/-- What follows the first number: the second one of a range, or nothing but the end. -/
def ranged? (groups : Matched) : List Char → Option Matched
  | '.' :: '.' :: text =>
      match number? text with
      | some (last, rest) => ending? ((2, last) :: groups) rest
      | none => none
  | rest => ending? groups rest

/-- A number, or a range, and what follows. -/
def numbered? (text : List Char) : Option Matched :=
  match number? text with
  | some (first, rest) => ranged? [(1, first)] rest
  | none => none

/-- What `amendPattern` captures behind the name: numbers and what follows them, or only that. -/
def amendment? (rest : List Char) : Option Matched :=
  (numbered? (Text.trimStart rest)).or (ending? [] rest)

/-- Behind a name and a blank, a line number is the number of the line to amend. -/
theorem amendment?_of_number
    (isNumber : number? (Text.trimStart text) = some (Text.trimStart text, [])) :
    amendment? (' ' :: text) = some [(1, Text.trimStart text)] := by
  rw [amendment?, Text.trimStart_space, numbered?, isNumber]
  rfl

theorem ending?_eq_some (ended : ending? groups rest = some result) :
    rest = [] ∧ result = groups ∨ ∃ found, result = (3, found) :: groups := by
  cases rest with
  | nil => exact .inl ⟨rfl, by simpa [ending?] using ended.symm⟩
  | cons c rest =>
      simp only [ending?, Option.ite_none_left_eq_some, Option.some.injEq] at ended
      exact .inr ⟨_, ended.2.symm⟩

theorem ending?_of_isDigit {c : Char} (digit : isDigit c = true) (groups : Matched)
    (rest : List Char) : ending? groups (c :: rest) = none := by
  simp [ending?, isBlank_of_isDigit digit]

theorem ranged?_of_isDigit {c : Char} (digit : isDigit c = true) (groups : Matched)
    (rest : List Char) : ranged? groups (c :: rest) = none := by
  rw [ranged?]
  · exact ending?_of_isDigit digit groups rest
  · rintro text same
    cases same
    cases digit

/-- The characters of a number behind its beginning are digits. -/
theorem exists_digit_of_number? {front back : List Char}
    (found : number? text = some (number, rest)) (split : number = front ++ back)
    (begun : front ≠ []) (more : back ≠ []) :
    ∃ c after, back = c :: after ∧ isDigit c = true := by
  obtain ⟨c, after, rfl⟩ := List.exists_cons_of_ne_nil more
  obtain ⟨sign, digits, rfl, signed, _, known⟩ := number?_eq_some found
  obtain ⟨_, _, allDigits, _⟩ := digits?_eq_some known
  refine ⟨c, after, rfl, allDigits c ?_⟩
  rcases signed with rfl | rfl
  · obtain ⟨d, front, rfl⟩ := List.exists_cons_of_ne_nil begun
    obtain ⟨_, rfl⟩ := List.cons.inj split
    simp
  · simp [show digits = front ++ c :: after from split]

theorem secondNumber_of_captured {found : Option Matched}
    (leads : Leads ((Regex.capture 2 lineNumber).followedBy ending) text groups found) :
    Leads (secondNumber.followedBy ending) ('.' :: '.' :: text) groups found := leads.literal.seq

theorem leads_secondNumber (groups : Matched) (rest : List Char) :
    Leads ((Regex.times secondNumber 0 (some 1) true).followedBy ending) rest groups
      (ranged? groups rest) := by
  unfold ranged?
  split
  next text =>
    have dots : Leads ending ('.' :: '.' :: text) groups none := leads_ending groups _
    split
    next last after found =>
      have ended := leads_ending ((2, last) :: groups) after
      cases result : ending? ((2, last) :: groups) after with
      | some result =>
          rw [result] at ended
          exact (secondNumber_of_captured (leads_captured found ended)).optional_taken
      | none =>
          rw [result] at ended
          apply Leads.optional_skipped (secondNumber_of_captured ?_) dots
          apply captured_fails found
          intro front back split begun
          by_cases whole : back = []
          · simpa [split, whole] using ended
          · obtain ⟨c, rest, rfl, digit⟩ := exists_digit_of_number? found split begun whole
            rw [List.cons_append, ← ending?_of_isDigit digit]
            exact leads_ending _ _
    next missing =>
      exact (secondNumber_of_captured (captured_fails_of_none missing)).optional_skipped dots
  next noDots =>
    have fails : Leads (secondNumber.followedBy ending) rest groups none := by
      apply Leads.seq
      apply Leads.literal_fails
      rintro ⟨after, rfl⟩
      exact noDots after rfl
    exact fails.optional_skipped (leads_ending groups rest)

theorem leads_range (text : List Char) :
    Leads (range.followedBy ending) text [] (numbered? text) := by
  unfold numbered?
  split
  next first rest found =>
    have ranged := leads_secondNumber [(1, first)] rest
    apply Leads.seq
    cases result : ranged? [(1, first)] rest with
    | some result =>
        rw [result] at ranged
        exact leads_captured found ranged
    | none =>
        rw [result] at ranged
        apply captured_fails found
        intro front back split begun
        by_cases whole : back = []
        · simpa [split, whole] using ranged
        · obtain ⟨c, after, rfl, digit⟩ := exists_digit_of_number? found split begun whole
          rw [List.cons_append, ← ranged?_of_isDigit digit]
          exact leads_secondNumber _ _
  next missing => exact (captured_fails_of_none missing).seq

theorem leads_lineNumbers (rest : List Char) :
    Leads (lineNumbers.followedBy ending) rest [] (numbered? (Text.trimStart rest)) := by
  obtain ⟨front, blank, split⟩ := Text.exists_append_trimStart rest
  have ends := Text.isBlank_of_head?_trimStart rest
  have here := leads_range (Text.trimStart rest)
  generalize Text.trimStart rest = text at split ends here
  subst split
  rw [Text.allBlank_iff] at blank
  apply Leads.seq
  cases result : numbered? text with
  | some result =>
      rw [result] at here
      exact here.star_run blank ends
  | none =>
      rw [result] at here
      apply Leads.star_run_fails ends
      rintro pre back rfl
      cases back with
      | nil => exact here
      | cons c back =>
          have missing : numbered? (c :: back ++ text) = none := by
            rw [numbered?, List.cons_append, number?_of_isBlank (blank c (by simp))]
          exact missing ▸ leads_range _

/-- What `amendPattern` finds in a text that begins with the name. -/
theorem groups_amend (name : String) (rest : List Char) :
    (Regex.seq (.look .start) (amendBody name)).groupsByWays? (name.toList ++ rest) =
      amendment? rest := by
  apply groupsByWays?_of_leads
  apply Leads.seq
  apply Leads.literal
  have numbers := leads_lineNumbers rest
  have plain := leads_ending [] rest
  unfold amendment?
  cases result : numbered? (Text.trimStart rest) with
  | some result => exact (result ▸ numbers).optional_taken
  | none => exact (result ▸ numbers).optional_skipped plain

theorem groups_amend_of_absent {name : String} (apart : ¬name.toList <+: text) :
    (Regex.seq (.look .start) (amendBody name)).groupsByWays? text = none := by
  apply groupsByWays?_of_leads
  apply Leads.seq
  exact Leads.literal_fails apart

/-! ## What a session is started on -/

/-- What the pattern of `cd` captures behind the name: what stands between blank characters, or the
last of them that does not end a line if nothing else does. -/
def targeted? (rest : List Char) : Option Matched :=
  if Text.allBlank rest then
    some ((rest.tail.reverse.find? (· != '\n')).toList.map fun c => (1, [c]))
  else if rest.head?.any Text.isBlank ∧ '\n' ∉ Text.trim rest then some [(1, Text.trim rest)]
  else none

/-- Blank characters up to the end of the text. -/
def blankStop : Cursor → Option Cursor := (Regex.times blank 0 none true).followedBy stop

theorem leads_blankStop (hidden : Text.allBlank rest = true) :
    Leads blankStop rest groups (some groups) := by
  have leads : Leads blankStop (rest ++ []) groups (some groups) :=
    leads_stop.star_run (Text.allBlank_iff.mp hidden) (by simp)
  rwa [List.append_nil] at leads

theorem blankStop_fails (visible : Text.allBlank rest = false) :
    Leads blankStop rest groups none := by
  apply Leads.star_fails
  rintro pre post rfl within
  apply stop_fails
  rintro rfl
  rw [List.append_nil, Text.allBlank_iff.mpr within] at visible
  cases visible

theorem leads_expression (isSome : text ≠ []) (whole : '\n' ∉ text)
    (shortest : ∀ front back, text = front ++ back → front ≠ [] → back ≠ [] →
      Text.allBlank back = false)
    (hidden : Text.allBlank rest = true) :
    Leads (expression.followedBy blankStop) (text ++ rest) groups (some ((1, text) :: groups)) := by
  have closed : Leads (closing 1 (text ++ rest) blankStop) rest groups
      (some ((1, text) :: groups)) := (leads_blankStop hidden).closing
  apply Leads.capture
  apply closed.plus_lazy (within_inLine whole) isSome
  rintro front back rfl begun more
  rw [List.append_assoc]
  apply Leads.closing
  apply blankStop_fails
  simp [shortest front back rfl begun more]

theorem expression_fails (endless : ∀ front back, text = front ++ back → front ≠ [] →
      '\n' ∉ front → Text.allBlank back = false) :
    Leads (expression.followedBy blankStop) text groups none := by
  apply Leads.capture
  apply Leads.plus_fails
  rintro front back rfl begun within
  apply Leads.closing
  apply blankStop_fails
  exact endless front back rfl begun (whole_of_within_inLine within)

/-- There is something between the blank characters. -/
theorem leads_target (visible : Text.allBlank rest = false) :
    Leads (target.followedBy blankStop) rest []
      (if rest.head?.any Text.isBlank ∧ '\n' ∉ Text.trim rest then some [(1, Text.trim rest)]
      else none) := by
  obtain ⟨front, blank, split⟩ := Text.exists_append_trimStart rest
  have ends := Text.isBlank_of_head?_trimStart rest
  have isVisible : Text.allBlank (Text.trimStart rest) = false := by simpa using visible
  rw [Text.trim]
  generalize Text.trimStart rest = text at *
  subst split
  obtain ⟨tail, hidden, whole⟩ := Text.exists_trimEnd_append text
  apply Leads.seq
  split
  next captured =>
    obtain ⟨begins, noNewline⟩ := captured
    have begun : front ≠ [] := by
      rintro rfl
      cases text with
      | nil => cases begins
      | cons c text => simp [ends c (by simp)] at begins
    have isSome : Text.trimEnd text ≠ [] := by
      rw [ne_eq, Text.trimEnd_eq_nil_iff, isVisible]
      decide
    have leads : Leads (expression.followedBy blankStop) text []
        (some [(1, Text.trimEnd text)]) := by
      have shortest : ∀ first last, Text.trimEnd text = first ++ last → first ≠ [] → last ≠ [] →
          Text.allBlank last = false := by
        intro first last split _ more
        rcases last.eq_nil_or_concat with rfl | ⟨last, c, rfl⟩
        · exact absurd rfl more
        · rw [List.concat_eq_append, ← List.append_assoc] at split
          simp [Text.isBlank_of_trimEnd split]
      have leads : Leads (expression.followedBy blankStop) (Text.trimEnd text ++ tail) []
          (some [(1, Text.trimEnd text)]) := leads_expression isSome noNewline shortest hidden
      rwa [← whole] at leads
    exact leads.plus_run (Text.allBlank_iff.mp blank) begun ends
  next missing =>
    apply Leads.plus_run_fails ends
    rintro pre back rfl begun
    have newline : '\n' ∈ Text.trimEnd text := by
      obtain ⟨c, pre, rfl⟩ := List.exists_cons_of_ne_nil begun
      rw [Text.allBlank_iff] at blank
      rw [Classical.not_and_iff_not_or_not, Classical.not_not] at missing
      exact missing.resolve_left (not_not_intro (by simp [blank c (by simp)]))
    apply expression_fails
    intro front rest split _ noNewline
    rw [← Bool.not_eq_true]
    intro hidden
    have same : back ++ Text.trimEnd text = Text.trimEnd front := by
      rw [← Text.trimEnd_append back isVisible, split, Text.trimEnd_append_of_allBlank _ hidden]
    obtain ⟨_, _, whole⟩ := Text.exists_trimEnd_append front
    apply noNewline
    rw [whole, ← same]
    simp [newline]

theorem expression_fails_of_newlines (newlines : ∀ c ∈ text, c = '\n') :
    Leads (expression.followedBy blankStop) text groups none := by
  apply expression_fails
  rintro front back rfl begun whole
  obtain ⟨c, front, rfl⟩ := List.exists_cons_of_ne_nil begun
  exact absurd (by simp [newlines c (by simp)]) whole

/-- There is nothing but blank characters. -/
theorem leads_target_of_blank {c : Char} {front back : List Char}
    (blank : Text.allBlank (front ++ c :: back) = true) (begun : front ≠ []) (whole : c ≠ '\n')
    (newlines : ∀ d ∈ back, d = '\n') :
    Leads (target.followedBy blankStop) (front ++ c :: back) groups
      (some ((1, [c]) :: groups)) := by
  simp only [Text.allBlank_append, Text.allBlank_cons, Bool.and_eq_true] at blank
  obtain ⟨frontBlank, _, backBlank⟩ := blank
  have leads : Leads (expression.followedBy blankStop) ([c] ++ back) groups
      (some ((1, [c]) :: groups)) := by
    apply leads_expression (by simp) (by simpa [eq_comm] using whole) ?_ backBlank
    intro first more split some notLast
    obtain ⟨d, first, rfl⟩ := List.exists_cons_of_ne_nil some
    simp_all
  apply Leads.seq
  apply leads.plus_greedy (Text.allBlank_iff.mp frontBlank) begun
  intro mid last split some _
  obtain ⟨d, mid, rfl⟩ := List.exists_cons_of_ne_nil some
  obtain ⟨_, rfl⟩ := List.cons.inj split
  exact expression_fails_of_newlines fun d member => newlines d (by simp [member])

theorem target_fails (newlines : ∀ c ∈ rest.tail, c = '\n') :
    Leads (target.followedBy blankStop) rest groups none := by
  apply Leads.seq
  apply Leads.plus_fails
  rintro pre post rfl some _
  obtain ⟨c, pre, rfl⟩ := List.exists_cons_of_ne_nil some
  exact expression_fails_of_newlines fun d member => newlines d (by simp [member])

theorem leads_target_of_allBlank (hidden : Text.allBlank rest = true) :
    Leads ((Regex.times target 0 (some 1) true).followedBy blankStop) rest []
      (some ((rest.tail.reverse.find? (· != '\n')).toList.map fun c => (1, [c]))) := by
  cases found : rest.tail.reverse.find? (· != '\n') with
  | none =>
      apply (target_fails ?_).optional_skipped (leads_blankStop hidden)
      simpa using found
  | some c =>
      obtain ⟨notNewline, back, front, split, newlines⟩ := List.find?_eq_some_iff_append.mp found
      cases rest with
      | nil => cases found
      | cons d tail =>
          have behind : tail = front.reverse ++ c :: back.reverse := by
            rw [List.tail_cons] at split
            rw [← List.reverse_inj, split]
            simp
          rw [behind, ← List.cons_append] at hidden ⊢
          exact (leads_target_of_blank hidden (by simp) (by simpa using notNewline)
            (by simpa using newlines)).optional_taken

/-- What the pattern of `cd` finds in a text that begins with the name. -/
theorem groups_cd (rest : List Char) :
    (Regex.seq (.look .start) cdBody).groupsByWays? ('c' :: 'd' :: rest) = targeted? rest := by
  have leads : Leads ((Regex.times target 0 (some 1) true).followedBy blankStop) rest []
      (targeted? rest) := by
    unfold targeted?
    split
    next hidden => exact leads_target_of_allBlank hidden
    next visible =>
      rw [Bool.not_eq_true] at visible
      have target := leads_target visible
      split
      next captured =>
        rw [if_pos captured] at target
        exact target.optional_taken
      next missing =>
        rw [if_neg missing] at target
        exact target.optional_skipped (blankStop_fails visible)
  exact groupsByWays?_of_leads leads.literal.seq

theorem groups_cd_of_absent (apart : ¬['c', 'd'] <+: text) :
    (Regex.seq (.look .start) cdBody).groupsByWays? text = none := by
  apply groupsByWays?_of_leads
  apply Leads.seq
  exact Leads.literal_fails apart

end Laws

end Commands

end Console
