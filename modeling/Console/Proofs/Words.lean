import Console.Proofs.Text.Blank
import Console.Words
import Mathlib.Data.List.Induction

/-!
# How words are written

What words a command line says is laid down here by a grammar: a word is written as one or more
segments, each of them bare, behind backslashes, or between quotes.  The grammar is a relation
between what is written and what is meant, and it knows of no reader.  A reader in any of its states
has read a part of a line that the grammar describes, so the words that are read are the words that
are written, and nothing is read only of a line with a quote that is never closed.
-/

namespace Console

/-- A character that stands for itself in a word. -/
def WordReader.isPlain (c : Char) : Bool :=
  !Text.isBlank c && c != '\'' && c != '"' && c != '\\'

namespace Spelling

open WordReader (isPlain hasMeaning)

/-! ## The grammar -/

/-- What a backslash and a character mean between double quotes. -/
def unescaped (c : Char) : List Char :=
  if c ∈ ['"', '\\', '$', '\x60'] then [c] else ['\\', c]

/-- What is written between double quotes, and what is meant. -/
inductive Inside : List Char → List Char → Prop
  | nil : Inside [] []
  | plain {c : Char} {written meant : List Char} (noQuote : c ≠ '"') (noBackslash : c ≠ '\\')
      (rest : Inside written meant) : Inside (c :: written) (c :: meant)
  | escaped {written meant : List Char} (c : Char) (rest : Inside written meant) :
      Inside ('\\' :: c :: written) (unescaped c ++ meant)

/-- A segment of a word as it is written, and what is meant. -/
inductive Segment : List Char → List Char → Prop
  | bare {text : List Char} (some : text ≠ []) (plain : ∀ c ∈ text, isPlain c) : Segment text text
  | escaped {text : List Char} (some : text ≠ []) : Segment (text.flatMap (['\\', ·])) text
  | single {text : List Char} (noQuote : '\'' ∉ text) : Segment ('\'' :: (text ++ ['\''])) text
  | double {written meant : List Char} (inside : Inside written meant) :
      Segment ('"' :: (written ++ ['"'])) meant

/-- A word as it is written, segment by segment, and what is meant. -/
inductive Word : List Char → List Char → Prop
  | segment {written meant : List Char} (last : Segment written meant) : Word written meant
  | cons {written meant rest restMeant : List Char} (first : Segment written meant)
      (more : Word rest restMeant) : Word (written ++ rest) (meant ++ restMeant)

/-- Words as they are written with blank characters behind each of them, and what is meant. -/
inductive Words : List Char → List (List Char) → Prop
  | nil {blanks : List Char} (blank : Text.allBlank blanks) : Words blanks []
  | snoc {front written meant gap : List Char} {words : List (List Char)}
      (earlier : Words front words) (word : Word written meant) (blank : Text.allBlank gap)
      (some : gap ≠ []) : Words (front ++ written ++ gap) (words ++ [meant])

/-- A line in which every quote is closed, and its words.  The last one may stand at the end. -/
inductive Line : List Char → List (List Char) → Prop
  | ended {text : List Char} {words : List (List Char)} (all : Words text words) : Line text words
  | going {front written meant : List Char} {words : List (List Char)}
      (earlier : Words front words) (word : Word written meant) :
      Line (front ++ written) (words ++ [meant])

/-- A text that spells words.  A backslash at the very end belongs to the last word, to which it
adds nothing. -/
inductive Spells : List Char → List (List Char) → Prop
  | line {text : List Char} {words : List (List Char)} (whole : Line text words) : Spells text words
  | cut {front written meant : List Char} {words : List (List Char)}
      (earlier : Words front words) (word : Word written meant) :
      Spells (front ++ written ++ ['\\']) (words ++ [meant])
  | lone {front : List Char} {words : List (List Char)} (earlier : Words front words) :
      Spells (front ++ ['\\']) (words ++ [[]])

/-- A text closes a quote that stands before it: a single quote by another one, a double quote by
another one that has no backslash before it. -/
inductive Closes : Char → List Char → Prop
  | single (inside rest : List Char) : Closes '\'' (inside ++ '\'' :: rest)
  | double {written meant : List Char} (inside : Inside written meant) (rest : List Char) :
      Closes '"' (written ++ '"' :: rest)

/-- A quote is opened outside quotes, with no backslash before it, and never closed. -/
def LeavesOpen (quote : Char) (text : List Char) : Prop :=
  quote ∈ ['\'', '"'] ∧ ∃ front words rest, text = front ++ quote :: rest ∧ Line front words ∧
    ¬Closes quote rest

/-- What may be written behind a double quote that is never closed. -/
inductive Dangling : List Char → Prop
  | nil : Dangling []
  | lone : Dangling ['\\']
  | plain {c : Char} {text : List Char} (noQuote : c ≠ '"') (noBackslash : c ≠ '\\')
      (rest : Dangling text) : Dangling (c :: text)
  | escaped {text : List Char} (c : Char) (rest : Dangling text) : Dangling ('\\' :: c :: text)

/-- A word, or the place where one may begin. -/
inductive Begun : List Char → List Char → Prop
  | nothing : Begun [] []
  | word {written meant : List Char} (word : Word written meant) : Begun written meant

/-- What has been written when a reader has come to a state: words with blank characters behind
them, and then what the state says. -/
inductive Reads : List Char → WordReader → Prop
  | between {front : List Char} {words : List (List Char)} (earlier : Words front words) :
      Reads front ⟨words.reverse, [], .between⟩
  | bare {front written meant : List Char} {words : List (List Char)}
      (earlier : Words front words) (word : Word written meant) :
      Reads (front ++ written) ⟨words.reverse, meant.reverse, .bare⟩
  | escape {front written meant : List Char} {words : List (List Char)}
      (earlier : Words front words) (begun : Begun written meant) :
      Reads (front ++ written ++ ['\\']) ⟨words.reverse, meant.reverse, .escape⟩
  | single {front written meant text : List Char} {words : List (List Char)}
      (earlier : Words front words) (begun : Begun written meant) (noQuote : '\'' ∉ text) :
      Reads (front ++ written ++ '\'' :: text) ⟨words.reverse, (meant ++ text).reverse, .single⟩
  | double {front written meant rest restMeant : List Char} {words : List (List Char)}
      (earlier : Words front words) (begun : Begun written meant)
      (inside : Inside rest restMeant) :
      Reads (front ++ written ++ '"' :: rest) ⟨words.reverse, (meant ++ restMeant).reverse, .double⟩
  | doubleEscape {front written meant rest restMeant : List Char} {words : List (List Char)}
      (earlier : Words front words) (begun : Begun written meant)
      (inside : Inside rest restMeant) :
      Reads (front ++ written ++ '"' :: (rest ++ ['\\']))
        ⟨words.reverse, (meant ++ restMeant).reverse, .doubleEscape⟩

/-! ## Putting things together -/

section Laws

variable {front written meant rest restMeant text gap : List Char} {words : List (List Char)}

theorem hasMeaning_iff {c : Char} : hasMeaning c ↔ c ∈ ['"', '\\', '$', '\x60'] := by
  simp [hasMeaning, or_assoc]

theorem Inside.append (inside : Inside written meant) (more : Inside rest restMeant) :
    Inside (written ++ rest) (meant ++ restMeant) := by
  induction inside with
  | nil => exact more
  | plain noQuote noBackslash _ ih => exact .plain noQuote noBackslash ih
  | escaped c _ ih =>
      rw [List.append_assoc]
      exact .escaped c ih

theorem Word.snoc (word : Word written meant) (last : Segment rest restMeant) :
    Word (written ++ rest) (meant ++ restMeant) := by
  induction word with
  | segment only => exact .cons only (.segment last)
  | cons first _ ih =>
      rw [List.append_assoc, List.append_assoc]
      exact .cons first ih

theorem Begun.snoc (begun : Begun written meant) (last : Segment rest restMeant) :
    Word (written ++ rest) (meant ++ restMeant) := by
  cases begun with
  | nothing => exact .segment last
  | word word => exact word.snoc last

theorem Begun.line (earlier : Words front words) (begun : Begun written meant) :
    ∃ words, Line (front ++ written) words := by
  cases begun with
  | nothing => exact ⟨words, by rw [List.append_nil]; exact .ended earlier⟩
  | word word => exact ⟨_, .going earlier word⟩

theorem Words.blank (earlier : Words front words) (blank : Text.allBlank gap) :
    Words (front ++ gap) words := by
  cases earlier with
  | nil before => exact .nil (by simp [before, blank])
  | snoc earlier word before some =>
      rw [List.append_assoc]
      exact .snoc earlier word (by simp [before, blank]) (by simp [some])

/-! ## Double quotes that are not closed -/

theorem Inside.dangling (inside : Inside written meant) (ends : Dangling rest) :
    Dangling (written ++ rest) := by
  induction inside with
  | nil => exact ends
  | plain noQuote noBackslash _ ih => exact .plain noQuote noBackslash ih
  | escaped c _ ih => exact .escaped c ih

theorem Dangling.of_cons {c : Char} (dangling : Dangling (c :: text)) (noBackslash : c ≠ '\\') :
    c ≠ '"' ∧ Dangling text := by
  cases dangling with
  | lone => exact absurd rfl noBackslash
  | plain noQuote _ rest => exact ⟨noQuote, rest⟩
  | escaped => exact absurd rfl noBackslash

theorem Dangling.of_escaped {c : Char} (dangling : Dangling ('\\' :: c :: text)) :
    Dangling text := by
  cases dangling with
  | plain _ noBackslash => exact absurd rfl noBackslash
  | escaped _ rest => exact rest

theorem Inside.not_dangling (inside : Inside written meant) (rest : List Char) :
    ¬Dangling (written ++ '"' :: rest) := by
  intro dangling
  induction inside with
  | nil => exact (dangling.of_cons (by decide)).1 rfl
  | plain _ noBackslash _ ih => exact ih (dangling.of_cons noBackslash).2
  | escaped c _ ih => exact ih dangling.of_escaped

theorem dangling_of_not_closes (text : List Char) (unclosed : ¬Closes '"' text) :
    Dangling text := by
  match text with
  | [] => exact .nil
  | c :: rest =>
      by_cases quote : c = '"'
      · subst quote
        exact absurd (.double .nil rest) unclosed
      by_cases backslash : c = '\\'
      · subst backslash
        match rest with
        | [] => exact .lone
        | d :: rest =>
            refine .escaped d (dangling_of_not_closes rest fun closes => unclosed ?_)
            cases closes with
            | double inside rest => exact .double (.escaped d inside) rest
      · refine .plain quote backslash (dangling_of_not_closes rest fun closes => unclosed ?_)
        cases closes with
        | double inside rest => exact .double (.plain quote backslash inside) rest

theorem Dangling.not_closes (dangling : Dangling text) : ¬Closes '"' text := by
  intro closes
  cases closes with
  | double inside rest => exact inside.not_dangling rest dangling

theorem not_closes_single_iff : ¬Closes '\'' text ↔ '\'' ∉ text := by
  constructor
  · intro unclosed quote
    obtain ⟨inside, rest, rfl⟩ := List.append_of_mem quote
    exact unclosed (.single inside rest)
  · rintro noQuote ⟨⟩
    simp at noQuote

/-! ## What a reader has read -/

/-- Outside quotes, a character that is not blank begins a segment or is one. -/
theorem Reads.visible (earlier : Words front words) (begun : Begun written meant) {c : Char}
    (visible : Text.isBlank c = false) (quoting : Quoting) :
    Reads (front ++ written ++ [c])
      (WordReader.bareStep ⟨words.reverse, meant.reverse, quoting⟩ c) := by
  unfold WordReader.bareStep
  simp only [visible, Bool.false_eq_true, if_false]
  split
  next quote =>
    subst quote
    have nothing : '\'' ∉ [] := List.not_mem_nil
    have reads := Reads.single earlier begun nothing
    rwa [List.append_nil] at reads
  next noQuote =>
    split
    next quote =>
      subst quote
      have reads := Reads.double earlier begun .nil
      rwa [List.append_nil] at reads
    next noDouble =>
      split
      next backslash =>
        subst backslash
        exact .escape earlier begun
      next noBackslash =>
        have plain : ∀ d ∈ [c], isPlain d := by
          simp [isPlain, visible, noQuote, noDouble, noBackslash]
        have reads := Reads.bare earlier (begun.snoc (.bare (by simp) plain))
        rwa [← List.append_assoc, List.reverse_append] at reads

/-- A character takes a reader from one state to another. -/
theorem Reads.step {reader : WordReader} (reads : Reads text reader) (c : Char) :
    Reads (text ++ [c]) (reader.step c) := by
  cases reads with
  | between earlier =>
      cases blank : Text.isBlank c with
      | true =>
          simp only [WordReader.step, WordReader.bareStep, blank, if_true]
          exact .between (earlier.blank (by simp [blank]))
      | false =>
          have reads := Reads.visible earlier .nothing blank .between
          rwa [List.append_nil] at reads
  | bare earlier word =>
      cases blank : Text.isBlank c with
      | true =>
          simp only [WordReader.step, WordReader.bareStep, blank, if_true, List.reverse_reverse]
          have isGap : Text.allBlank [c] := by simp [blank]
          have reads := Reads.between (.snoc earlier word isGap (List.cons_ne_nil c []))
          rwa [List.reverse_append] at reads
      | false => exact .visible earlier (.word word) blank .bare
  | escape earlier begun =>
      have escaped : Segment ['\\', c] [c] := .escaped (List.cons_ne_nil c [])
      have reads := Reads.bare earlier (begun.snoc escaped)
      simpa [WordReader.step, WordReader.keep] using reads
  | single earlier begun noQuote =>
      simp only [WordReader.step]
      split
      next quote =>
        subst quote
        have reads := Reads.bare earlier (begun.snoc (.single noQuote))
        simpa using reads
      next other =>
        have noQuote : '\'' ∉ _ ++ [c] :=
          List.not_mem_append noQuote (by simpa using Ne.symm other)
        have reads := Reads.single earlier begun noQuote
        simpa [WordReader.keep] using reads
  | double earlier begun inside =>
      simp only [WordReader.step]
      split
      next quote =>
        subst quote
        have reads := Reads.bare earlier (begun.snoc (.double inside))
        simpa using reads
      next noQuote =>
        split
        next backslash =>
          subst backslash
          have reads := Reads.doubleEscape earlier begun inside
          simpa using reads
        next noBackslash =>
          have reads := Reads.double earlier begun
            (inside.append (.plain noQuote noBackslash .nil))
          simpa [WordReader.keep] using reads
  | doubleEscape earlier begun inside =>
      have reads := Reads.double earlier begun (inside.append (.escaped c .nil))
      unfold unescaped at reads
      simp only [WordReader.step, hasMeaning_iff]
      split
      next special => simpa [special, WordReader.keep] using reads
      next ordinary => simpa [ordinary, WordReader.keep] using reads

/-- Whatever is written, a reader has read it. -/
theorem reads_foldl (text : List Char) : Reads text (text.foldl WordReader.step {}) := by
  induction text using List.reverseRecOn with
  | nil => exact .between (.nil rfl)
  | append_singleton text c ih =>
      rw [List.foldl_append]
      exact ih.step c

/-! ## Reading what is written -/

/-- Behind a word that is not begun, a character that is not blank does what it does in a word. -/
theorem step_between {c : Char} (visible : Text.isBlank c = false) (words : List (List Char))
    (read : List Char) :
    WordReader.step ⟨words, read, .between⟩ c = WordReader.step ⟨words, read, .bare⟩ c := by
  simp [WordReader.step, WordReader.bareStep, visible, WordReader.keep]

theorem foldl_plain (plain : ∀ c ∈ text, isPlain c) (words : List (List Char))
    (read : List Char) :
    text.foldl WordReader.step ⟨words, read, .bare⟩ = ⟨words, text.reverse ++ read, .bare⟩ := by
  induction text generalizing read with
  | nil => rfl
  | cons c text ih =>
      rw [List.forall_mem_cons] at plain
      have first : WordReader.step ⟨words, read, .bare⟩ c = ⟨words, c :: read, .bare⟩ := by
        have isPlain := plain.1
        simp only [WordReader.isPlain, Bool.and_eq_true, Bool.not_eq_true', bne_iff_ne] at isPlain
        simp [WordReader.step, WordReader.bareStep, isPlain, WordReader.keep]
      rw [List.foldl_cons, first, ih plain.2]
      simp

theorem foldl_escaped (text : List Char) (words : List (List Char)) (read : List Char) :
    (text.flatMap (['\\', ·])).foldl WordReader.step ⟨words, read, .bare⟩ =
      ⟨words, text.reverse ++ read, .bare⟩ := by
  induction text generalizing read with
  | nil => rfl
  | cons c text ih =>
      have first : ['\\', c].foldl WordReader.step ⟨words, read, .bare⟩ =
          ⟨words, c :: read, .bare⟩ := rfl
      rw [List.flatMap_cons, List.foldl_append, first, ih]
      simp

theorem foldl_single (noQuote : '\'' ∉ text) (words : List (List Char)) (read : List Char) :
    text.foldl WordReader.step ⟨words, read, .single⟩ =
      ⟨words, text.reverse ++ read, .single⟩ := by
  induction text generalizing read with
  | nil => rfl
  | cons c text ih =>
      rw [List.mem_cons, not_or] at noQuote
      have first : WordReader.step ⟨words, read, .single⟩ c = ⟨words, c :: read, .single⟩ := by
        simp [WordReader.step, Ne.symm noQuote.1, WordReader.keep]
      rw [List.foldl_cons, first, ih noQuote.2]
      simp

theorem Inside.foldl (inside : Inside written meant) (words : List (List Char))
    (read : List Char) :
    written.foldl WordReader.step ⟨words, read, .double⟩ =
      ⟨words, meant.reverse ++ read, .double⟩ := by
  induction inside generalizing read with
  | nil => rfl
  | @plain c _ _ noQuote noBackslash _ ih =>
      have first : WordReader.step ⟨words, read, .double⟩ c = ⟨words, c :: read, .double⟩ := by
        simp [WordReader.step, noQuote, noBackslash, WordReader.keep]
      rw [List.foldl_cons, first, ih]
      simp
  | escaped c _ ih =>
      have first : WordReader.step ⟨words, read, .doubleEscape⟩ c =
          ⟨words, (unescaped c).reverse ++ read, .double⟩ := by
        unfold unescaped
        simp only [WordReader.step, hasMeaning_iff]
        split
        next => rfl
        next => rfl
      change List.foldl _ (WordReader.step ⟨words, read, .doubleEscape⟩ c) _ = _
      rw [first, ih, List.reverse_append, List.append_assoc]

theorem Segment.foldl (segment : Segment written meant) (words : List (List Char))
    (read : List Char) :
    written.foldl WordReader.step ⟨words, read, .bare⟩ =
      ⟨words, meant.reverse ++ read, .bare⟩ := by
  cases segment with
  | bare _ plain => exact foldl_plain plain words read
  | escaped => exact foldl_escaped _ words read
  | single noQuote =>
      have opened : WordReader.step ⟨words, read, .bare⟩ '\'' = ⟨words, read, .single⟩ := rfl
      rw [List.foldl_cons, List.foldl_append, opened, foldl_single noQuote]
      rfl
  | double inside =>
      have opened : WordReader.step ⟨words, read, .bare⟩ '"' = ⟨words, read, .double⟩ := rfl
      rw [List.foldl_cons, List.foldl_append, opened, inside.foldl]
      rfl

theorem Word.foldl (word : Word written meant) (words : List (List Char)) (read : List Char) :
    written.foldl WordReader.step ⟨words, read, .bare⟩ =
      ⟨words, meant.reverse ++ read, .bare⟩ := by
  induction word generalizing read with
  | segment only => exact only.foldl words read
  | cons first _ ih =>
      rw [List.foldl_append, first.foldl, ih, List.reverse_append, List.append_assoc]

theorem Segment.exists_visible (segment : Segment written meant) :
    ∃ c rest, written = c :: rest ∧ Text.isBlank c = false := by
  cases segment with
  | bare some plain =>
      obtain ⟨c, rest, rfl⟩ := List.exists_cons_of_ne_nil some
      have isPlain := plain c List.mem_cons_self
      simp only [WordReader.isPlain, Bool.and_eq_true, Bool.not_eq_true'] at isPlain
      exact ⟨c, rest, rfl, isPlain.1.1.1⟩
  | escaped some =>
      obtain ⟨c, rest, rfl⟩ := List.exists_cons_of_ne_nil some
      exact ⟨'\\', _, rfl, rfl⟩
  | single => exact ⟨'\'', _, rfl, rfl⟩
  | double => exact ⟨'"', _, rfl, rfl⟩

/-- A word is begun and read. -/
theorem Word.foldl_between (word : Word written meant) (words : List (List Char)) :
    written.foldl WordReader.step ⟨words, [], .between⟩ = ⟨words, meant.reverse, .bare⟩ := by
  have begins : ∃ c rest, written = c :: rest ∧ Text.isBlank c = false := by
    cases word with
    | segment only => exact only.exists_visible
    | cons first =>
        obtain ⟨c, rest, rfl, visible⟩ := first.exists_visible
        exact ⟨c, _, rfl, visible⟩
  have read := word.foldl words []
  obtain ⟨c, rest, rfl, visible⟩ := begins
  rw [List.foldl_cons, ← step_between visible, List.append_nil] at read
  exact read

theorem foldl_blank (blank : Text.allBlank gap) (words : List (List Char)) :
    gap.foldl WordReader.step ⟨words, [], .between⟩ = ⟨words, [], .between⟩ := by
  induction gap with
  | nil => rfl
  | cons c gap ih =>
      simp only [Text.allBlank_cons, Bool.and_eq_true] at blank
      have first : WordReader.step ⟨words, [], .between⟩ c = ⟨words, [], .between⟩ := by
        simp [WordReader.step, WordReader.bareStep, blank.1]
      rw [List.foldl_cons, first, ih blank.2]

theorem Words.foldl (all : Words text words) :
    text.foldl WordReader.step {} = ⟨words.reverse, [], .between⟩ := by
  induction all with
  | nil blank => exact foldl_blank blank []
  | @snoc _ _ meant gap words _ word blank some ih =>
      obtain ⟨c, rest, rfl⟩ := List.exists_cons_of_ne_nil some
      simp only [Text.allBlank_cons, Bool.and_eq_true] at blank
      have ended : WordReader.step ⟨words.reverse, meant.reverse, .bare⟩ c =
          ⟨meant :: words.reverse, [], .between⟩ := by
        simp [WordReader.step, WordReader.bareStep, blank.1]
      rw [List.foldl_append, List.foldl_append, ih, word.foldl_between, List.foldl_cons, ended,
        foldl_blank blank.2, List.reverse_append]
      rfl

/-! ## What is read and what is refused -/

theorem spells_of_splitWords (split : splitWords text = .ok words) : Spells text words := by
  have reads := reads_foldl text
  unfold splitWords at split
  generalize text.foldl WordReader.step {} = reader at reads split
  cases reads with
  | between earlier =>
      simp only [WordReader.finish, List.reverse_reverse, Except.ok.injEq] at split
      exact split ▸ .line (.ended earlier)
  | bare earlier word =>
      simp only [WordReader.finish, List.reverse_cons, List.reverse_reverse,
        Except.ok.injEq] at split
      exact split ▸ .line (.going earlier word)
  | escape earlier begun =>
      simp only [WordReader.finish, List.reverse_cons, List.reverse_reverse,
        Except.ok.injEq] at split
      subst split
      cases begun with
      | nothing =>
          rw [List.append_nil]
          exact .lone earlier
      | word word => exact .cut earlier word
  | single => cases split
  | double => cases split
  | doubleEscape => cases split

theorem splitWords_of_spells (spells : Spells text words) : splitWords text = .ok words := by
  unfold splitWords
  cases spells with
  | line whole =>
      cases whole with
      | ended all => simp [all.foldl, WordReader.finish]
      | going earlier word =>
          rw [List.foldl_append, earlier.foldl, word.foldl_between]
          simp [WordReader.finish]
  | @cut _ _ meant words earlier word =>
      have ended : WordReader.step ⟨words.reverse, meant.reverse, .bare⟩ '\\' =
          ⟨words.reverse, meant.reverse, .escape⟩ := rfl
      rw [List.foldl_append, List.foldl_append, earlier.foldl, word.foldl_between, List.foldl_cons,
        ended]
      simp [WordReader.finish]
  | @lone _ words earlier =>
      have ended : WordReader.step ⟨words.reverse, [], .between⟩ '\\' =
          ⟨words.reverse, [], .escape⟩ := rfl
      rw [List.foldl_append, earlier.foldl, List.foldl_cons, ended]
      simp [WordReader.finish]

theorem leavesOpen_of_splitWords {quote : Char} (refused : splitWords text = .error quote) :
    LeavesOpen quote text := by
  have reads := reads_foldl text
  unfold splitWords at refused
  generalize text.foldl WordReader.step {} = reader at reads refused
  cases reads with
  | between => cases refused
  | bare => cases refused
  | escape => cases refused
  | single earlier begun noQuote =>
      cases refused
      obtain ⟨words, line⟩ := begun.line earlier
      exact ⟨by simp, _, words, _, rfl, line, not_closes_single_iff.mpr noQuote⟩
  | double earlier begun inside =>
      cases refused
      obtain ⟨words, line⟩ := begun.line earlier
      have dangling := inside.dangling .nil
      rw [List.append_nil] at dangling
      exact ⟨by simp, _, words, _, rfl, line, dangling.not_closes⟩
  | doubleEscape earlier begun inside =>
      cases refused
      obtain ⟨words, line⟩ := begun.line earlier
      exact ⟨by simp, _, words, _, rfl, line, (inside.dangling .lone).not_closes⟩

/-- Behind a double quote that is never closed, a reader does not come out of the quotes. -/
theorem Dangling.foldl (dangling : Dangling text) (reader : WordReader)
    (quoted : reader.quoting = .double) :
    (text.foldl WordReader.step reader).finish = .error '"' := by
  induction dangling generalizing reader with
  | nil => simp [WordReader.finish, quoted]
  | lone => simp [WordReader.step, WordReader.finish, quoted]
  | plain noQuote noBackslash _ ih =>
      apply ih
      simp [WordReader.step, quoted, noQuote, noBackslash, WordReader.keep]
  | escaped c _ ih =>
      apply ih
      by_cases special : hasMeaning c
      · simp [WordReader.step, quoted, special, WordReader.keep]
      · simp [WordReader.step, quoted, special, WordReader.keep]

/-- A quote is opened wherever every quote before it is closed. -/
theorem Line.foldl (line : Line front words) {quote : Char} {quoting : Quoting}
    (opens : ∀ reader : WordReader, reader.bareStep quote = { reader with quoting }) :
    ((front ++ [quote]).foldl WordReader.step {}).quoting = quoting := by
  rw [List.foldl_append]
  cases line with
  | ended all =>
      rw [all.foldl]
      exact congrArg WordReader.quoting (opens _)
  | going earlier word =>
      rw [List.foldl_append, earlier.foldl, word.foldl_between]
      exact congrArg WordReader.quoting (opens _)

theorem splitWords_of_leavesOpen {quote : Char} (leaves : LeavesOpen quote text) :
    splitWords text = .error quote := by
  obtain ⟨isQuote, front, words, rest, rfl, line, unclosed⟩ := leaves
  unfold splitWords
  rw [← List.singleton_append, ← List.append_assoc, List.foldl_append]
  rcases List.mem_cons.mp isQuote with rfl | isDouble
  · have opens (reader : WordReader) :
        reader.bareStep '\'' = { reader with quoting := .single } := rfl
    have opened := line.foldl opens
    generalize (front ++ ['\'']).foldl WordReader.step {} = reader at opened ⊢
    obtain ⟨words, word, quoting⟩ := reader
    subst opened
    rw [foldl_single (not_closes_single_iff.mp unclosed)]
    rfl
  · obtain rfl := List.mem_singleton.mp isDouble
    have opens (reader : WordReader) :
        reader.bareStep '"' = { reader with quoting := .double } := rfl
    have opened := line.foldl opens
    exact (dangling_of_not_closes rest unclosed).foldl _ opened

theorem splitWords_eq_ok_iff : splitWords text = .ok words ↔ Spells text words :=
  ⟨spells_of_splitWords, splitWords_of_spells⟩

theorem splitWords_eq_error_iff {quote : Char} :
    splitWords text = .error quote ↔ LeavesOpen quote text :=
  ⟨leavesOpen_of_splitWords, splitWords_of_leavesOpen⟩

end Laws

theorem wordsOf_eq_ok_iff {text : String} {words : List String} :
    wordsOf text = .ok words ↔ splitWords text.toList = .ok (words.map String.toList) := by
  unfold wordsOf
  cases splitWords text.toList with
  | error quote => exact iff_of_false nofun nofun
  | ok found =>
      simp only [Except.map, Except.ok.injEq]
      constructor
      · rintro rfl
        simp
      · rintro rfl
        simp

theorem wordsOf_eq_error_iff {text : String} {quote : Char} :
    wordsOf text = .error quote ↔ splitWords text.toList = .error quote := by
  unfold wordsOf
  cases splitWords text.toList with
  | error other => simp [Except.map]
  | ok found => exact iff_of_false nofun nofun

/-- The words that are read of a text are those that it spells: each of them segment by segment,
with blank characters between them and perhaps around them.  A text is refused just if it opens a
quote, outside quotes and with no backslash before it, that it never closes. -/
theorem words_are_spelled (text : String) :
    (∀ words, wordsOf text = .ok words ↔ Spells text.toList (words.map String.toList)) ∧
      ∀ quote, wordsOf text = .error quote ↔ LeavesOpen quote text.toList :=
  ⟨fun _ => wordsOf_eq_ok_iff.trans splitWords_eq_ok_iff,
    fun _ => wordsOf_eq_error_iff.trans splitWords_eq_error_iff⟩

end Spelling

end Console
