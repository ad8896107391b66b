import Console.Pattern.Search

/-!
# What a search way by way finds

Where a search goes on to, and what its groups have matched in the end, is said here by the text
that is left, whatever character stands before it.  There is a law for every kind of expression that
the patterns of commands are made of: what it leads to follows from what comes after it leads to.  A
repetition of a set has to be looked at from all places where it can stop.
-/

namespace Console.Regex

/-- What groups have matched, the latest first. -/
abbrev Matched := List (Nat × List Char)

/-- From any place where a text is left, and some groups have matched, a search leads to what all
groups have matched in the end, or to nothing. -/
def Leads (next : Cursor → Option Cursor) (rest : List Char) (groups : Matched)
    (found : Option Matched) : Prop :=
  ∀ before, (next ⟨before, rest, groups⟩).map Cursor.groups = found

/-- A search for an expression with what has to match after it. -/
def followedBy (regex : Regex) (next : Cursor → Option Cursor) : Cursor → Option Cursor :=
  fun cursor => regex.search cursor next

@[simp] theorem followedBy_apply (regex : Regex) (next : Cursor → Option Cursor) (cursor : Cursor) :
    regex.followedBy next cursor = regex.search cursor next := rfl

/-- The continuation that notes what a group has matched of a text. -/
def closing (index : Nat) (text : List Char) (next : Cursor → Option Cursor) :
    Cursor → Option Cursor := fun later =>
  next { later with
    groups := (index, text.take (text.length - later.rest.length)) :: later.groups }

@[simp] theorem choose_greedy {α : Type} (goOn stop : Unit → Option α) :
    choose true goOn stop = (goOn ()).or (stop ()) := by
  unfold choose
  cases goOn () <;> rfl

@[simp] theorem choose_lazy {α : Type} (goOn stop : Unit → Option α) :
    choose false goOn stop = (stop ()).or (goOn ()) := by
  unfold choose
  cases stop () <;> rfl

/-! ## One character of a set -/

section Set

variable {α : Type} {characters : Text.Ranges} {isOfBytes greedy : Bool} {before : Option Char}
variable {c : Char} {rest : List Char} {groups : Matched} {fuel : Nat} {next : Cursor → Option α}

@[simp] theorem search_set_nil :
    (set characters isOfBytes).search ⟨before, [], groups⟩ next = none := rfl

@[simp] theorem search_set_cons :
    (set characters isOfBytes).search ⟨before, c :: rest, groups⟩ next =
      if characters.has c then next ⟨some c, rest, groups⟩ else none := by
  simp only [search, Cursor.next?]
  split <;> rfl

@[simp] theorem more_set_nil :
    more (set characters isOfBytes).search greedy fuel ⟨before, [], groups⟩ next =
      next ⟨before, [], groups⟩ := by
  cases fuel with
  | zero => rfl
  | succ fuel => cases greedy <;> simp [more]

@[simp] theorem more_set_cons :
    more (set characters isOfBytes).search greedy (fuel + 1) ⟨before, c :: rest, groups⟩ next =
      choose greedy
        (fun _ =>
          if characters.has c then
            more (set characters isOfBytes).search greedy fuel ⟨some c, rest, groups⟩ next
          else none)
        (fun _ => next ⟨before, c :: rest, groups⟩) := by
  simp [more, Cursor.isPast]

theorem search_times {body : Regex} {least : Nat} {most : Option Nat} :
    (times body least most greedy).search =
      (atLeast body.search greedy least most : Search α) := rfl

theorem search_star_set :
    (times (set characters isOfBytes) 0 none greedy).search ⟨before, rest, groups⟩ next =
      more (set characters isOfBytes).search greedy rest.length ⟨before, rest, groups⟩ next := by
  rw [search_times, atLeast]
  cases rest with
  | nil => cases greedy <;> simp [atLeastOnce]
  | cons c rest => simp [atLeastOnce, Cursor.isPast]

theorem search_plus_set_nil :
    (times (set characters isOfBytes) 1 none greedy).search ⟨before, [], groups⟩ next = none := rfl

theorem search_plus_set_cons :
    (times (set characters isOfBytes) 1 none greedy).search ⟨before, c :: rest, groups⟩ next =
      if characters.has c then
        more (set characters isOfBytes).search greedy rest.length ⟨some c, rest, groups⟩ next
      else none := by
  rw [search_times, atLeast]
  simp [exactly, atLeastOnce, Cursor.isPast]

end Set

/-! ## What comes after leads on -/

namespace Leads

variable {next : Cursor → Option Cursor} {rest text : List Char} {groups : Matched}
variable {found : Option Matched}

theorem eq_none (leads : Leads next rest groups none) (before : Option Char) :
    next ⟨before, rest, groups⟩ = none := Option.map_eq_none_iff.mp (leads before)

theorem of_eq_none (fails : ∀ before, next ⟨before, rest, groups⟩ = none) :
    Leads next rest groups none := by
  intro before
  rw [fails before]
  rfl

theorem done : Leads some rest groups (some groups) := fun _ => rfl

theorem literal (leads : Leads next rest groups found) :
    Leads ((Regex.literal text).followedBy next) (text ++ rest) groups found := by
  intro before
  induction text generalizing before with
  | nil => exact leads before
  | cons c text ih => simpa [search, Cursor.after?, Cursor.next?] using ih (some c)

theorem literal_fails (apart : ¬text <+: rest) :
    Leads ((Regex.literal text).followedBy next) rest groups none := by
  intro before
  induction text generalizing rest before with
  | nil => simp at apart
  | cons c text ih =>
      cases rest with
      | nil => rfl
      | cons d rest =>
          rw [List.cons_prefix_cons] at apart
          by_cases same : d = c
          · simpa [search, Cursor.after?, Cursor.next?, same] using
              ih (fun leads => apart ⟨same.symm, leads⟩) (some d)
          · simp [search, Cursor.after?, Cursor.next?, same]

theorem finish (leads : Leads next [] groups found) :
    Leads ((look .finish).followedBy next) [] groups found := leads

theorem finish_fails (more : rest ≠ []) :
    Leads ((look .finish).followedBy next) rest groups none := by
  intro before
  obtain ⟨c, rest, rfl⟩ := List.exists_cons_of_ne_nil more
  rfl

theorem closing {index : Nat} (leads : Leads next rest ((index, text) :: groups) found) :
    Leads (Regex.closing index (text ++ rest) next) rest groups found := by
  intro before
  simpa [Regex.closing] using leads before

theorem capture {index : Nat} {body : Regex}
    (leads : Leads (body.followedBy (Regex.closing index rest next)) rest groups found) :
    Leads ((Regex.capture index body).followedBy next) rest groups found := leads

theorem seq {first second : Regex}
    (leads : Leads (first.followedBy (second.followedBy next)) rest groups found) :
    Leads ((Regex.seq first second).followedBy next) rest groups found := leads

/-! ### Parts that may be missing -/

variable {body : Regex} {result : Matched}

theorem optional_taken (leads : Leads (body.followedBy next) rest groups (some result)) :
    Leads ((times body 0 (some 1) true).followedBy next) rest groups (some result) := by
  intro before
  obtain ⟨last, reached, matched⟩ := Option.map_eq_some_iff.mp (leads before)
  rw [followedBy_apply] at reached
  simp [search_times, atLeast, exactly, atMost, reached, matched]

theorem optional_skipped (fails : Leads (body.followedBy next) rest groups none)
    (leads : Leads next rest groups found) :
    Leads ((times body 0 (some 1) true).followedBy next) rest groups found := by
  intro before
  have failed := fails.eq_none before
  rw [followedBy_apply] at failed
  simpa [search_times, atLeast, exactly, atMost, failed] using leads before

/-! ### Repetitions of a set -/

variable {characters : Text.Ranges} {isOfBytes greedy : Bool} {pre post : List Char}

/-- A repetition fails if what comes after it fails wherever it can stop. -/
theorem more_fails
    (stops : ∀ pre post, rest = pre ++ post → (∀ c ∈ pre, characters.has c) →
      Leads next post groups none) {fuel : Nat} (enough : rest.length ≤ fuel) :
    Leads (fun cursor => more (set characters isOfBytes).search greedy fuel cursor next) rest groups
      none := by
  apply of_eq_none
  intro before
  induction rest generalizing before fuel with
  | nil => simpa using (stops [] [] rfl (by simp)).eq_none before
  | cons c rest ih =>
      obtain ⟨fuel, rfl⟩ := Nat.exists_eq_add_one_of_ne_zero (n := fuel) (by simp at enough; omega)
      have here := (stops [] (c :: rest) rfl (by simp)).eq_none before
      have further : (if characters.has c then
          more (set characters isOfBytes).search greedy fuel ⟨some c, rest, groups⟩ next
          else none) = none := by
        split
        next taken =>
          refine ih ?_ (by simpa using enough) (some c)
          rintro pre post rfl within
          exact stops (c :: pre) post rfl (by simpa [taken] using within)
        next => rfl
      cases greedy <;> simp [here, further]

/-- A greedy repetition stops at the furthest place from which what comes after it leads on. -/
theorem more_greedy (within : ∀ c ∈ pre, characters.has c)
    (stops : ∀ mid last, post = mid ++ last → mid ≠ [] → (∀ c ∈ mid, characters.has c) →
      Leads next last groups none)
    (leads : Leads next post groups (some result)) {fuel : Nat}
    (enough : (pre ++ post).length ≤ fuel) :
    Leads (fun cursor => more (set characters isOfBytes).search true fuel cursor next) (pre ++ post)
      groups (some result) := by
  intro before
  induction pre generalizing before fuel with
  | nil =>
      cases post with
      | nil => simpa using leads before
      | cons c post =>
          obtain ⟨fuel, rfl⟩ :=
            Nat.exists_eq_add_one_of_ne_zero (n := fuel) (by simp at enough; omega)
          have here := leads before
          have further : (if characters.has c then
              more (set characters isOfBytes).search true fuel ⟨some c, post, groups⟩ next
              else none) = none := by
            split
            next taken =>
              refine (more_fails ?_ (by simpa using enough)).eq_none (some c)
              rintro mid last rfl within
              exact stops (c :: mid) last rfl (by simp) (by simpa [taken] using within)
            next => rfl
          simpa [further] using here
  | cons c pre ih =>
      obtain ⟨fuel, rfl⟩ := Nat.exists_eq_add_one_of_ne_zero (n := fuel) (by simp at enough; omega)
      simp only [List.forall_mem_cons] at within
      have further := ih within.2 (by simpa using enough) (some c)
      obtain ⟨last, reached, matched⟩ := Option.map_eq_some_iff.mp further
      simp [within.1, reached, matched]

/-- A lazy repetition stops at the first place from which what comes after it leads on. -/
theorem more_lazy (within : ∀ c ∈ pre, characters.has c)
    (stops : ∀ first mid, pre = first ++ mid → mid ≠ [] → Leads next (mid ++ post) groups none)
    (leads : Leads next post groups (some result)) {fuel : Nat}
    (enough : (pre ++ post).length ≤ fuel) :
    Leads (fun cursor => more (set characters isOfBytes).search false fuel cursor next)
      (pre ++ post)
      groups (some result) := by
  intro before
  induction pre generalizing before fuel with
  | nil =>
      cases post with
      | nil => simpa using leads before
      | cons c post =>
          obtain ⟨fuel, rfl⟩ :=
            Nat.exists_eq_add_one_of_ne_zero (n := fuel) (by simp at enough; omega)
          obtain ⟨last, reached, matched⟩ := Option.map_eq_some_iff.mp (leads before)
          simp [reached, matched]
  | cons c pre ih =>
      obtain ⟨fuel, rfl⟩ := Nat.exists_eq_add_one_of_ne_zero (n := fuel) (by simp at enough; omega)
      simp only [List.forall_mem_cons] at within
      have here : next ⟨before, c :: (pre ++ post), groups⟩ = none :=
        (stops [] (c :: pre) rfl (by simp)).eq_none before
      have further := ih within.2
        (fun first mid split => stops (c :: first) mid (by simp [split]))
        (by simpa using enough) (some c)
      simpa [within.1, here] using further

theorem star_greedy (within : ∀ c ∈ pre, characters.has c)
    (stops : ∀ mid last, post = mid ++ last → mid ≠ [] → (∀ c ∈ mid, characters.has c) →
      Leads next last groups none)
    (leads : Leads next post groups (some result)) :
    Leads ((times (set characters isOfBytes) 0 none true).followedBy next) (pre ++ post) groups
      (some result) := by
  intro before
  rw [followedBy_apply, search_star_set]
  exact more_greedy within stops leads (Nat.le_refl _) before

theorem star_fails
    (stops : ∀ pre post, rest = pre ++ post → (∀ c ∈ pre, characters.has c) →
      Leads next post groups none) :
    Leads ((times (set characters isOfBytes) 0 none greedy).followedBy next) rest groups none := by
  intro before
  rw [followedBy_apply, search_star_set]
  exact more_fails stops (Nat.le_refl _) before

theorem plus_greedy (within : ∀ c ∈ pre, characters.has c) (some : pre ≠ [])
    (stops : ∀ mid last, post = mid ++ last → mid ≠ [] → (∀ c ∈ mid, characters.has c) →
      Leads next last groups none)
    (leads : Leads next post groups (.some result)) :
    Leads ((times (set characters isOfBytes) 1 none true).followedBy next) (pre ++ post) groups
      (.some result) := by
  obtain ⟨c, pre, rfl⟩ := List.exists_cons_of_ne_nil some
  intro before
  simp only [List.forall_mem_cons] at within
  rw [followedBy_apply, List.cons_append, search_plus_set_cons, if_pos within.1]
  exact more_greedy within.2 stops leads (Nat.le_refl _) (.some c)

theorem plus_lazy (within : ∀ c ∈ pre, characters.has c) (some : pre ≠ [])
    (stops : ∀ first mid, pre = first ++ mid → first ≠ [] → mid ≠ [] →
      Leads next (mid ++ post) groups none)
    (leads : Leads next post groups (.some result)) :
    Leads ((times (set characters isOfBytes) 1 none false).followedBy next) (pre ++ post) groups
      (.some result) := by
  obtain ⟨c, pre, rfl⟩ := List.exists_cons_of_ne_nil some
  intro before
  simp only [List.forall_mem_cons] at within
  rw [followedBy_apply, List.cons_append, search_plus_set_cons, if_pos within.1]
  apply more_lazy within.2 ?_ leads (Nat.le_refl _) (.some c)
  rintro first mid rfl
  exact stops (c :: first) mid rfl (by simp)

theorem plus_fails
    (stops : ∀ pre post, rest = pre ++ post → pre ≠ [] → (∀ c ∈ pre, characters.has c) →
      Leads next post groups none) :
    Leads ((times (set characters isOfBytes) 1 none greedy).followedBy next) rest groups none := by
  intro before
  cases rest with
  | nil => rw [followedBy_apply, search_plus_set_nil, Option.map_none]
  | cons c rest =>
      rw [followedBy_apply, search_plus_set_cons]
      split
      next taken =>
        apply more_fails ?_ (Nat.le_refl _) (some c)
        rintro pre post rfl within
        exact stops (c :: pre) post rfl (by simp) (by simpa [taken] using within)
      next => rfl

/-! ### Repetitions that go as far as the set does -/

section Run

variable {run : List Char}

/-- A repetition stops within the characters of its set. -/
theorem exists_of_append_eq (ends : ∀ c ∈ rest.head?, characters.has c = false)
    (split : run ++ rest = pre ++ post) (within : ∀ c ∈ pre, characters.has c) :
    ∃ back, run = pre ++ back ∧ post = back ++ rest := by
  rcases List.append_eq_append_iff.mp split with ⟨beyond, rfl, behind⟩ | ⟨back, rfl, rfl⟩
  · cases beyond with
    | nil => exact ⟨[], by simp, by simpa using behind.symm⟩
    | cons c beyond =>
        have taken := within c (by simp)
        rw [ends c (by simp [behind])] at taken
        cases taken
  · exact ⟨back, rfl, rfl⟩

theorem not_in_set_after_run (ends : ∀ c ∈ rest.head?, characters.has c = false) :
    ∀ mid last, rest = mid ++ last → mid ≠ [] → (∀ c ∈ mid, characters.has c) →
      Leads next last groups none := by
  intro mid last split some within
  obtain ⟨c, mid, rfl⟩ := List.exists_cons_of_ne_nil some
  have taken := within c (by simp)
  rw [ends c (by simp [split])] at taken
  cases taken

theorem star_run (within : ∀ c ∈ run, characters.has c)
    (ends : ∀ c ∈ rest.head?, characters.has c = false)
    (leads : Leads next rest groups (some result)) :
    Leads ((times (set characters isOfBytes) 0 none true).followedBy next) (run ++ rest) groups
      (some result) :=
  leads.star_greedy within (not_in_set_after_run ends)

theorem plus_run (within : ∀ c ∈ run, characters.has c) (some : run ≠ [])
    (ends : ∀ c ∈ rest.head?, characters.has c = false)
    (leads : Leads next rest groups (.some result)) :
    Leads ((times (set characters isOfBytes) 1 none true).followedBy next) (run ++ rest) groups
      (.some result) :=
  leads.plus_greedy within some (not_in_set_after_run ends)

theorem star_run_fails (ends : ∀ c ∈ rest.head?, characters.has c = false)
    (stops : ∀ front back, run = front ++ back → Leads next (back ++ rest) groups none) :
    Leads ((times (set characters isOfBytes) 0 none greedy).followedBy next) (run ++ rest) groups
      none := by
  apply star_fails
  intro pre post split within
  obtain ⟨back, whole, rfl⟩ := exists_of_append_eq ends split within
  exact stops pre back whole

theorem plus_run_fails (ends : ∀ c ∈ rest.head?, characters.has c = false)
    (stops : ∀ front back, run = front ++ back → front ≠ [] →
      Leads next (back ++ rest) groups none) :
    Leads ((times (set characters isOfBytes) 1 none greedy).followedBy next) (run ++ rest) groups
      none := by
  apply plus_fails
  intro pre post split some within
  obtain ⟨back, whole, rfl⟩ := exists_of_append_eq ends split within
  exact stops pre back whole some

theorem plus_fails_here (ends : ∀ c ∈ rest.head?, characters.has c = false) :
    Leads ((times (set characters isOfBytes) 1 none greedy).followedBy next) rest groups none := by
  rw [← List.nil_append rest]
  apply plus_run_fails ends
  intro front back split some
  exact absurd (List.append_eq_nil_iff.mp split.symm).1 some

end Run

end Leads

/-! ## Patterns that are bound to the start -/

/-- A pattern that is bound to the start is searched for there only. -/
theorem groupsByWays?_of_leads {body : Regex} {text : List Char} {found : Option Matched}
    (leads : Leads (body.followedBy some) text [] found) :
    (seq (look .start) body).groupsByWays? text = found := by
  have nowhere (c : Char) (rest : List Char) :
      (seq (look .start) body).searchFrom (some c) rest = none := by
    induction rest generalizing c with
    | nil => rfl
    | cons d rest ih => simpa [searchFrom, search, Look.holds] using ih d
  have here := leads none
  rw [followedBy_apply] at here
  rw [groupsByWays?]
  cases text with
  | nil => exact here
  | cons c rest =>
      rw [searchFrom, nowhere]
      have bound : (seq (look .start) body).search ⟨none, c :: rest, []⟩ some =
          body.search ⟨none, c :: rest, []⟩ some := rfl
      rw [bound]
      cases reached : body.search ⟨none, c :: rest, []⟩ some with
      | none => rwa [reached] at here
      | some last => rwa [reached] at here

end Console.Regex
