import Console.Proofs.Command.Options
import Console.Proofs.Command.Recalling
import Console.Proofs.History.Windows

/-!
# What `hist` lists

Whatever options choose the lines, those that are listed stand behind the numbers that they have in
the history.  They are written, and nothing else is done.
-/

namespace Console

theorem numberedLines_ne_empty (colours : Bool) {entries : List (Nat × String)}
    (some : entries ≠ []) : (numberedLines colours entries).isEmpty = false := by
  obtain ⟨⟨number, line⟩, rest, rfl⟩ := List.exists_cons_of_ne_nil some
  rw [← Bool.not_eq_true, String.isEmpty_iff, ← String.toList_eq_nil_iff]
  simp [numberedLines, joinWith, Text.joinWith_cons, numberedLine, String.toList_append]

/-- A single line stands behind its number. -/
theorem numberedLines_singleton (colours : Bool) (number : Nat) (line : String) :
    numberedLines colours [(number, line)] =
      Colour.blue.paintIf colours (natText number) ++ ": " ++ line := by
  have column : natColumn (Text.natDigits number).length number = natText number := by
    simp [natColumn, natText]
  unfold numberedLines numberedLine
  simp only [List.getLast?_singleton, List.map_cons, List.map_nil, column]
  exact String.ofList_toList

namespace Commands

/-! ## Choosing lines -/

/-- The pattern that the listed lines have to match, if any; `none` if it cannot be read. -/
def listedPattern? (given : Flags.Given) : Option (Option Pattern) :=
  match given.text? "grep" with
  | none => some none
  | some source => (Pattern.read source).toOption.map some

/-- The window that lines are listed from; `none` if there is no such window. -/
def listedSlice? (past : HistorySlice) (given : Flags.Given) : Option HistorySlice :=
  match given.count? "head", given.count? "tail", given.text? "show" with
  | some count, _, _ => some (past.head count)
  | none, some count, _ => some (past.tail count)
  | none, none, some text => (LineRange.ofText? text).bind past.select?
  | none, none, none => some past

/-- The lines that `hist` lists with some options; `none` if it does something else or fails. -/
def listed? (catalogue : Catalogue) (past : HistorySlice) (given : Flags.Given) :
    Option (List (Nat × String)) :=
  if given.has "clear" || (given.text? "replay").isSome then none
  else do
    let pattern ← listedPattern? given
    let slice ← listedSlice? past given
    some (shownEntries catalogue pattern (given.has "exclude") slice)

section

variable {catalogue : Catalogue} {past slice : HistorySlice} {given : Flags.Given}
  {entries : List (Nat × String)} {number : Nat} {line : String}

theorem within_of_listedSlice? (found : listedSlice? past given = some slice) :
    slice.Within past := by
  unfold listedSlice? at found
  split at found
  · cases found
    exact .head past _
  · cases found
    exact .tail past _
  · obtain ⟨range, _, selected⟩ := Option.bind_eq_some_iff.mp found
    exact .select selected
  · cases found
    exact .refl past

theorem mem_entries_of_mem_shownEntries {pattern : Option Pattern} {exclude : Bool}
    (member : (number, line) ∈ shownEntries catalogue pattern exclude slice) :
    (number, line) ∈ slice.entries := by
  have matching {entries : List (Nat × String)} {test : Nat × String → Bool}
      (member : (number, line) ∈ if exclude then entries.filter test else entries) :
      (number, line) ∈ entries := by
    split at member
    · exact (List.mem_filter.mp member).1
    · exact member
  unfold shownEntries at member
  cases pattern with
  | none => exact matching member
  | some pattern => exact HistorySlice.mem_entries_of_mem_grep (matching member)

/-- What is listed are lines of the history with their numbers. -/
theorem mem_entries_of_mem_listed? (listed : listed? catalogue past given = some entries)
    (member : (number, line) ∈ entries) : (number, line) ∈ past.entries := by
  unfold listed? at listed
  split at listed
  · cases listed
  · simp only [Option.bind_eq_bind, Option.bind_eq_some_iff, Option.some.injEq] at listed
    obtain ⟨pattern, _, slice, found, rfl⟩ := listed
    exact (within_of_listedSlice? found).mem_entries (mem_entries_of_mem_shownEntries member)

end

/-! ## Listing them -/

open Console.Action

variable {around : Surroundings} {given : Flags.Given} {desk : Desk}
  {entries : List (Nat × String)}

theorem grepPattern_of_listedPattern? {pattern : Option Pattern}
    (found : listedPattern? given = some pattern) : grepPattern given = pure pattern := by
  unfold listedPattern? at found
  unfold grepPattern
  cases sought : given.text? "grep" with
  | none =>
      rw [sought] at found
      cases found
      rfl
  | some source =>
      rw [sought] at found
      dsimp only at found ⊢
      cases read : Pattern.read source with
      | error error =>
          rw [read] at found
          cases found
      | ok pattern =>
          rw [read] at found
          cases found
          rfl

theorem shownSlice_of_listedSlice? {past slice : HistorySlice}
    (found : listedSlice? past given = some slice) : shownSlice past given = pure slice := by
  unfold listedSlice? at found
  unfold shownSlice
  cases head : given.count? "head" with
  | some count =>
      rw [head] at found
      cases found
      rfl
  | none =>
      cases tail : given.count? "tail" with
      | some count =>
          rw [head, tail] at found
          cases found
          rfl
      | none =>
          rw [head, tail] at found
          cases shown : given.text? "show" with
          | none =>
              rw [shown] at found
              cases found
              rfl
          | some text =>
              rw [shown] at found
              obtain ⟨range, read, selected⟩ := Option.bind_eq_some_iff.mp found
              have reads : readRange text = pure range := by rw [readRange, read]
              dsimp only
              rw [reads, pure_bind, selected]

/-- An open output is written to. -/
theorem ensures_say (isOpen : desk.transcript.Open) (text : String) :
    (say text).Ensures desk
      (fun _ after => after =
        { desk with transcript := desk.transcript.wrote (text ++ "\n") })
      fun _ _ => False := by
  unfold Ensures
  rw [say_of_open isOpen]

/-- What is to be listed is written, and nothing else is done. -/
theorem ensures_showHistory (isOpen : desk.transcript.Open)
    (listed : listed? around.catalogue (around.past desk.history) given = some entries)
    (some : entries ≠ []) :
    (showHistory around given).Ensures desk
      (fun _ after => after =
        { desk with
          transcript := desk.transcript.wrote
            (numberedLines around.settings.colours entries ++ "\n") })
      fun _ _ => False := by
  unfold listed? at listed
  split at listed
  · cases listed
  simp only [Option.bind_eq_bind, Option.bind_eq_some_iff, Option.some.injEq] at listed
  obtain ⟨pattern, patternFound, slice, sliceFound, rfl⟩ := listed
  unfold showHistory
  rw [grepPattern_of_listedPattern? patternFound, pure_bind]
  apply Ensures.get
  rw [shownSlice_of_listedSlice? sliceFound, pure_bind]
  simp only [numberedLines_ne_empty _ some, Bool.not_false, if_true]
  exact ensures_say isOpen _

theorem ensures_hist_of_listed? {arguments : List (Option String)}
    (options : histSpec.read (arguments.filterMap id) = .ok given)
    (isOpen : desk.transcript.Open)
    (listed : listed? around.catalogue (around.past desk.history) given = some entries)
    (some : entries ≠ []) :
    (hist around arguments).Ensures desk
      (fun outcome after => outcome = .next ∧ after =
        { desk with
          transcript := desk.transcript.wrote
            (numberedLines around.settings.colours entries ++ "\n") })
      fun _ _ => False := by
  have showing := listed
  unfold listed? at showing
  split at showing
  · cases showing
  next neither =>
    simp only [Bool.or_eq_true, not_or, Bool.not_eq_true, Option.isSome_eq_false_iff,
      Option.isNone_iff_eq_none] at neither
    obtain ⟨kept, notReplayed⟩ := neither
    unfold hist readFlags
    rw [options]
    dsimp only
    rw [pure_bind]
    simp only [kept, notReplayed, Bool.false_eq_true, if_false]
    apply Ensures.bind
    exact (ensures_showHistory isOpen listed some).mono (fun _ _ shown => ⟨rfl, shown⟩)
      fun _ _ none => none

end Commands

theorem eq_ok_of_toOption {ε α : Type} {result : Except ε α} {value : α}
    (found : result.toOption = some value) : result = .ok value := by
  cases result with
  | error error => cases found
  | ok other =>
      cases found
      rfl

namespace Registry

/-- A line whose command is known, and what it is given, is dispatched to it. -/
theorem ensures_dispatch_of_arguments {registry : Registry} {line : String} {command : Command}
    {recognized : Recognized} {arguments : List (Option String)}
    (found : registry.find? line = some (command, recognized))
    (given : command.arguments recognized.captures = .ok arguments) {around : Surroundings}
    {desk : Desk} {done : Dispatched → Desk → Prop} {failed : Error → Desk → Prop}
    (ensured : ∀ message, (command.handler around arguments).Ensures
      { desk with transcript := desk.transcript.log .debug message }
      (fun outcome => done (.handled outcome)) failed) :
    (registry.dispatch around line).Ensures desk done failed := by
  unfold dispatch
  rw [found]
  apply Action.Ensures.bind
  apply Action.Ensures.bind
  rw [given]
  apply Action.Ensures.pure
  apply Action.Ensures.bind
  exact ensured _

/-- The lines of the history that a line makes `hist` list. -/
def listed? (registry : Registry) (past : HistorySlice) (line : String) :
    Option (List (Nat × String)) :=
  (registry.histGiven? line).bind (Commands.listed? registry.catalogue past)

variable {line : String} {given : Flags.Given} {entries : List (Nat × String)}

theorem exists_of_histGiven? (options : builtin.histGiven? line = some given) :
    ∃ command recognized arguments, builtin.find? line = some (command, recognized) ∧
      command.handler = Commands.hist ∧ command.arguments recognized.captures = .ok arguments ∧
      Commands.histSpec.read (arguments.filterMap id) = .ok given := by
  unfold histGiven? at options
  split at options
  · cases options
  next command recognized found =>
    split at options
    next named =>
      obtain ⟨arguments, given, read⟩ := Option.bind_eq_some_iff.mp options
      refine ⟨command, recognized, arguments, found,
        (recalls_builtin command (mem_of_find?_eq_some found)).hist named, ?_, ?_⟩
      · exact eq_ok_of_toOption given
      · exact eq_ok_of_toOption read
    · cases options

/-- The lines that a line lists are written. -/
theorem ensures_dispatch_of_listed? {around : Surroundings} {desk : Desk}
    (catalogue : around.catalogue = builtin.catalogue) (isOpen : desk.transcript.Open)
    (listed : builtin.listed? (around.past desk.history) line = some entries)
    (some : entries ≠ []) :
    (builtin.dispatch around line).Ensures desk
      (fun dispatched after => dispatched = .handled .next ∧ ∃ message, after =
        { desk with
          transcript := (desk.transcript.log .debug message).wrote
            (numberedLines around.settings.colours entries ++ "\n") })
      fun _ _ => False := by
  obtain ⟨given, options, listed⟩ := Option.bind_eq_some_iff.mp listed
  obtain ⟨command, recognized, arguments, found, isHist, arguable, read⟩ :=
    exists_of_histGiven? options
  refine ensures_dispatch_of_arguments found arguable fun message => ?_
  rw [isHist]
  rw [← catalogue] at listed
  let logged : Desk := { desk with transcript := desk.transcript.log .debug message }
  have stillOpen : logged.transcript.Open := (Transcript.Extends.add _ _).isOpen isOpen
  refine (Commands.ensures_hist_of_listed? read stillOpen listed some).mono ?_ fun _ _ none => none
  intro outcome after ⟨next, shown⟩
  exact ⟨congrArg _ next, message, shown⟩

end Registry

end Console
