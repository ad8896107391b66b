import Console.Editor.Process
import Console.Proofs.Text.Decimal
import Console.Proofs.Words

/-!
# What becomes of an edit

An editor that is a program is told by what its command line spells and by what the host does with
the program, wherever that is: either the program is started on the file, and what it leaves is what
the edit leaves, or nothing is touched.  No shell has a part in this, and every program can be
named, whatever characters its path has.
-/

namespace Console.Editor

open Spelling (Spells LeavesOpen Words Word)

/-! ## What a command line names -/

theorem programAndArguments_eq_ok_iff {command name : String} {arguments : List String} :
    programAndArguments command = .ok (name, arguments) ↔
      Spells command.toList ((name :: arguments).map String.toList) := by
  rw [← Spelling.splitWords_eq_ok_iff, ← Spelling.wordsOf_eq_ok_iff]
  unfold programAndArguments
  split
  next refused =>
    rw [refused]
    exact iff_of_false nofun nofun
  next none =>
    rw [none]
    exact iff_of_false nofun nofun
  next program words found =>
    rw [found, Except.ok.injEq, Except.ok.injEq, Prod.mk.injEq, List.cons.injEq]

theorem programAndArguments_eq_error_iff {command : String} {error : EditorError} :
    programAndArguments command = .error error ↔
      (∃ quote, LeavesOpen quote command.toList ∧ error = .unmatchedQuote quote) ∨
        Spells command.toList [] ∧ error = .notConfigured := by
  simp only [← Spelling.splitWords_eq_error_iff, ← Spelling.wordsOf_eq_error_iff]
  rw [← Spelling.splitWords_eq_ok_iff, ← List.map_nil (f := String.toList),
    ← Spelling.wordsOf_eq_ok_iff]
  unfold programAndArguments
  split
  next quote refused =>
    rw [refused]
    simp [eq_comm]
  next none =>
    rw [none]
    simp [eq_comm]
  next program words found =>
    rw [found]
    simp

/-- Every word can be written. -/
theorem exists_word (meant : List Char) : ∃ written, Word written meant := by
  cases meant with
  | nil => exact ⟨_, .segment (.single List.not_mem_nil)⟩
  | cons c rest => exact ⟨_, .segment (.escaped (List.cons_ne_nil c rest))⟩

theorem exists_words (words : List (List Char)) : ∃ text, Words text words := by
  induction words using List.reverseRecOn with
  | nil => exact ⟨[], .nil rfl⟩
  | append_singleton words word ih =>
      obtain ⟨front, earlier⟩ := ih
      obtain ⟨written, spelled⟩ := exists_word word
      have blank : Text.allBlank [' '] := by decide
      exact ⟨_, .snoc earlier spelled blank (List.cons_ne_nil _ _)⟩

/-- Every program can be named, with any arguments. -/
theorem exists_programAndArguments (name : String) (arguments : List String) :
    ∃ command, programAndArguments command = .ok (name, arguments) := by
  obtain ⟨text, all⟩ := exists_words ((name :: arguments).map String.toList)
  refine ⟨.ofList text, programAndArguments_eq_ok_iff.mpr ?_⟩
  rw [String.toList_ofList]
  exact .line (.ended all)

example : programAndArguments "\"/opt/My Editor/bin/edit\" --wait" =
    .ok ("/opt/My Editor/bin/edit", ["--wait"]) := by
  decide

/-! ## What an edit leaves -/

/-- The file name that an editor is given leads to what is to be edited. -/
theorem locate_text (location : Location) : locate location location.text = location :=
  if_pos rfl

theorem resultOf_eq_ok_iff {name : String} {ending : Ending} :
    resultOf name ending = .ok () ↔ ending = .status 0 := by
  cases ending with
  | signal number => exact iff_of_false nofun nofun
  | status code =>
      cases code with
      | zero => exact iff_of_true rfl rfl
      | succ code => exact iff_of_false nofun nofun

/-- The number of a line is nothing that an argument may not hold. -/
theorem nul_not_mem_lineArgument (line : Nat) :
    '\x00' ∉ ("+" ++ natText (max line 1)).toList := by
  rw [String.toList_append, List.mem_append]
  rintro (isPlus | isDigit)
  · cases isPlus with
    | tail _ none => cases none
  · rw [natText, String.toList_ofList] at isDigit
    have digit := Text.isDigit_of_mem_natDigits isDigit
    cases digit

/-- The program that a command line names has been started on a location, at a line, and has come
back. -/
inductive Started (host : Host) (environment : Environment) (command : String)
    (location : Location) (line : Nat) (before : Storage) : String → ProgramRun → Prop
  | intro {name : String} {arguments : List String} {run : ProgramRun}
      (spells : Spells command.toList ((name :: arguments).map String.toList))
      (allowed : ∀ word ∈ location.text :: name :: arguments, '\x00' ∉ word.toList)
      (start : host.start (locate location) environment name
        (arguments ++ ["+" ++ natText (max line 1), location.text]) before = .ok run) :
      Started host environment command location line before name run

section

variable {host : Host} {environment : Environment} {command : String} {location : Location}
  {line : Nat} {before : Storage}

theorem process_eq {name : String} {arguments : List String}
    (names : programAndArguments command = .ok (name, arguments)) :
    process host command environment =
      { command := some command
        edit := fun _ location line storage =>
          launch host environment name arguments location line storage } := by
  unfold process
  rw [names]

theorem forbidden_iff {name : String} {arguments : List String} :
    ((name :: (arguments ++ ["+" ++ natText (max line 1), location.text])).any
      fun word => word.toList.contains '\x00') = false ↔
        ∀ word ∈ location.text :: name :: arguments, '\x00' ∉ word.toList := by
  have plain := nul_not_mem_lineArgument line
  simp only [List.any_eq_false, List.contains_iff_mem, List.mem_cons, List.mem_append]
  grind

/-- What the program leaves is what the edit leaves. -/
theorem edit_of_started {name : String} {run : ProgramRun}
    (started : Started host environment command location line before name run) (count : Nat) :
    (process host command environment).edit count location line before =
      { result := resultOf name run.ending
        storage := run.storage
        shown := run.shown
        complaints := run.complaints } := by
  obtain ⟨spells, allowed, start⟩ := started
  rw [process_eq (programAndArguments_eq_ok_iff.mpr spells)]
  dsimp only [launch]
  rw [forbidden_iff.mpr allowed, start]
  rfl

/-- Unless a program is started, nothing is touched and nothing is shown. -/
theorem edit_of_not_started (none : ∀ name run,
      ¬Started host environment command location line before name run) (count : Nat) :
    ∃ error, (process host command environment).edit count location line before =
      { result := .error error, storage := before } := by
  cases names : programAndArguments command with
  | error error =>
      refine ⟨error, ?_⟩
      unfold process
      rw [names]
  | ok named =>
      obtain ⟨name, arguments⟩ := named
      rw [process_eq names]
      dsimp only [launch]
      split
      · exact ⟨_, rfl⟩
      next allowed =>
        split
        · exact ⟨_, rfl⟩
        next run start =>
          refine absurd (.intro (programAndArguments_eq_ok_iff.mp names) ?_ start) (none name run)
          exact forbidden_iff.mp (Bool.eq_false_iff.mpr allowed)

/-- An edit succeeds just if the program that the command line spells is started on the file, at the
line, and ends with status 0. -/
theorem edit_eq_ok_iff (count : Nat) :
    ((process host command environment).edit count location line before).result = .ok () ↔
      ∃ name run, Started host environment command location line before name run ∧
        run.ending = .status 0 := by
  constructor
  · intro succeeded
    by_cases some : ∃ name run, Started host environment command location line before name run
    · obtain ⟨name, run, started⟩ := some
      rw [edit_of_started started] at succeeded
      exact ⟨name, run, started, resultOf_eq_ok_iff.mp succeeded⟩
    · have none : ∀ name run, ¬Started host environment command location line before name run :=
        fun name run started => some ⟨name, run, started⟩
      obtain ⟨error, failed⟩ := edit_of_not_started none count
      rw [failed] at succeeded
      cases succeeded
  · rintro ⟨name, run, started, done⟩
    rw [edit_of_started started]
    exact resultOf_eq_ok_iff.mpr done

end

end Console.Editor
