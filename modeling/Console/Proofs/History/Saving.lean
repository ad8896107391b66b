import Console.Proofs.History
import Mathlib.Data.List.DropRight
import Mathlib.Data.List.Induction

/-!
# What a save writes

A history is used with one file that nothing else writes to: lines are pushed, the file is loaded,
the history is saved and forgotten, in any order.  What a save writes is told from the operations
before it, without cursors.  Only a file that is loaded while lines wait for a save makes a
difference: its lines count as saved, and so do those that wait.
-/

namespace Console

/-- What is done to a history that is kept in a file. -/
inductive HistoryOperation where
  | push (line : String)
  | load
  | save
  | clear
  deriving DecidableEq, Repr

namespace HistoryOperation

/-- Does it to a history, with the file that a path leads to; `none` if the file resists. -/
def run (path : String) (state : History × Storage) :
    HistoryOperation → Option (History × Storage)
  | push line => some (state.1.push line, state.2)
  | clear => some (state.1.clear, state.2)
  | load =>
      match state.1.load path state.2 with
      | (.ok _, after) => some after
      | (.error _, _) => none
  | save =>
      match state.1.save path state.2 with
      | (.ok _, after) => some after
      | (.error _, _) => none

/-- Does one thing after another. -/
def runAll (path : String) (state : History × Storage) (operations : List HistoryOperation) :
    Option (History × Storage) :=
  operations.foldlM (run path) state

/-- The line that is pushed. -/
def pushed? : HistoryOperation → Option String
  | push line => some line
  | _ => none

/-- Nothing waits for a save any more. -/
def settles : HistoryOperation → Bool
  | save | clear => true
  | push _ | load => false

/-- The lines pushed since the last operation of some kinds. -/
def pushedSince (last : HistoryOperation → Bool) (operations : List HistoryOperation) :
    List String :=
  (operations.rtakeWhile fun operation => !last operation).filterMap pushed?

/-- The lines pushed since the history was last saved or forgotten. -/
def unsettled : List HistoryOperation → List String := pushedSince settles

/-- Whether there is a file, since it was there at first or has been made by a save. -/
def isThere (file : Option Utf8.Bytes) (operations : List HistoryOperation) : Bool :=
  file.isSome || operations.contains .save

/-- The lines that the next save writes: those pushed since the history was last saved or forgotten,
and since the file, if there is one, was last loaded. -/
def unsaved (file : Option Utf8.Bytes) (operations : List HistoryOperation) : List String :=
  pushedSince
    (fun operation => operation.settles || isThere file operations && operation == .load) operations

/-- Whenever the file is found and loaded, no line waits for a save. -/
def LoadsSettled (file : Option Utf8.Bytes) (operations : List HistoryOperation) : Prop :=
  ∀ number < operations.length, operations[number]? = some .load →
    isThere file (operations.take number) → unsettled (operations.take number) = []

instance (file : Option Utf8.Bytes) (operations : List HistoryOperation) :
    Decidable (LoadsSettled file operations) :=
  inferInstanceAs (Decidable (∀ number < operations.length, _))

theorem runAll_concat (path : String) (state : History × Storage)
    (operations : List HistoryOperation) (operation : HistoryOperation) :
    runAll path state (operations ++ [operation]) =
      (runAll path state operations).bind fun before => operation.run path before := by
  unfold runAll
  rw [List.foldlM_append]
  congr 1
  funext before
  exact bind_pure (operation.run path before)

theorem pushedSince_concat (last : HistoryOperation → Bool) (operations : List HistoryOperation)
    (operation : HistoryOperation) :
    pushedSince last (operations ++ [operation]) =
      if last operation then [] else pushedSince last operations ++ operation.pushed?.toList := by
  unfold pushedSince
  rw [List.rtakeWhile_concat]
  by_cases isLast : last operation
  · simp [isLast]
  · cases pushed : operation.pushed? <;> simp [isLast, pushed]

/-- The earlier the lines end, the more of them there are. -/
theorem pushedSince_suffix {last earlier : HistoryOperation → Bool}
    (ends : ∀ operation, earlier operation → last operation) (operations : List HistoryOperation) :
    pushedSince last operations <:+ pushedSince earlier operations := by
  induction operations using List.reverseRecOn with
  | nil => exact List.suffix_refl []
  | append_singleton operations operation ih =>
      rw [pushedSince_concat, pushedSince_concat]
      by_cases isEarlier : earlier operation
      · simp [isEarlier, ends operation isEarlier]
      · rw [if_neg isEarlier]
        split
        · exact List.nil_suffix
        · obtain ⟨before, same⟩ := ih
          rw [← same, List.append_assoc]
          exact List.suffix_append before _

theorem isThere_concat (file : Option Utf8.Bytes) (operations : List HistoryOperation)
    (operation : HistoryOperation) :
    isThere file (operations ++ [operation]) =
      (isThere file operations || decide (operation = .save)) := by
  simp [isThere, Bool.or_assoc, eq_comm]

theorem unsettled_concat (operations : List HistoryOperation) (operation : HistoryOperation) :
    unsettled (operations ++ [operation]) =
      if operation.settles then [] else unsettled operations ++ operation.pushed?.toList :=
  pushedSince_concat settles operations operation

theorem unsaved_concat (file : Option Utf8.Bytes) (operations : List HistoryOperation)
    (operation : HistoryOperation) :
    unsaved file (operations ++ [operation]) =
      if operation.settles ∨ (isThere file operations ∧ operation = .load) then []
      else unsaved file operations ++ operation.pushed?.toList := by
  unfold unsaved
  rw [pushedSince_concat, isThere_concat]
  cases operation with
  | save | clear => rfl
  | push line | load => simp [settles]

theorem unsaved_suffix (file : Option Utf8.Bytes) (operations : List HistoryOperation) :
    unsaved file operations <:+ unsettled operations :=
  pushedSince_suffix (fun _ settles => Bool.or_eq_true_iff.mpr (.inl settles)) operations

theorem LoadsSettled.of_concat {file : Option Utf8.Bytes} {operations : List HistoryOperation}
    {operation : HistoryOperation} (settled : LoadsSettled file (operations ++ [operation])) :
    LoadsSettled file operations := by
  intro number inside isLoad
  have same : (operations ++ [operation]).take number = operations.take number :=
    List.take_append_of_le_length inside.le
  rw [← same]
  refine settled number (List.length_append ▸ Nat.lt_add_right _ inside) ?_
  rw [List.getElem?_append_left inside, isLoad]

theorem LoadsSettled.last {file : Option Utf8.Bytes} {operations : List HistoryOperation}
    (settled : LoadsSettled file (operations ++ [.load])) (found : isThere file operations) :
    unsettled operations = [] := by
  have here := settled operations.length
  rw [List.take_left] at here
  exact here (by simp) (by simp) found

/-- If no line waits when the file is loaded, the next save writes all that wait for it. -/
theorem LoadsSettled.unsaved {file : Option Utf8.Bytes} {operations : List HistoryOperation}
    (settled : LoadsSettled file operations) :
    HistoryOperation.unsaved file operations = unsettled operations := by
  induction operations using List.reverseRecOn with
  | nil => rfl
  | append_singleton operations operation ih =>
      rw [unsaved_concat, unsettled_concat, ih settled.of_concat]
      cases operation with
      | save | clear | push line => simp [settles]
      | load =>
          by_cases found : isThere file operations
          · simp [settled.last found, found, pushed?]
          · simp [found, settles]

variable {path : String} {names : List String} {storage : Storage}
  {file : Option Utf8.Bytes} {operations : List HistoryOperation} {state : History × Storage}

/-- What a history and its file have come to after some operations. -/
structure Awaits (path : String) (names : List String) (file : Option Utf8.Bytes)
    (operations : List HistoryOperation) (state : History × Storage) : Prop where
  stored : ∃ now, state.2.Provides path names now ∧ now.isSome = isThere file operations
  bounded : state.1.Bounded
  pending : state.1.pending = unsaved file operations

namespace Awaits

/-- Every operation succeeds; a save appends what is unsaved, and no other operation writes. -/
theorem run (awaits : Awaits path names file operations state) (operation : HistoryOperation) :
    ∃ after, operation.run path state = some after ∧
      Awaits path names file (operations ++ [operation]) after ∧
        after.2.bytesAt path = state.2.bytesAt path ++
          if operation = .save then History.bytesOf (unsaved file operations) else [] := by
  obtain ⟨history, storage⟩ := state
  obtain ⟨⟨now, provides, found⟩, bounded, pending⟩ := awaits
  dsimp only at provides bounded pending
  have there := isThere_concat file operations operation
  rw [← found] at there
  cases operation with
  | push line =>
      refine ⟨_, rfl, ⟨⟨now, provides, ?_⟩, bounded.push line, ?_⟩, (List.append_nil _).symm⟩
      · rw [there]
        exact (Bool.or_false _).symm
      · rw [bounded.pending_push, unsaved_concat, pending]
        simp [settles, pushed?]
  | clear =>
      refine ⟨_, rfl, ⟨⟨now, provides, ?_⟩, Nat.le_refl 0, ?_⟩, (List.append_nil _).symm⟩
      · rw [there]
        exact (Bool.or_false _).symm
      · rw [unsaved_concat]
        rfl
  | load =>
      obtain ⟨after, loads, becomes⟩ := history.load_spec provides
      have providesStill := becomes.provides provides
      refine ⟨(history.loaded now, after), ?_,
        ⟨⟨now, providesStill, ?_⟩, bounded.loaded now, ?_⟩, ?_⟩
      · simp only [HistoryOperation.run, loads]
      · rw [there]
        exact (Bool.or_false _).symm
      · rw [History.pending_loaded, unsaved_concat, pending, ← found]
        simp [settles, pushed?]
      · rw [providesStill.leads.bytesAt, provides.leads.bytesAt]
        exact (List.append_nil _).symm
  | save =>
      obtain ⟨after, saves, becomes⟩ := history.save_spec provides
      have providesStill := becomes.provides provides
      refine ⟨(history.flushed, after), ?_,
        ⟨⟨_, providesStill, ?_⟩, history.bounded_flushed, ?_⟩, ?_⟩
      · simp only [HistoryOperation.run, saves]
      · rw [there]
        exact (Bool.or_true _).symm
      · rw [history.pending_flushed, unsaved_concat]
        rfl
      · rw [providesStill.leads.bytesAt, provides.leads.bytesAt, ← pending]
        rfl

theorem start (provides : storage.Provides path names file) :
    Awaits path names file [] ({}, storage) where
  stored := ⟨file, provides, (Bool.or_false _).symm⟩
  bounded := Nat.le_refl 0
  pending := rfl

theorem runAll (provides : storage.Provides path names file)
    (operations : List HistoryOperation) :
    ∃ after, HistoryOperation.runAll path ({}, storage) operations = some after ∧
      Awaits path names file operations after := by
  induction operations using List.reverseRecOn with
  | nil => exact ⟨_, rfl, start provides⟩
  | append_singleton operations operation ih =>
      obtain ⟨before, ranBefore, awaits⟩ := ih
      obtain ⟨after, ran, awaitsAfter, _⟩ := awaits.run operation
      refine ⟨after, ?_, awaitsAfter⟩
      rw [runAll_concat, ranBefore]
      exact ran

end Awaits

/-- Whatever has been done to a history and its file, in any order, a save appends the lines that
were pushed since the history was last saved or forgotten and since the file, if it was there, was
last loaded; nothing else is ever written.  So lines that wait for a save are passed over only by
a load that comes between, and none are if no lines wait when the file is loaded. -/
theorem save_writes_unsaved (path : String) (names : List String) (file : Option Utf8.Bytes)
    (storage : Storage) (provides : storage.Provides path names file)
    (operations : List HistoryOperation) :
    ∃ before, HistoryOperation.runAll path ({}, storage) operations = some before ∧
      (∀ operation : HistoryOperation, ∃ after, operation.run path before = some after ∧
        after.2.bytesAt path = before.2.bytesAt path ++
          if operation = .save then History.bytesOf (unsaved file operations) else []) ∧
      unsaved file operations <:+ unsettled operations ∧
      (LoadsSettled file operations → unsaved file operations = unsettled operations) := by
  obtain ⟨before, ran, awaits⟩ := Awaits.runAll provides operations
  refine ⟨before, ran, ?_, unsaved_suffix file operations, LoadsSettled.unsaved⟩
  intro operation
  obtain ⟨after, runs, _, bytes⟩ := awaits.run operation
  exact ⟨after, runs, bytes⟩

theorem save_writes_unsaved_around_load :
    ∃ before after, runAll "history" ({}, {}) [.push "a", .save, .load, .push "b"] = some before ∧
      save.run "history" before = some after ∧
        after.2.bytesAt "history" = before.2.bytesAt "history" ++ Utf8.ofText "b\n" := by
  have provides : ({} : Storage).Provides "history" ["history"] none :=
    ⟨by simp [Storage.Calm], rfl⟩
  obtain ⟨before, ran, writes, _, writesAll⟩ := save_writes_unsaved "history" ["history"] none {}
    provides [.push "a", .save, .load, .push "b"]
  obtain ⟨after, saves, bytes⟩ := writes .save
  rw [if_pos rfl, writesAll (by decide)] at bytes
  exact ⟨before, after, ran, saves, bytes⟩

/-- A line that waits when the file is loaded is never written. -/
theorem load_passes_over_pushed_line :
    ∃ before after : History × Storage,
      runAll "history" ({}, History.onlyFile (Utf8.ofText "old\n")) [.push "a", .load] =
        some before ∧
      save.run "history" before = some after ∧
      unsettled [.push "a", .load] = ["a"] ∧
      after.2.bytesAt "history" ≠
        before.2.bytesAt "history" ++ History.bytesOf (unsettled [.push "a", .load]) := by
  have provides := History.provides_onlyFile (Utf8.ofText "old\n")
  obtain ⟨before, ran, awaits⟩ := Awaits.runAll provides [.push "a", .load]
  obtain ⟨after, saves, _, bytes⟩ := awaits.run .save
  refine ⟨before, after, ran, saves, rfl, ?_⟩
  rw [bytes, if_pos rfl]
  intro same
  exact absurd (List.append_cancel_left same) (by decide)

end HistoryOperation

end Console
