import Console.History
import Console.Proofs.Storage

/-!
# A history and its file

As long as nothing is made to fail from outside, loading a file, looking at it and saving to it
succeed.  What they return and what becomes of the history and of the file is told from the lines of
the history and the bytes of the file alone.
-/

namespace Console.History

/-- No more lines count as saved than there are. -/
def Bounded (history : History) : Prop := history.saved ≤ history.size

theorem Bounded.pending_push {history : History} (bounded : history.Bounded) (line : String) :
    (history.push line).pending = history.pending ++ [line] :=
  List.drop_append_of_le_length bounded

theorem Bounded.push {history : History} (bounded : history.Bounded) (line : String) :
    (history.push line).Bounded := by
  refine Nat.le_trans bounded ?_
  rw [size, size, History.push, List.length_append]
  exact Nat.le_add_right ..

theorem pending_flushed (history : History) : history.flushed.pending = [] :=
  List.drop_eq_nil_of_le (Nat.le_refl _)

theorem bounded_flushed (history : History) : history.flushed.Bounded := Nat.le_refl _

/-- The history after a file has been loaded, if there is one. -/
def loaded (history : History) : Option Utf8.Bytes → History
  | none => history
  | some bytes => flushed ⟨history.entries ++ linesOfFile bytes, 0⟩

theorem Bounded.loaded {history : History} (bounded : history.Bounded) (file : Option Utf8.Bytes) :
    (history.loaded file).Bounded := by
  cases file with
  | none => exact bounded
  | some bytes => exact bounded_flushed _

/-- Whatever the file holds, its lines do not have to be saved. -/
theorem pending_loaded (history : History) (file : Option Utf8.Bytes) :
    (history.loaded file).pending = if file.isSome then [] else history.pending := by
  cases file with
  | none => rfl
  | some bytes => exact pending_flushed _

/-- If all lines count as saved, a missing file is like an empty one. -/
theorem loaded_of_saved (history : History) (saved : history.saved = history.size)
    (file : Option Utf8.Bytes) :
    history.loaded file = flushed ⟨history.entries ++ linesOfFile (file.getD []), 0⟩ := by
  cases file with
  | some bytes => rfl
  | none =>
      have same : flushed ⟨history.entries, 0⟩ = history := congrArg (mk history.entries) saved.symm
      have nothing : linesOfFile ((none : Option Utf8.Bytes).getD []) = [] := rfl
      rw [nothing, List.append_nil, same]
      rfl

section

variable {storage : Storage} {path : String} {names : List String} {file : Option Utf8.Bytes}

theorem load_spec (history : History) (provides : storage.Provides path names file) :
    ∃ after, history.load path storage =
        (.ok (file.map fun bytes => (linesOfFile bytes).length), history.loaded file, after) ∧
      storage.Becomes names file file after := by
  obtain ⟨after, read, becomes⟩ := provides.calm.read provides.leads
  refine ⟨after, ?_, becomes⟩
  unfold load
  rw [read]
  cases file <;> rfl

theorem linesOnDisk_spec (provides : storage.Provides path names file) :
    ∃ after, linesOnDisk path storage = (.ok ((file.getD []).count 0x0A), after) ∧
      storage.Becomes names file file after := by
  obtain ⟨after, read, becomes⟩ := provides.calm.read provides.leads
  refine ⟨after, ?_, becomes⟩
  unfold linesOnDisk
  rw [read]
  cases file <;> rfl

/-- Writing appends just the pending lines; a file that is there is there afterwards. -/
theorem writePending_spec (history : History) (provides : storage.Provides path names file) :
    ∃ now after, history.writePending path storage = (.ok (), after) ∧
      storage.Becomes names file now after ∧
        now.getD [] = file.getD [] ++ bytesOf history.pending ∧ (file.isSome → now.isSome) := by
  unfold writePending
  cases pending : history.pending with
  | nil => exact ⟨file, storage, rfl, ⟨provides.calm, fun _ => id⟩, (List.append_nil _).symm, id⟩
  | cons line rest =>
      obtain ⟨after, appended, becomes⟩ :=
        provides.calm.append provides.leads (bytesOf (line :: rest))
      exact ⟨_, after, appended, becomes, rfl, fun _ => rfl⟩

/-- Saving makes the file if it is missing and appends just the pending lines to it. -/
theorem save_spec (history : History) (provides : storage.Provides path names file) :
    ∃ after, history.save path storage =
        (.ok ⟨(file.getD []).count 0x0A, history.pending.length⟩, history.flushed, after) ∧
      storage.Becomes names file (some (file.getD [] ++ bytesOf history.pending)) after := by
  obtain ⟨looked, counted, becomes⟩ := linesOnDisk_spec provides
  have providesLooked := becomes.provides provides
  obtain ⟨opened, openedFile, becomesOpen⟩ := providesLooked.calm.openAppend providesLooked.leads
  have providesOpen := becomesOpen.provides providesLooked
  obtain ⟨now, after, written, becomesLast, content, stays⟩ :=
    history.writePending_spec providesOpen
  obtain ⟨bytes, rfl⟩ := Option.isSome_iff_exists.mp (stays rfl)
  refine ⟨after, ?_, ?_⟩
  · simp only [save, counted, appendPending, openedFile, written]
  · rw [Option.getD_some, Option.getD_some] at content
    rw [← content]
    exact (becomes.trans becomesOpen).trans becomesLast

theorem leads_linesOnDisk (leads : storage.LeadsTo path names file) :
    (linesOnDisk path storage).2.LeadsTo path names file := by
  have read := leads.read (.path path)
  unfold linesOnDisk
  split <;> simp_all

theorem leads_of_writePending {history : History} {after : Storage} {bytes : Utf8.Bytes}
    (leads : storage.LeadsTo path names (some bytes))
    (written : history.writePending path storage = (.ok (), after)) :
    after.LeadsTo path names (some (bytes ++ bytesOf history.pending)) := by
  unfold writePending at written
  split at written
  next nothing =>
    cases written
    rw [List.isEmpty_iff] at nothing
    rw [nothing, bytesOf, List.flatMap_nil, List.append_nil]
    exact leads
  next => exact leads.append written

/-- A save that succeeds has appended the pending lines, whatever might have failed. -/
theorem leads_of_save {history next : History} {saved : Saved} {after : Storage}
    (leads : storage.LeadsTo path names file)
    (saves : history.save path storage = (.ok saved, next, after)) :
    after.LeadsTo path names (some (file.getD [] ++ bytesOf history.pending)) := by
  have looked := leads_linesOnDisk leads
  unfold save at saves
  split at saves
  next => cases saves
  next counts =>
    rw [counts] at looked
    split at saves
    next => cases saves
    next appends =>
      cases saves
      unfold appendPending at appends
      split at appends
      next => cases appends
      next opens => exact leads_of_writePending (looked.openAppend opens) appends

end

/-- Files with nothing but a history file. -/
def onlyFile (bytes : Utf8.Bytes) : Storage := ({} : Storage).put ["history"] (.file bytes)

theorem provides_onlyFile (bytes : Utf8.Bytes) :
    (onlyFile bytes).Provides "history" ["history"] (some bytes) := by
  have missing : ({} : Storage).LeadsTo "history" ["history"] none :=
    (rfl : ({} : Storage).find "history" = _)
  constructor
  · intro fault member
    cases member
  · exact missing.put bytes

end Console.History
