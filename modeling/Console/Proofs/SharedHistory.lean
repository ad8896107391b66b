import Console.Proofs.History
import Mathlib.Data.List.Induction
import Mathlib.Logic.Function.Basic

/-!
# A history file that is shared

Any number of histories are saved to one file, each by a process of its own.  The stages of a save
are steps of their own, so that other processes may come between them; only the writing itself is
in one piece.  What the file holds is compared with a ledger that knows nothing of cursors, files
or stages.
-/

namespace Console

/-- How far a process has come with the save it is in. -/
inductive SaveStage where
  | resting
  /-- The lines of the file have been counted. -/
  | looked (onDisk : Nat)
  /-- The file is open. -/
  | opened (onDisk : Nat)
  deriving DecidableEq, Repr

/-- A step of a process with its history. -/
inductive HistoryAct where
  | load
  | push (line : String)
  | clear
  /-- A save begins with a look at the file. -/
  | look
  /-- The save opens the file. -/
  | openFile
  /-- The save writes what is pending, and is done. -/
  | write
  deriving DecidableEq, Repr

/-- Histories that share the files, how far their processes have come, and what the saves have
returned so far. -/
structure SharedHistory (Store : Type) where
  storage : Storage
  histories : Store → History := fun _ => {}
  stages : Store → SaveStage := fun _ => .resting
  returned : List (Store × Saved) := []

/-- Whether a process can take a step of a kind. -/
def SaveStage.allows : SaveStage → HistoryAct → Prop
  | resting, .load | resting, .push _ | resting, .clear | resting, .look => True
  | looked _, .openFile => True
  | opened _, .write => True
  | _, _ => False

namespace SharedHistory

variable {Store : Type} [DecidableEq Store]

/-- Changes the history of a store. -/
def withHistory (shared : SharedHistory Store) (store : Store) (history : History) :
    SharedHistory Store :=
  { shared with histories := Function.update shared.histories store history }

/-- Changes how far the process of a store has come. -/
def withStage (shared : SharedHistory Store) (store : Store) (stage : SaveStage) :
    SharedHistory Store :=
  { shared with stages := Function.update shared.stages store stage }

/-- A save returns. -/
def withReturn (shared : SharedHistory Store) (store : Store) (saved : Saved) :
    SharedHistory Store :=
  { shared with returned := shared.returned ++ [(store, saved)] }

/-- A step of the process of a store, as far as its stage allows it and it does not fail.  Each
store knows the file by a path of its own. -/
def take (paths : Store → String) (shared : SharedHistory Store) (store : Store)
    (act : HistoryAct) : Option (SharedHistory Store) :=
  let history := shared.histories store
  match shared.stages store, act with
  | .resting, .load =>
      match history.load (paths store) shared.storage with
      | (.ok _, history, storage) => some ({ shared with storage }.withHistory store history)
      | (.error _, _, _) => none
  | .resting, .push line => some (shared.withHistory store (history.push line))
  | .resting, .clear => some (shared.withHistory store history.clear)
  | .resting, .look =>
      match History.linesOnDisk (paths store) shared.storage with
      | (.ok onDisk, storage) => some ({ shared with storage }.withStage store (.looked onDisk))
      | (.error _, _) => none
  | .looked onDisk, .openFile =>
      match shared.storage.openAppend (.path (paths store)) with
      | (.ok (), storage) => some ({ shared with storage }.withStage store (.opened onDisk))
      | (.error _, _) => none
  | .opened onDisk, .write =>
      match history.writePending (paths store) shared.storage with
      | (.ok (), storage) =>
          some ({ shared with storage }
            |>.withHistory store history.flushed
            |>.withStage store .resting
            |>.withReturn store ⟨onDisk, history.pending.length⟩)
      | (.error _, _) => none
  | _, _ => none

/-- Steps of the processes, one after the other in whatever order. -/
def run (paths : Store → String) (shared : SharedHistory Store)
    (acts : List (Store × HistoryAct)) : Option (SharedHistory Store) :=
  acts.foldlM (fun shared (store, act) => shared.take paths store act) shared

end SharedHistory

/-- What is to be expected of the saves: for each store the lines that it has pushed since its
previous save or clear, and what the saves so far have written, each with its store. -/
structure Ledger (Store : Type) where
  unsaved : Store → List String := fun _ => []
  saves : List (Store × List String) := []

namespace Ledger

variable {Store : Type} [DecidableEq Store]

/-- Enters a step. -/
def add (ledger : Ledger Store) (entry : Store × HistoryAct) : Ledger Store :=
  match entry with
  | (store, .push line) =>
      { ledger with
        unsaved := Function.update ledger.unsaved store (ledger.unsaved store ++ [line]) }
  | (store, .clear) => { ledger with unsaved := Function.update ledger.unsaved store [] }
  | (store, .write) =>
      { unsaved := Function.update ledger.unsaved store []
        saves := ledger.saves ++ [(store, ledger.unsaved store)] }
  | (_, .load) | (_, .look) | (_, .openFile) => ledger

/-- The ledger of some steps. -/
def of (acts : List (Store × HistoryAct)) : Ledger Store := acts.foldl add {}

/-- The bytes that the saves have written, in order. -/
def written (ledger : Ledger Store) : Utf8.Bytes :=
  ledger.saves.flatMap fun save => History.bytesOf save.2

/-- The lines that the saves of a store have written, in order. -/
def linesOf (ledger : Ledger Store) (store : Store) : List String :=
  (ledger.saves.filter (·.1 = store)).flatMap Prod.snd

theorem of_append (acts more : List (Store × HistoryAct)) :
    of (acts ++ more) = more.foldl add (of acts) := List.foldl_append

theorem of_concat (acts : List (Store × HistoryAct)) (entry : Store × HistoryAct) :
    of (acts ++ [entry]) = (of acts).add entry := of_append acts [entry]

/-- A store that has pushed nothing has nothing to save. -/
theorem unsaved_of_no_push {acts : List (Store × HistoryAct)} {store : Store}
    (none : ∀ line, (store, .push line) ∉ acts) : (of acts).unsaved store = [] := by
  induction acts using List.reverseRecOn with
  | nil => rfl
  | append_singleton earlier entry ih =>
      obtain ⟨other, act⟩ := entry
      have before := ih fun line member => none line (List.mem_append_left _ member)
      rw [of_concat]
      cases act with
      | load | look | openFile => exact before
      | push line =>
          have isOther : store ≠ other := by
            rintro rfl
            exact none line (List.mem_append_right _ (List.mem_singleton_self _))
          exact (Function.update_of_ne isOther ..).trans before
      | clear | write =>
          simp only [add, Function.update_apply, before, ite_self]

/-- Saves are only ever added. -/
theorem saves_prefix (ledger : Ledger Store) (acts : List (Store × HistoryAct)) :
    ledger.saves <+: (acts.foldl add ledger).saves := by
  induction acts generalizing ledger with
  | nil => exact List.prefix_rfl
  | cons entry later ih =>
      obtain ⟨store, act⟩ := entry
      refine List.IsPrefix.trans ?_ (ih (ledger.add (store, act)))
      cases act with
      | write => exact List.prefix_append ..
      | load | push line | clear | look | openFile => exact List.prefix_rfl

/-- What becomes of the lines that a store has pushed and not saved yet: whichever it does first,
clearing its history or completing a save. -/
def fate (store : Store) : List (Store × HistoryAct) → Option HistoryAct
  | [] => none
  | (other, act) :: later =>
      if other = store ∧ (act = .clear ∨ act = .write) then some act else fate store later

/-- The lines that a store pushes and does not clear before it completes its next save. -/
def kept (store : Store) : List (Store × HistoryAct) → List String
  | [] => []
  | (other, .push line) :: later =>
      if other = store ∧ fate store later = some .write then line :: kept store later
      else kept store later
  | _ :: later => kept store later

/-- The saves of a store write what it has not saved when it comes to the next one, and then the
lines that it keeps. -/
theorem linesOf_foldl (ledger : Ledger Store) (acts : List (Store × HistoryAct)) (store : Store) :
    (acts.foldl add ledger).linesOf store =
      ledger.linesOf store ++
        ((if fate store acts = some .write then ledger.unsaved store else []) ++
          kept store acts) := by
  -- The ledger is generalised: what it holds as unsaved is decided by the first step that settles
  -- it.
  induction acts generalizing ledger with
  | nil => simp [fate, kept]
  | cons entry later ih =>
      obtain ⟨other, act⟩ := entry
      rw [List.foldl_cons, ih]
      by_cases isOwn : other = store
      · subst isOwn
        cases act with
        | push line =>
            simp only [add, linesOf, Function.update_self, fate, kept, reduceCtorEq, or_self,
              and_false, if_false, true_and]
            by_cases isKept : fate other later = some .write
            · rw [if_pos isKept, if_pos isKept, if_pos isKept, List.append_assoc,
                List.singleton_append]
            · rw [if_neg isKept, if_neg isKept, if_neg isKept]
        | clear => simp [add, fate, kept, linesOf]
        | write => simp [add, fate, kept, linesOf]
        | load | look | openFile => simp [add, fate, kept]
      · have elsewhere : store ≠ other := Ne.symm isOwn
        cases act with
        | push line => simp [add, fate, kept, linesOf, isOwn, elsewhere]
        | clear | write => simp [add, fate, kept, linesOf, isOwn, elsewhere]
        | load | look | openFile => simp [add, fate, kept]

/-- A line is written exactly once, and in its place among the lines of its store, if it is kept;
and no other line is written. -/
theorem linesOf_of (acts : List (Store × HistoryAct)) (store : Store) :
    (of acts).linesOf store = kept store acts := by
  have written := linesOf_foldl {} acts store
  rw [ite_self] at written
  exact written

end Ledger

/-- Every store loads the file, if at all, before it first pushes a line. -/
def LoadsFirst {Store : Type} (acts : List (Store × HistoryAct)) : Prop :=
  ∀ earlier store later, acts = earlier ++ (store, .load) :: later →
    ∀ line, (store, .push line) ∉ earlier

theorem LoadsFirst.of_append {Store : Type} {acts more : List (Store × HistoryAct)}
    (first : LoadsFirst (acts ++ more)) : LoadsFirst acts := by
  intro earlier store later split
  refine first earlier store (later ++ more) ?_
  rw [split, List.append_assoc, List.cons_append]

namespace SharedHistory

variable {Store : Type} [DecidableEq Store]

/-- The histories and the file agree with a ledger. -/
structure Agrees (paths : Store → String) (names : List String) (before : Utf8.Bytes)
    (ledger : Ledger Store) (shared : SharedHistory Store) : Prop where
  calm : shared.storage.Calm
  file : ∃ file, (∀ store, shared.storage.LeadsTo (paths store) names file) ∧
    file.getD [] = before ++ ledger.written
  pending : ∀ store, (shared.histories store).pending = ledger.unsaved store
  bounded : ∀ store, (shared.histories store).Bounded
  returned : (shared.returned.map fun entry => (entry.1, entry.2.written)) =
    ledger.saves.map fun save => (save.1, save.2.length)

namespace Agrees

variable {paths : Store → String} {names : List String} {initial : Utf8.Bytes}
  {ledger : Ledger Store} {shared : SharedHistory Store}

omit [DecidableEq Store] in
theorem provides {file : Option Utf8.Bytes} (agrees : Agrees paths names initial ledger shared)
    (leads : ∀ store, shared.storage.LeadsTo (paths store) names file) (store : Store) :
    shared.storage.Provides (paths store) names file :=
  ⟨agrees.calm, leads store⟩

/-- Changing the history of one store concerns the others neither in the ledger. -/
theorem update (store : Store) {history : History} {lines : List String}
    (pending : ∀ store, (shared.histories store).pending = ledger.unsaved store)
    (now : history.pending = lines) (other : Store) :
    (Function.update shared.histories store history other).pending =
      Function.update ledger.unsaved store lines other := by
  by_cases isOwn : other = store
  · subst isOwn
    rw [Function.update_self, Function.update_self, now]
  · rw [Function.update_of_ne isOwn, Function.update_of_ne isOwn, pending other]

theorem update_bounded {store : Store} {history : History}
    (bounded : ∀ store, (shared.histories store).Bounded) (now : history.Bounded) (other : Store) :
    (Function.update shared.histories store history other).Bounded := by
  by_cases isOwn : other = store
  · subst isOwn
    rwa [Function.update_self]
  · rw [Function.update_of_ne isOwn]
    exact bounded other

theorem push (agrees : Agrees paths names initial ledger shared) (store : Store) (line : String) :
    Agrees paths names initial (ledger.add (store, .push line))
      (shared.withHistory store ((shared.histories store).push line)) where
  calm := agrees.calm
  file := agrees.file
  pending := by
    refine update store agrees.pending ?_
    rw [(agrees.bounded store).pending_push, agrees.pending]
  bounded := update_bounded agrees.bounded ((agrees.bounded store).push line)
  returned := agrees.returned

theorem clear (agrees : Agrees paths names initial ledger shared) (store : Store) :
    Agrees paths names initial (ledger.add (store, .clear))
      (shared.withHistory store (shared.histories store).clear) where
  calm := agrees.calm
  file := agrees.file
  pending := update store agrees.pending rfl
  bounded := update_bounded agrees.bounded (Nat.le_refl 0)
  returned := agrees.returned

omit [DecidableEq Store] in
/-- A stage of a save that does not write concerns the files only. -/
theorem withStorage {storage : Storage} {file now : Option Utf8.Bytes}
    (agrees : Agrees paths names initial ledger shared)
    (leads : ∀ store, shared.storage.LeadsTo (paths store) names file)
    (becomes : shared.storage.Becomes names file now storage)
    (content : now.getD [] = initial ++ ledger.written) :
    Agrees paths names initial ledger { shared with storage } where
  calm := becomes.calm
  file := ⟨now, fun store => becomes.leads _ (leads store), content⟩
  pending := agrees.pending
  bounded := agrees.bounded
  returned := agrees.returned

theorem withStage (agrees : Agrees paths names initial ledger shared) (store : Store)
    (stage : SaveStage) : Agrees paths names initial ledger (shared.withStage store stage) :=
  ⟨agrees.calm, agrees.file, agrees.pending, agrees.bounded, agrees.returned⟩

/-- What is pending is written behind what the file holds, and the save returns how many lines
these are. -/
theorem write {storage : Storage} {file now : Option Utf8.Bytes} {store : Store}
    (agrees : Agrees paths names initial ledger shared)
    (leads : ∀ store, shared.storage.LeadsTo (paths store) names file)
    (content : file.getD [] = initial ++ ledger.written)
    (becomes : shared.storage.Becomes names file now storage)
    (written : now.getD [] = file.getD [] ++ History.bytesOf (shared.histories store).pending)
    (onDisk : Nat) :
    Agrees paths names initial (ledger.add (store, .write))
      ({ shared with storage }
        |>.withHistory store (shared.histories store).flushed
        |>.withStage store .resting
        |>.withReturn store ⟨onDisk, (shared.histories store).pending.length⟩) where
  calm := becomes.calm
  file := by
    refine ⟨now, fun store => becomes.leads _ (leads store), ?_⟩
    rw [written, content, agrees.pending, List.append_assoc]
    simp only [Ledger.written, Ledger.add, List.flatMap_append, List.flatMap_cons,
      List.flatMap_nil, List.append_nil]
  pending := update store agrees.pending (History.pending_flushed _)
  bounded := update_bounded agrees.bounded (Nat.le_refl _)
  returned := by
    have earlier := agrees.returned
    have count := congrArg List.length (agrees.pending store)
    simp only [withReturn, SharedHistory.withStage, withHistory, Ledger.add, List.map_append,
      List.map_singleton, earlier, count]

theorem take {store : Store} {act : HistoryAct} {after : SharedHistory Store}
    (agrees : Agrees paths names initial ledger shared)
    (taken : shared.take paths store act = some after)
    (first : act = .load → ledger.unsaved store = []) :
    Agrees paths names initial (ledger.add (store, act)) after := by
  obtain ⟨file, leads, content⟩ := agrees.file
  unfold SharedHistory.take at taken
  dsimp only at taken
  split at taken
  next =>
    obtain ⟨_, loaded, becomes⟩ := (shared.histories store).load_spec (agrees.provides leads store)
    rw [loaded] at taken
    cases taken
    have agreesOn := agrees.withStorage leads becomes content
    have unsaved : ledger.unsaved store = [] := first rfl
    refine ⟨agreesOn.calm, agreesOn.file, ?_, ?_, agreesOn.returned⟩
    · intro other
      have none : ((shared.histories store).loaded file).pending = [] := by
        rw [History.pending_loaded, agrees.pending, unsaved, ite_self]
      have pending := update store agrees.pending none other
      rwa [← unsaved, Function.update_eq_self] at pending
    · exact update_bounded agrees.bounded ((agrees.bounded store).loaded file)
  next =>
    cases taken
    exact agrees.push store _
  next =>
    cases taken
    exact agrees.clear store
  next =>
    obtain ⟨_, looked, becomes⟩ := History.linesOnDisk_spec (agrees.provides leads store)
    rw [looked] at taken
    cases taken
    exact (agrees.withStorage leads becomes content).withStage store _
  next =>
    obtain ⟨_, opened, becomes⟩ := agrees.calm.openAppend (leads store)
    rw [opened] at taken
    cases taken
    exact (agrees.withStorage leads becomes content).withStage store _
  next =>
    obtain ⟨_, _, appended, becomes, written, _⟩ :=
      (shared.histories store).writePending_spec (agrees.provides leads store)
    rw [appended] at taken
    cases taken
    exact agrees.write leads content becomes written _
  next => cases taken

/-- A process can take every step that its stage allows. -/
theorem progress {store : Store} {act : HistoryAct}
    (agrees : Agrees paths names initial ledger shared)
    (allowed : (shared.stages store).allows act) : (shared.take paths store act).isSome := by
  obtain ⟨file, leads, _⟩ := agrees.file
  have provides := agrees.provides leads store
  obtain ⟨_, loaded, _⟩ := (shared.histories store).load_spec provides
  obtain ⟨_, looked, _⟩ := History.linesOnDisk_spec provides
  obtain ⟨_, opened, _⟩ := provides.calm.openAppend provides.leads
  obtain ⟨_, _, appended, _⟩ := (shared.histories store).writePending_spec provides
  unfold SharedHistory.take
  dsimp only
  split
  next => rw [loaded]; rfl
  next => rfl
  next => rfl
  next => rw [looked]; rfl
  next => rw [opened]; rfl
  next => rw [appended]; rfl
  next =>
    unfold SaveStage.allows at allowed
    split at allowed
    all_goals simp_all

end Agrees

variable {paths : Store → String} {names : List String} {initial : Utf8.Bytes}

theorem run_append (paths : Store → String) (shared : SharedHistory Store)
    (acts more : List (Store × HistoryAct)) :
    shared.run paths (acts ++ more) = (shared.run paths acts).bind (·.run paths more) :=
  List.foldlM_append

theorem run_singleton (paths : Store → String) (shared : SharedHistory Store) (store : Store)
    (act : HistoryAct) : shared.run paths [(store, act)] = shared.take paths store act := by
  rw [run, List.foldlM_cons]
  exact bind_pure _

theorem take_look {shared after : SharedHistory Store} {store : Store}
    (taken : shared.take paths store .look = some after) :
    ∃ onDisk storage, History.linesOnDisk (paths store) shared.storage = (.ok onDisk, storage) ∧
      after = { shared with storage }.withStage store (.looked onDisk) := by
  cases stage : shared.stages store with
  | looked | opened => simp [take, stage] at taken
  | resting =>
      simp only [take, stage] at taken
      split at taken
      next looks =>
        cases taken
        exact ⟨_, _, looks, rfl⟩
      next => cases taken

theorem take_openFile {shared after : SharedHistory Store} {store : Store} {onDisk : Nat}
    (stage : shared.stages store = .looked onDisk)
    (taken : shared.take paths store .openFile = some after) :
    ∃ storage, shared.storage.openAppend (.path (paths store)) = (.ok (), storage) ∧
      after = { shared with storage }.withStage store (.opened onDisk) := by
  simp only [take, stage] at taken
  split at taken
  next opens =>
    cases taken
    exact ⟨_, opens, rfl⟩
  next => cases taken

theorem take_write {shared after : SharedHistory Store} {store : Store} {onDisk : Nat}
    (stage : shared.stages store = .opened onDisk)
    (taken : shared.take paths store .write = some after) :
    ∃ storage, (shared.histories store).writePending (paths store) shared.storage =
        (.ok (), storage) ∧
      after = ({ shared with storage }
        |>.withHistory store (shared.histories store).flushed
        |>.withStage store .resting
        |>.withReturn store ⟨onDisk, (shared.histories store).pending.length⟩) := by
  simp only [take, stage] at taken
  split at taken
  next writes =>
    cases taken
    exact ⟨_, writes, rfl⟩
  next => cases taken

/-- The stages of a save, with nothing between them, are what `History.save` does. -/
theorem save_of_run {shared after : SharedHistory Store} {store : Store}
    (done : shared.run paths [(store, .look), (store, .openFile), (store, .write)] = some after) :
    ∃ saved, (shared.histories store).save (paths store) shared.storage =
        (.ok saved, after.histories store, after.storage) ∧
      after.returned = shared.returned ++ [(store, saved)] := by
  obtain ⟨_, look, done⟩ := Option.bind_eq_some_iff.mp done
  obtain ⟨_, openFile, done⟩ := Option.bind_eq_some_iff.mp done
  obtain ⟨_, write, done⟩ := Option.bind_eq_some_iff.mp done
  cases done
  obtain ⟨onDisk, first, looks, rfl⟩ := take_look look
  obtain ⟨second, opens, rfl⟩ := take_openFile (Function.update_self ..) openFile
  obtain ⟨third, writes, rfl⟩ := take_write (Function.update_self ..) write
  change first.openAppend _ = _ at opens
  change (shared.histories store).writePending _ second = _ at writes
  have saves : (shared.histories store).save (paths store) shared.storage =
      (.ok ⟨onDisk, (shared.histories store).pending.length⟩,
        (shared.histories store).flushed, third) := by
    rw [History.save, looks]
    dsimp only
    rw [History.appendPending, opens]
    dsimp only
    rw [writes]
  have last := Function.update_self store (shared.histories store).flushed shared.histories
  exact ⟨_, saves.trans (congrArg (fun history => (_, history, third)) last.symm), rfl⟩

/-- The histories and the file agree with the ledger of the steps so far. -/
theorem agrees_of_run {storage : Storage} {file : Option Utf8.Bytes} (calm : storage.Calm)
    (leads : ∀ store, storage.LeadsTo (paths store) names file)
    {acts : List (Store × HistoryAct)} {after : SharedHistory Store}
    (done : run paths { storage } acts = some after) (first : LoadsFirst acts) :
    Agrees paths names (file.getD []) (.of acts) after := by
  induction acts using List.reverseRecOn generalizing after with
  | nil =>
      cases done
      exact ⟨calm, ⟨file, leads, (List.append_nil _).symm⟩, fun _ => rfl, fun _ => Nat.le_refl 0,
        rfl⟩
  | append_singleton earlier entry ih =>
      obtain ⟨store, act⟩ := entry
      rw [run_append] at done
      obtain ⟨before, doneBefore, taken⟩ := Option.bind_eq_some_iff.mp done
      rw [run_singleton] at taken
      rw [Ledger.of_concat]
      refine (ih doneBefore first.of_append).take taken ?_
      rintro rfl
      exact Ledger.unsaved_of_no_push (first earlier store [] rfl)

omit [DecidableEq Store] in
/-- A save that nothing comes between succeeds, writes what is unsaved behind what the file holds
and returns how many lines these are. -/
theorem Agrees.save {ledger : Ledger Store} {shared : SharedHistory Store}
    (agrees : Agrees paths names initial ledger shared) (store : Store) :
    ∃ saved after, (shared.histories store).save (paths store) shared.storage =
        (.ok saved, (shared.histories store).flushed, after) ∧
      saved.written = (ledger.unsaved store).length ∧
        after.bytesAt (paths store) =
          shared.storage.bytesAt (paths store) ++ History.bytesOf (ledger.unsaved store) := by
  obtain ⟨file, leads, _⟩ := agrees.file
  obtain ⟨after, saves, becomes⟩ :=
    (shared.histories store).save_spec (agrees.provides leads store)
  refine ⟨_, after, saves, congrArg List.length (agrees.pending store), ?_⟩
  rw [(becomes.leads _ (leads store)).bytesAt, (leads store).bytesAt, agrees.pending]
  rfl

/-- A history file that is shared holds what it held at first and then, save by save, the lines
that the store of the save has pushed since its previous save or clear.  So each line that is kept
is written once and in its place, no other line is written, nothing that was written changes, and
every save returns how many lines it has written. -/
theorem shared_history_is_exact (paths : Store → String) (storage : Storage)
    (calm : storage.Calm) (leads : ∃ names file, ∀ store, storage.LeadsTo (paths store) names file)
    (acts : List (Store × HistoryAct)) (after : SharedHistory Store)
    (done : run paths { storage } acts = some after) (first : LoadsFirst acts) :
    (∀ store, after.storage.bytesAt (paths store) =
      storage.bytesAt (paths store) ++ (Ledger.of acts).written) ∧
    (∀ store, (Ledger.of acts).linesOf store = Ledger.kept store acts) ∧
    (after.returned.map fun entry => (entry.1, entry.2.written)) =
      ((Ledger.of acts).saves.map fun save => (save.1, save.2.length)) ∧
    (∀ store, (after.histories store).pending = (Ledger.of acts).unsaved store) ∧
    (∀ store, (after.histories store).saved ≤ (after.histories store).entries.length) ∧
    (∀ earlier before, earlier <+: acts → run paths { storage } earlier = some before →
      ∀ store, before.storage.bytesAt (paths store) <+: after.storage.bytesAt (paths store)) ∧
    (∀ store act, (after.stages store).allows act → (after.take paths store act).isSome) ∧
    ∀ store, ∃ saved last, (after.histories store).save (paths store) after.storage =
        (.ok saved, (after.histories store).flushed, last) ∧
      saved.written = ((Ledger.of acts).unsaved store).length ∧
        last.bytesAt (paths store) = after.storage.bytesAt (paths store) ++
          History.bytesOf ((Ledger.of acts).unsaved store) := by
  obtain ⟨names, file, leads⟩ := leads
  have bytes {acts : List (Store × HistoryAct)} {reached : SharedHistory Store}
      (agrees : Agrees paths names (file.getD []) (.of acts) reached) (store : Store) :
      reached.storage.bytesAt (paths store) =
        storage.bytesAt (paths store) ++ (Ledger.of acts).written := by
    obtain ⟨now, leadsNow, content⟩ := agrees.file
    rw [(leadsNow store).bytesAt, content, (leads store).bytesAt]
  have agrees := agrees_of_run calm leads done first
  refine ⟨bytes agrees, Ledger.linesOf_of acts, agrees.returned, agrees.pending, agrees.bounded,
    ?_, fun _ _ allowed => agrees.progress allowed, agrees.save⟩
  rintro earlier before ⟨later, rfl⟩ doneBefore store
  rw [bytes (agrees_of_run calm leads doneBefore first.of_append) store, bytes agrees store,
    List.prefix_append_right_inj, Ledger.of_append]
  obtain ⟨added, same⟩ := Ledger.saves_prefix (.of earlier) later
  rw [Ledger.written, Ledger.written, ← same, List.flatMap_append]
  exact List.prefix_append ..

/-- A history file with one line. -/
def oldFile : Storage := ({} : Storage).put ["history"] (.file (Utf8.ofText "old\n"))

/-- Two paths to the file. -/
def twoPaths (store : Bool) : String := if store then "history" else "./history"

/-- Two processes whose saves overlap. -/
def overlapping : List (Bool × HistoryAct) :=
  [(true, .load), (true, .push "a"), (false, .push "b"), (true, .look), (false, .look),
    (false, .openFile), (true, .openFile), (true, .write), (false, .write)]

theorem shared_history_of_overlapping_saves :
    ∃ after, run twoPaths { storage := oldFile } overlapping = some after ∧
      after.storage.bytesAt "history" = Utf8.ofText "old\na\nb\n" ∧
        after.returned.map (·.2.written) = [1, 1] := by
  have calm : oldFile.Calm := by simp [Storage.Calm, oldFile, Storage.put]
  have leads : ∀ store,
      oldFile.LeadsTo (twoPaths store) ["history"] (some (Utf8.ofText "old\n")) := by
    intro store
    cases store with
    | false => exact (rfl : oldFile.find "./history" = _)
    | true => exact (rfl : oldFile.find "history" = _)
  have first : LoadsFirst overlapping := by
    intro earlier store later split line member
    cases earlier with
    | nil => cases member
    | cons entry rest =>
        have again : (store, HistoryAct.load) ∈ overlapping.tail := by
          rw [split]
          exact List.mem_append_right _ List.mem_cons_self
        simp [overlapping] at again
  have succeeds : (run twoPaths { storage := oldFile } overlapping).isSome := rfl
  obtain ⟨after, done⟩ := Option.isSome_iff_exists.mp succeeds
  obtain ⟨content, _, returned, _⟩ :=
    shared_history_is_exact twoPaths oldFile calm ⟨_, _, leads⟩ overlapping after done first
  refine ⟨after, done, ?_, ?_⟩
  · have written := content true
    rw [(leads true).bytesAt] at written
    exact written
  · have counts := congrArg (List.map Prod.snd) returned
    rw [List.map_map, List.map_map] at counts
    exact counts

end SharedHistory

end Console
