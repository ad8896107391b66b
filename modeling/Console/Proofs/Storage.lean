import Console.Storage

/-!
# Files that keep their place

What is done to a regular file is seen along every path that leads to it, and no path leads
elsewhere afterwards.  As long as nothing is made to fail from outside, reading it and appending to
it succeed.
-/

namespace Console.Storage

/-- Nothing is made to fail from outside. -/
def Calm (storage : Storage) : Prop := ∀ fault ∈ storage.faults, fault = none

/-- A path leads to a regular file with some bytes, or to a missing one that can be made. -/
def LeadsTo (storage : Storage) (path : String) (names : List String) (file : Option Utf8.Bytes) :
    Prop := storage.find path = .ok (names, file.map .file)

/-- The bytes of the file that a path leads to; a missing one has none. -/
def bytesAt (storage : Storage) (path : String) : Utf8.Bytes :=
  (storage.content (.path path)).toOption.getD []

/-- An operation that begins while nothing is made to fail begins with the same files. -/
theorem Calm.attempt {storage : Storage} (calm : storage.Calm) :
    ∃ faults, storage.attempt = (none, { storage with faults }) ∧
      ({ storage with faults } : Storage).Calm := by
  unfold Storage.attempt
  obtain ⟨nodes, scratch, faults⟩ := storage
  cases faults with
  | nil => exact ⟨[], rfl, calm⟩
  | cons fault faults =>
      have none : fault = none := calm fault List.mem_cons_self
      refine ⟨faults, by rw [none], ?_⟩
      exact fun other member => calm other (List.mem_cons_of_mem _ member)

/-- Operations that begin change nothing but what will go wrong, of which the first part is over. -/
theorem exists_attempt_eq (storage : Storage) :
    ∃ faults, faults <:+ storage.faults ∧ storage.attempt.2 = { storage with faults } := by
  obtain ⟨nodes, scratch, faults⟩ := storage
  cases faults with
  | nil => exact ⟨[], List.suffix_refl _, rfl⟩
  | cons fault faults => exact ⟨faults, List.suffix_cons fault faults, rfl⟩

theorem exists_attempts_eq (storage : Storage) (count : Nat) :
    ∃ faults, faults <:+ storage.faults ∧ (storage.attempts count).2 = { storage with faults } := by
  induction count generalizing storage with
  | zero => exact ⟨storage.faults, List.suffix_refl _, rfl⟩
  | succ count ih =>
      obtain ⟨faults, suffix, attempted⟩ := storage.exists_attempt_eq
      unfold attempts
      split
      next same =>
        rw [same] at attempted
        exact ⟨faults, suffix, attempted⟩
      next middle same =>
        rw [same] at attempted
        obtain ⟨later, suffixOn, attemptedOn⟩ := ih middle
        change middle = _ at attempted
        subst attempted
        exact ⟨later, suffixOn.trans suffix, attemptedOn⟩

/-- Making the scratch file leaves the other files alone, whether or not it fails. -/
theorem exists_makeScratch_eq (storage : Storage) (bytes : Utf8.Bytes) :
    ∃ faults scratch, faults <:+ storage.faults ∧
      (storage.makeScratch bytes).2 = { storage with faults, scratch } := by
  obtain ⟨faults, suffix, attempted⟩ := storage.exists_attempts_eq 3
  unfold makeScratch
  split
  next same =>
    rw [same] at attempted
    exact ⟨faults, _, suffix, attempted⟩
  next after same =>
    rw [same] at attempted
    change after = _ at attempted
    subst attempted
    exact ⟨faults, some bytes, suffix, rfl⟩

/-- The scratch file is made unless one of the operations that this takes is made to fail. -/
theorem exists_makeScratch_eq_ok {storage : Storage} (none : (storage.attempts 3).1 = none)
    (bytes : Utf8.Bytes) :
    ∃ after, storage.makeScratch bytes = (.ok (), after) ∧ after.scratch = some bytes := by
  unfold makeScratch
  generalize storage.attempts 3 = attempted at none ⊢
  obtain ⟨fault, after⟩ := attempted
  cases none
  exact ⟨_, rfl, rfl⟩

/-- A step is taken from a directory, and where it goes does not depend on anything else. -/
theorem follow_cons_eq_ok {storage : Storage} {start : List String} {step : String}
    {rest : List String} {found : List String × Option Node}
    (followed : storage.follow start (step :: rest) = .ok found) :
    storage.node? start = some .directory ∧
      ∃ next, storage.follow next rest = .ok found ∧
        ∀ other : Storage, other.node? start = some .directory →
          other.follow start (step :: rest) = other.follow next rest := by
  unfold follow at followed
  split at followed
  next => cases followed
  next isDirectory =>
    refine ⟨isDirectory, ?_⟩
    split at followed
    next stays =>
      refine ⟨_, followed, ?_⟩
      intro other otherIsDirectory
      simp [follow, otherIsDirectory, stays]
    next moves =>
      split at followed
      next up =>
        refine ⟨_, followed, ?_⟩
        intro other otherIsDirectory
        simp [follow, otherIsDirectory, up]
      next down =>
        split at followed
        next => cases followed
        next short =>
          refine ⟨_, followed, ?_⟩
          intro other otherIsDirectory
          simp [follow, otherIsDirectory, moves, down, short]
  next => cases followed

/-- A path leads to what is at the end of its names. -/
theorem node?_of_follow {storage : Storage} {start names steps : List String} {node : Option Node}
    (followed : storage.follow start steps = .ok (names, node)) : storage.node? names = node := by
  induction steps generalizing start with
  | nil =>
      cases followed
      rfl
  | cons step rest ih =>
      obtain ⟨_, next, followedOn, _⟩ := follow_cons_eq_ok followed
      exact ih followedOn

/-- Only a directory is found behind a step that is no name. -/
theorem follow_concat_dot {storage : Storage} {start names steps : List String} {node : Option Node}
    (followed : storage.follow start (steps ++ ["."]) = .ok (names, node)) :
    node = some .directory := by
  induction steps generalizing start with
  | nil =>
      obtain ⟨isDirectory, _⟩ := follow_cons_eq_ok followed
      have stayed : storage.follow start ["."] = .ok (start, some .directory) := by
        simp [follow, isDirectory]
      cases followed.symm.trans stayed
      rfl
  | cons step rest ih =>
      obtain ⟨_, next, followedOn, _⟩ := follow_cons_eq_ok followed
      exact ih followedOn

theorem lookup_filter_ne (nodes : List (List String × Node)) (names other : List String) :
    (nodes.filter (·.1 != names)).lookup other =
      if other = names then none else nodes.lookup other := by
  induction nodes with
  | nil => simp
  | cons place rest ih =>
      obtain ⟨found, node⟩ := place
      by_cases isOld : found = names
      · subst isOld
        rw [List.filter_cons_of_neg (by simp), ih, List.lookup_cons]
        by_cases isHere : other = found
        · rw [if_pos isHere, if_pos isHere]
        · rw [if_neg isHere, if_neg isHere, beq_false_of_ne isHere]
      · rw [List.filter_cons_of_pos (by simpa using isOld), List.lookup_cons, List.lookup_cons, ih]
        by_cases isHere : other = found
        · have elsewhere : other ≠ names := fun same => isOld (isHere.symm.trans same)
          rw [if_neg elsewhere, beq_iff_eq.mpr isHere, if_neg elsewhere]
        · rw [beq_false_of_ne isHere]

theorem node?_put_of_ne {names other : List String} (storage : Storage) (node : Node)
    (elsewhere : other ≠ names) : (storage.put names node).node? other = storage.node? other := by
  have lookup : (storage.put names node).nodes.lookup other = storage.nodes.lookup other := by
    unfold put
    dsimp only
    rw [List.lookup_append, lookup_filter_ne, if_neg elsewhere, List.lookup_cons,
      beq_false_of_ne elsewhere, List.lookup_nil, Option.or_none]
  unfold node?
  rw [lookup]

/-- What is put in the place of something that can be put there is there. -/
theorem node?_put {storage : Storage} {names : List String} {file : Option Utf8.Bytes}
    (replaceable : storage.node? names = file.map .file) (node : Node) :
    (storage.put names node).node? names = some node := by
  have lookup : (storage.put names node).nodes.lookup names = some node := by
    unfold put
    dsimp only
    rw [List.lookup_append, lookup_filter_ne, if_pos rfl, List.lookup_cons, beq_self_eq_true]
    rfl
  unfold node? at *
  split at replaceable
  · cases file <;> cases replaceable
  next notStart => rw [if_neg notStart, lookup]

/-- What is put at the end of some names is found along every path that leads there, and only
there. -/
theorem follow_put {storage : Storage} {start names steps : List String} {file : Option Utf8.Bytes}
    (followed : storage.follow start steps = .ok (names, file.map .file)) (node : Node) :
    (storage.put names node).follow start steps = .ok (names, some node) := by
  have replaceable := node?_of_follow followed
  induction steps generalizing start with
  | nil =>
      have here : start = names := congrArg Prod.fst (Except.ok.inj followed)
      rw [here, follow, node?_put replaceable]
  | cons step rest ih =>
      obtain ⟨isDirectory, next, followedOn, same⟩ := follow_cons_eq_ok followed
      -- Only directories are passed on the way, and none of them is replaced.
      have elsewhere : start ≠ names := by
        rintro rfl
        rw [replaceable] at isDirectory
        cases file <;> cases isDirectory
      rw [same _ ((node?_put_of_ne storage node elsewhere).trans isDirectory)]
      exact ih followedOn

namespace LeadsTo

variable {storage : Storage} {path : String} {names : List String} {file : Option Utf8.Bytes}

/-- Where a path leads depends on the files and directories alone. -/
theorem of_nodes {other : Storage} (leads : storage.LeadsTo path names file)
    (same : other.nodes = storage.nodes) : other.LeadsTo path names file := by
  have node (names : List String) : other.node? names = storage.node? names := by
    unfold Storage.node?
    rw [same]
  have follow (start steps : List String) :
      other.follow start steps = storage.follow start steps := by
    induction steps generalizing start with
    | nil => simp only [Storage.follow, node]
    | cons step rest ih => simp only [Storage.follow, node, ih]
  unfold LeadsTo find at *
  simpa only [follow] using leads

theorem withFaults (leads : storage.LeadsTo path names file) (faults : List (Option IoCause)) :
    ({ storage with faults } : Storage).LeadsTo path names file := leads.of_nodes rfl

/-- A path is allowed if it leads anywhere. -/
theorem follow (leads : storage.LeadsTo path names file) :
    Path.refusal? path = none ∧
      storage.follow (Path.ofText path).start (Path.ofText path).allSteps =
        .ok (names, file.map .file) := by
  unfold LeadsTo find at leads
  split at leads
  next => cases leads
  next allowed => exact ⟨allowed, leads⟩

/-- What is put where a path leads is found along all paths that lead there. -/
theorem put (leads : storage.LeadsTo path names file) (bytes : Utf8.Bytes) :
    (storage.put names (.file bytes)).LeadsTo path names (some bytes) := by
  obtain ⟨allowed, followed⟩ := leads.follow
  unfold LeadsTo find
  rw [allowed]
  exact follow_put followed (.file bytes)

theorem content (leads : storage.LeadsTo path names file) :
    storage.content (.path path) = file.elim (.error .notFound) .ok := by
  unfold LeadsTo at leads
  unfold Storage.content
  dsimp only
  rw [leads]
  cases file <;> rfl

theorem bytesAt (leads : storage.LeadsTo path names file) :
    storage.bytesAt path = file.getD [] := by
  rw [Storage.bytesAt, leads.content]
  cases file <;> rfl

/-- A path to a file does not end with a slash, so that the file can be made. -/
theorem findTarget (leads : storage.LeadsTo path names file) :
    storage.findTarget path = .ok (names, file.map .file) := by
  obtain ⟨allowed, followed⟩ := leads.follow
  have open_ : (Path.ofText path).isEnded = false := by
    cases ended : (Path.ofText path).isEnded with
    | false => rfl
    | true =>
        rw [Path.allSteps, if_pos ended] at followed
        have isDirectory := follow_concat_dot followed
        cases file <;> cases isDirectory
  unfold Storage.findTarget
  dsimp only
  rw [open_, Bool.false_and, Bool.false_and, if_neg Bool.false_ne_true]
  exact leads

theorem writable (leads : storage.LeadsTo path names file) :
    storage.writable (.path path) = .ok (file.getD []) := by
  unfold Storage.writable
  dsimp only
  rw [leads.findTarget]
  cases file <;> rfl

theorem withContent (leads : storage.LeadsTo path names file) (bytes : Utf8.Bytes) :
    storage.withContent (.path path) bytes = storage.put names (.file bytes) := by
  unfold LeadsTo at leads
  unfold Storage.withContent
  dsimp only
  rw [leads]
  cases file <;> rfl

theorem attempt (leads : storage.LeadsTo path names file) :
    storage.attempt.2.LeadsTo path names file := by
  refine leads.of_nodes ?_
  unfold Storage.attempt
  split <;> rfl

/-- Reading leaves the files as they are, also if it fails. -/
theorem read (leads : storage.LeadsTo path names file) (location : Location) :
    (storage.read location).2.LeadsTo path names file := by
  have attempted := leads.attempt
  unfold Storage.read
  split
  next failed =>
    rw [failed] at attempted
    exact attempted
  next begun =>
    rw [begun] at attempted
    exact attempted

theorem openAppend {after : Storage} (leads : storage.LeadsTo path names file)
    (opened : storage.openAppend (.path path) = (.ok (), after)) :
    after.LeadsTo path names (some (file.getD [])) := by
  have attempted := leads.attempt
  unfold Storage.openAppend at opened
  split at opened
  next => cases opened
  next begun =>
    rw [begun] at attempted
    rw [attempted.writable] at opened
    dsimp only at opened
    rw [attempted.withContent] at opened
    cases opened
    exact attempted.put _

theorem append {after : Storage} {bytes : Utf8.Bytes} (leads : storage.LeadsTo path names file)
    (appended : storage.append (.path path) bytes = (.ok (), after)) :
    after.LeadsTo path names (some (file.getD [] ++ bytes)) := by
  have attempted := leads.attempt
  unfold Storage.append at appended
  split at appended
  next => cases appended
  next begun =>
    rw [begun] at attempted
    rw [attempted.writable] at appended
    dsimp only at appended
    rw [attempted.withContent] at appended
    cases appended
    exact attempted.put _

end LeadsTo

/-- The file at the end of some names has become another one, and all paths that led there still
do. -/
structure Becomes (before : Storage) (names : List String) (file now : Option Utf8.Bytes)
    (after : Storage) : Prop where
  calm : after.Calm
  leads : ∀ path, before.LeadsTo path names file → after.LeadsTo path names now

section

variable {storage : Storage} {path : String} {names : List String} {file : Option Utf8.Bytes}

theorem Calm.read (calm : storage.Calm) (leads : storage.LeadsTo path names file) :
    ∃ after, storage.read (.path path) = (file.elim (.error .notFound) .ok, after) ∧
      storage.Becomes names file file after := by
  obtain ⟨faults, attempted, calmStill⟩ := calm.attempt
  unfold Storage.read
  rw [attempted]
  dsimp only
  rw [(leads.withFaults faults).content]
  exact ⟨_, rfl, calmStill, fun path leads => leads.withFaults faults⟩

theorem Calm.openAppend (calm : storage.Calm) (leads : storage.LeadsTo path names file) :
    ∃ after, storage.openAppend (.path path) = (.ok (), after) ∧
      storage.Becomes names file (some (file.getD [])) after := by
  obtain ⟨faults, attempted, calmStill⟩ := calm.attempt
  unfold Storage.openAppend
  rw [attempted]
  dsimp only
  rw [(leads.withFaults faults).writable]
  dsimp only
  rw [(leads.withFaults faults).withContent]
  exact ⟨_, rfl, calmStill, fun path leads => (leads.withFaults faults).put _⟩

theorem Calm.append (calm : storage.Calm) (leads : storage.LeadsTo path names file)
    (bytes : Utf8.Bytes) :
    ∃ after, storage.append (.path path) bytes = (.ok (), after) ∧
      storage.Becomes names file (some (file.getD [] ++ bytes)) after := by
  obtain ⟨faults, attempted, calmStill⟩ := calm.attempt
  unfold Storage.append
  rw [attempted]
  dsimp only
  rw [(leads.withFaults faults).writable]
  dsimp only
  rw [(leads.withFaults faults).withContent]
  exact ⟨_, rfl, calmStill, fun path leads => (leads.withFaults faults).put _⟩

/-- A path leads to a file, and nothing is made to fail from outside. -/
structure Provides (storage : Storage) (path : String) (names : List String)
    (file : Option Utf8.Bytes) : Prop where
  calm : storage.Calm
  leads : storage.LeadsTo path names file

theorem Becomes.provides {now : Option Utf8.Bytes} {after : Storage}
    (becomes : storage.Becomes names file now after)
    (provides : storage.Provides path names file) : after.Provides path names now :=
  ⟨becomes.calm, becomes.leads path provides.leads⟩

theorem Becomes.trans {now last : Option Utf8.Bytes} {after final : Storage}
    (becomes : storage.Becomes names file now after)
    (becomesOn : after.Becomes names now last final) : storage.Becomes names file last final :=
  ⟨becomesOn.calm, fun path leads => becomesOn.leads path (becomes.leads path leads)⟩

namespace Provides

theorem of_nodes {after : Storage} (provides : storage.Provides path names file)
    (nodes : after.nodes = storage.nodes) (faults : after.faults <:+ storage.faults) :
    after.Provides path names file where
  calm fault member := provides.calm fault (faults.subset member)
  leads := provides.leads.of_nodes nodes

theorem makeScratch (provides : storage.Provides path names file) (bytes : Utf8.Bytes) :
    (storage.makeScratch bytes).2.Provides path names file := by
  obtain ⟨faults, scratch, suffix, made⟩ := storage.exists_makeScratch_eq bytes
  rw [made]
  exact provides.of_nodes rfl suffix

theorem withoutScratch (provides : storage.Provides path names file) :
    storage.withoutScratch.Provides path names file :=
  provides.of_nodes rfl (List.suffix_refl _)

/-- Reading leaves the files as they are. -/
theorem readText (provides : storage.Provides path names file) (location : Location) :
    (storage.readText location).2.Provides path names file := by
  obtain ⟨faults, attempted, calmStill⟩ := provides.calm.attempt
  unfold Storage.readText Storage.read
  rw [attempted]
  dsimp only
  have still : ({ storage with faults } : Storage).Provides path names file :=
    ⟨calmStill, provides.leads.withFaults faults⟩
  cases ({ storage with faults } : Storage).content location with
  | error cause => exact still
  | ok bytes =>
      dsimp only
      split <;> exact still

end Provides

end

end Console.Storage
