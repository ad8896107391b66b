import Console.Proofs.Command.Patterns
import Console.Proofs.Engine.Nesting

/-!
# How sessions unwind

A session begins as a call on a target and comes back when it is off the stack.  Inside a call
everything around it stays where it was, so that it comes back to the sessions, the buffers and the
open brackets that it left.  A signal to a depth ends the sessions down to that depth one by one,
and nothing else.
-/

namespace Console

namespace Engine

/-- The call of a session on a target comes back after a number of steps: that is when its session
is off the stack for the first time. -/
def Returns (engine : Engine) (target : Value) (count : Nat) : Prop :=
  ((engine.begin target).after count).engine.sessions.size = engine.sessions.size ∧
    ∀ earlier < count,
      engine.sessions.size < ((engine.begin target).after earlier).engine.sessions.size

/-- A run is inside the call of a session: some sessions are nested in it, with the buffers that
were put aside for them and the brackets they have opened, and all that was there when the call was
made is still there. -/
structure Inside (engine : Engine) (target : Value) (inner : List Session) (kept : List Buffer)
    (run : Run) : Prop where
  orderly : run.engine.registry.Orderly
  sessions : run.engine.sessions.running =
    inner ++ engine.sessions.next target :: engine.sessions.running
  suspended : run.engine.suspended = kept ++ engine.desk.buffer :: engine.suspended
  kept : kept.length = inner.length
  hooks : ∃ first entered added,
    engine.hooks.RanBefore target engine.sessions.size first entered ∧
    Unclosed (engine.sessions.size + 1) entered (inner.map Session.target) added
      run.engine.hooks ∧
    engine.desk.transcript.Extends run.engine.desk.transcript
      (.session .before target engine.sessions.size :: first ++ added)
  phase : run.phase = .reading ∨
    ∃ depth ≤ run.engine.sessions.level, run.phase = .unwinding depth

/-- What a call leaves behind that a signal to a depth has ended.  Its hooks have run once at its
level before everything else and once after it, and those of the sessions inside it in between. -/
structure Ended (engine : Engine) (target : Value) (depth : Nat) (run : Run) : Prop where
  sessions : run.engine.sessions.running = engine.sessions.running
  buffer : run.engine.desk.buffer = engine.desk.buffer
  suspended : run.engine.suspended = engine.suspended
  phase : run.phase =
    .resume engine.sessions.size (Run.handBack engine.sessions.size depth target)
  hooks : ∃ first entered inner resumed last,
    engine.hooks.RanBefore target engine.sessions.size first entered ∧
    Bracketed (engine.sessions.size + 1) entered inner resumed ∧
    resumed.RanAfter target engine.sessions.size last run.engine.hooks ∧
    engine.desk.transcript.Extends run.engine.desk.transcript
      (.session .before target engine.sessions.size :: first ++ inner ++
        .session .after target engine.sessions.size :: last)

namespace Inside

variable {engine : Engine} {target : Value} {inner : List Session} {kept : List Buffer} {run : Run}

theorem size (inside : Inside engine target inner kept run) :
    run.engine.sessions.size = engine.sessions.size + 1 + inner.length := by
  rw [SessionStack.size, inside.sessions, List.length_append, List.length_cons, SessionStack.size]
  omega

theorem of_begin (orderly : engine.registry.Orderly) (target : Value) :
    Inside engine target [] [] (engine.begin target) := by
  have enters := engine.enters_enter target
  exact
    { orderly := by
        change (engine.enter target).registry.Orderly
        rw [enters.registry]
        exact orderly
      sessions := by
        change (engine.enter target).sessions.running = _
        rw [enters.sessions]
        rfl
      suspended := enters.suspended
      kept := rfl
      hooks := by
        obtain ⟨first, said, ran, extended, plain⟩ := enters.hooks
        exact ⟨first, _, said, ran, .nil (.of_isPlain plain), extended⟩
      phase := .inl rfl }

/-- Going on within the innermost session stays inside the call. -/
theorem of_stays {before after : Engine} {phase phaseAfter : Phase}
    (inside : Inside engine target inner kept ⟨before, phase⟩)
    (stays : before.StaysWith (·.isBoundary = false) after)
    (placed :
      phaseAfter = .reading ∨ ∃ depth ≤ before.sessions.level, phaseAfter = .unwinding depth) :
    Inside engine target inner kept ⟨after, phaseAfter⟩ := by
  obtain ⟨more, stays, none⟩ := stays
  exact
    { orderly := by
        change after.registry.Orderly
        rw [stays.registry]
        exact inside.orderly
      sessions := by
        change after.sessions.running = _
        rw [stays.sessions]
        exact inside.sessions
      suspended := stays.suspended.trans inside.suspended
      kept := inside.kept
      hooks := by
        obtain ⟨first, entered, added, ran, unclosed, extended⟩ := inside.hooks
        refine ⟨first, entered, added ++ more, ran, ?_, ?_⟩
        · change Unclosed _ _ _ _ after.hooks
          rw [stays.hooks]
          exact unclosed.append (.of_no_boundary none)
        · rw [← List.append_assoc]
          exact extended.trans stays.transcript
      phase := by
        change _ ∨ ∃ depth ≤ after.sessions.level, _
        rw [stays.sessions]
        exact placed }

/-- A session begins inside the call. -/
theorem of_enters {before : Engine} {phase : Phase}
    (inside : Inside engine target inner kept ⟨before, phase⟩) (value : Value) :
    Inside engine target (before.sessions.next value :: inner) (before.desk.buffer :: kept)
      ⟨before.enter value, .reading⟩ := by
  have enters := before.enters_enter value
  have level : before.sessions.size =
      engine.sessions.size + 1 + (inner.map Session.target).length := by
    rw [List.length_map]
    exact inside.size
  exact
    { orderly := by
        change (before.enter value).registry.Orderly
        rw [enters.registry]
        exact inside.orderly
      sessions := by
        change (before.enter value).sessions.running = _
        rw [enters.sessions]
        exact congrArg _ inside.sessions
      suspended := enters.suspended.trans (congrArg _ inside.suspended)
      kept := congrArg _ inside.kept
      hooks := by
        obtain ⟨first, entered, added, ran, unclosed, extended⟩ := inside.hooks
        obtain ⟨began, said, ranOn, extendedOn, plain⟩ := enters.hooks
        rw [level] at ranOn extendedOn
        refine ⟨first, entered, _, ran, (unclosed.enter ranOn).append (.of_isPlain plain), ?_⟩
        have whole := extended.trans extendedOn
        simpa only [List.append_assoc, List.cons_append] using whole
      phase := .inl rfl }

/-- A session that is nested in the call ends. -/
theorem of_leaves {before : Engine} {session : Session} {depth : Nat}
    (inside : Inside engine target (session :: inner) kept ⟨before, .unwinding depth⟩)
    (within : depth ≤ before.sessions.level) :
    Inside engine target inner kept.tail (Run.unwind before depth) := by
  have leaves := before.leaves_leave session depth
  have running : before.sessions.running =
      session :: (inner ++ engine.sessions.next target :: engine.sessions.running) :=
    inside.sessions
  have suspended : before.suspended = kept ++ engine.desk.buffer :: engine.suspended :=
    inside.suspended
  have nested : (inner ++ engine.sessions.next target :: engine.sessions.running).length =
      engine.sessions.size + 1 + (inner.map Session.target).length := by
    rw [List.length_append, List.length_cons, List.length_map, SessionStack.size]
    omega
  have level := SessionStack.level_of_running running
  rw [level] at within
  rw [Run.unwind_eq running]
  exact
    { orderly := by
        change (before.leave session depth).registry.Orderly
        rw [leaves.registry]
        exact inside.orderly
      sessions := leaves.running running
      suspended := by
        refine leaves.suspended.trans ?_
        rw [suspended, List.tail_append_of_ne_nil]
        exact List.ne_nil_of_length_eq_add_one inside.kept
      kept := by
        rw [List.length_tail, inside.kept]
        rfl
      hooks := by
        obtain ⟨first, entered, added, ran, unclosed, extended⟩ := inside.hooks
        obtain ⟨said, last, ranOn, extendedOn, plain⟩ := leaves.hooks
        rw [level, nested] at ranOn extendedOn
        refine ⟨first, entered, _, ran, (unclosed.append (.of_isPlain plain)).leave ranOn, ?_⟩
        have whole := extended.trans extendedOn
        simpa only [List.append_assoc, List.cons_append] using whole
      phase := by
        change _ ∨ ∃ lower ≤ (before.leave session depth).sessions.level, _
        rw [SessionStack.level, SessionStack.size, leaves.running running]
        rcases Run.resume_handBack session.target within (by omega) with reads | ⟨unwinds, lower⟩
        · exact .inl reads
        · exact .inr ⟨depth, lower, unwinds⟩ }

/-- The session of the call itself ends. -/
theorem ended {before : Engine} {depth : Nat}
    (inside : Inside engine target [] kept ⟨before, .unwinding depth⟩) :
    Ended engine target depth (Run.unwind before depth) := by
  have leaves := before.leaves_leave (engine.sessions.next target) depth
  have running : before.sessions.running =
      engine.sessions.next target :: engine.sessions.running := inside.sessions
  have suspended : before.suspended = engine.desk.buffer :: engine.suspended := by
    have := inside.suspended
    rwa [List.length_eq_zero_iff.mp inside.kept] at this
  have level : before.sessions.level = engine.sessions.size :=
    SessionStack.level_of_running running
  rw [Run.unwind_eq running]
  exact
    { sessions := leaves.running running
      buffer := by
        refine leaves.buffer.trans ?_
        rw [suspended]
        rfl
      suspended := by
        refine leaves.suspended.trans ?_
        rw [suspended]
        rfl
      phase := rfl
      hooks := by
        obtain ⟨first, entered, added, ran, unclosed, extended⟩ := inside.hooks
        obtain ⟨said, last, ranOn, extendedOn, plain⟩ := leaves.hooks
        rw [level] at ranOn extendedOn
        change before.hooks.RanAfter target _ _ _ at ranOn
        change before.desk.transcript.Extends _ (said ++ .session .after target _ :: last)
          at extendedOn
        refine ⟨first, entered, added ++ said, _, last, ran,
          unclosed.bracketed.append (.of_isPlain plain), ranOn, ?_⟩
        have whole := extended.trans extendedOn
        simpa only [List.append_assoc, List.cons_append] using whole }

/-- One step stays inside the call, unless it ends the session of the call itself. -/
theorem step (inside : Inside engine target inner kept run) :
    (∃ inner kept, Inside engine target inner kept run.step) ∨
      ∃ depth ≤ engine.sessions.size, run.phase = .unwinding depth ∧ inner = [] ∧
        Ended engine target depth run.step := by
  obtain ⟨before, phase⟩ := run
  rcases inside.phase with reads | ⟨depth, within, unwinds⟩
  · cases reads
    refine .inl ?_
    have turns := Engine.turns_readLine inside.orderly
    change ∃ inner kept, Inside engine target inner kept (Run.readLine before)
    generalize Run.readLine before = run at turns ⊢
    cases turns with
    | goesOn stays => exact ⟨_, _, inside.of_stays stays (.inl rfl)⟩
    | leaves stays within => exact ⟨_, _, inside.of_stays stays (.inr ⟨_, within, rfl⟩)⟩
    | begins stays buffer => exact ⟨_, _, (inside.of_stays stays (.inl rfl)).of_enters _⟩
  · cases unwinds
    cases inner with
    | nil =>
        refine .inr ⟨depth, ?_, rfl, rfl, inside.ended⟩
        change depth ≤ before.sessions.level at within
        have size : before.sessions.size = engine.sessions.size + 1 := inside.size
        rwa [SessionStack.level, size, Nat.add_sub_cancel] at within
    | cons session inner =>
        exact .inl ⟨_, _, inside.of_leaves within⟩

end Inside

variable {engine : Engine} {target : Value} {count : Nat}

/-- At every moment either the call has never come back yet, or there was a first moment at which a
signal ended its session. -/
theorem inside_or_ended (orderly : engine.registry.Orderly) (target : Value) (count : Nat) :
    (∃ inner kept, Inside engine target inner kept ((engine.begin target).after count)) ∨
      ∃ last < count, ∃ depth ≤ engine.sessions.size,
        ((engine.begin target).after last).phase = .unwinding depth ∧
          Ended engine target depth ((engine.begin target).after (last + 1)) := by
  induction count with
  | zero => exact .inl ⟨_, _, .of_begin orderly target⟩
  | succ count ih =>
      rcases ih with ⟨inner, kept, inside⟩ | ⟨last, earlier, depth, within, phase, ended⟩
      · rcases inside.step with insideOn | ⟨depth, within, phase, _, ended⟩
        · exact .inl insideOn
        · exact .inr ⟨count, Nat.lt_succ_self count, depth, within, phase, ended⟩
      · exact .inr ⟨last, Nat.lt_succ_of_lt earlier, depth, within, phase, ended⟩

/-- A call that comes back does so when a signal ends its session. -/
theorem Returns.ended (orderly : engine.registry.Orderly) (returns : engine.Returns target count) :
    ∃ last depth, count = last + 1 ∧ depth ≤ engine.sessions.size ∧
      ((engine.begin target).after last).phase = .unwinding depth ∧
        Ended engine target depth ((engine.begin target).after count) := by
  obtain ⟨back, first⟩ := returns
  rcases inside_or_ended orderly target count with
    ⟨inner, kept, inside⟩ | ⟨last, earlier, depth, within, phase, ended⟩
  · have size := inside.size
    omega
  · -- The session is off the stack already when the signal has ended it, and not before.
    have notBefore : ¬last + 1 < count := by
      intro before
      have running := first _ before
      rw [SessionStack.size, SessionStack.size, ended.sessions] at running
      exact Nat.lt_irrefl _ running
    have same : count = last + 1 := by omega
    subst same
    exact ⟨last, depth, rfl, within, phase, ended⟩

/-- Some sessions have ended on the way out to a depth: so many as are counted, from the innermost
outwards, each with its hooks at its own depth.  When the session at that depth has ended, either
the run is finished with the target of that session, or the session around it reads on. -/
structure Unwound (before : Engine) (depth count : Nat) (run : Run) : Prop where
  sessions : run.engine.sessions.running = before.sessions.running.drop count
  buffers : run.engine.desk.buffer :: run.engine.suspended =
    (before.desk.buffer :: before.suspended).drop count
  hooks : ∃ added,
    Closing (before.sessions.running.take count) before.hooks added run.engine.hooks ∧
    before.desk.transcript.Extends run.engine.desk.transcript added
  onTheWay : depth + count < before.sessions.size → run.phase = .unwinding depth
  outermost : depth + count = before.sessions.size → depth = 0 →
    ∃ session, before.sessions.get? 0 = some session ∧ run.phase = .finished (.ok session.target)
  around : depth + count = before.sessions.size → 0 < depth →
    run.phase = .reading ∧ run.engine.sessions.current? = before.sessions.get? (depth - 1)

theorem Unwound.step {before : Engine} {depth count : Nat} {run : Run} (nested : before.WellNested)
    (unwound : before.Unwound depth count run) (more : depth + count < before.sessions.size) :
    before.Unwound depth (count + 1) run.step := by
  obtain ⟨engine, phase⟩ := run
  have unwinds : phase = .unwinding depth := unwound.onTheWay more
  subst unwinds
  have inBounds : count < before.sessions.running.length := by
    change depth + count < before.sessions.running.length at more
    omega
  let session := before.sessions.running[count]
  have running : engine.sessions.running = session :: before.sessions.running.drop (count + 1) :=
    unwound.sessions.trans (List.drop_eq_getElem_cons inBounds)
  have outside : (before.sessions.running.drop (count + 1)).length =
      before.sessions.size - (count + 1) := List.length_drop
  have leaves := engine.leaves_leave session depth
  have sessions := leaves.running running
  change before.Unwound depth (count + 1) (Run.unwind engine depth)
  rw [Run.unwind_eq running, outside]
  exact
    { sessions
      buffers := by
        have put : engine.suspended = before.suspended.drop count := by
          have tails := congrArg List.tail unwound.buffers
          rwa [List.tail_drop, List.tail_cons, List.drop_succ_cons] at tails
        -- A buffer is put aside for every running session, so the one taken up again is there.
        have aside : engine.suspended ≠ [] := by
          rw [put, Ne, List.drop_eq_nil_iff, nested.suspended, Nat.not_le]
          exact inBounds
        exact (leaves.buffers aside).trans put
      hooks := by
        obtain ⟨added, closing, extended⟩ := unwound.hooks
        obtain ⟨said, last, ran, extendedOn, plain⟩ := leaves.hooks
        have depth : engine.sessions.level = session.depth := by
          rw [SessionStack.level_of_running running, outside]
          exact (nested.aligned.depth_getElem inBounds).symm
        rw [depth] at ran extendedOn
        refine ⟨_, ?_, extended.trans extendedOn⟩
        rw [← List.take_append_getElem inBounds]
        exact .session closing plain ran
      onTheWay := by
        intro fewer
        have nested : before.sessions.size - (count + 1) ≠ 0 := by omega
        have outer : depth ≠ before.sessions.size - (count + 1) := by omega
        exact Run.resume_handBack_outer session.target outer nested
      outermost := by
        intro arrived isOutermost
        refine ⟨session, ?_, ?_⟩
        · rw [SessionStack.get?_eq (by omega), SessionStack.level,
            List.getElem?_eq_some_iff]
          exact ⟨by omega, by congr 1; omega⟩
        · have last : before.sessions.size - (count + 1) = 0 := by omega
          rw [last, isOutermost]
          exact Run.resume_handBack_outermost session.target
      around := by
        intro arrived inner
        have meant : depth = before.sessions.size - (count + 1) := by omega
        constructor
        · rw [← meant]
          exact Run.resume_handBack_meant session.target (Nat.pos_iff_ne_zero.mp inner)
        · change (engine.leave session depth).sessions.running.head? = _
          rw [sessions, List.head?_drop, SessionStack.get?_eq (by omega), SessionStack.level]
          congr 1
          omega }

/-- A signal to the depth of a session that is running ends the sessions down to it one by one. -/
theorem unwound_after {engine : Engine} (nested : engine.WellNested) {depth : Nat} {count : Nat}
    (running : depth < engine.sessions.size) (within : depth + count ≤ engine.sessions.size) :
    engine.Unwound depth count (Run.after ⟨engine, .unwinding depth⟩ count) := by
  induction count with
  | zero =>
      exact
        { sessions := rfl
          buffers := rfl
          hooks := ⟨[], .nil, .refl _⟩
          onTheWay := fun _ => rfl
          outermost := fun arrived => absurd arrived (Nat.ne_of_lt running)
          around := fun arrived => absurd arrived (Nat.ne_of_lt running) }
  | succ count ih => exact (ih (Nat.le_of_succ_le within)).step nested within

theorem loadHistory_keeps (engine : Engine) :
    engine.loadHistory.registry = engine.registry ∧
      engine.loadHistory.sessions = engine.sessions := by
  unfold loadHistory
  split
  · split
    next found _ _ _ => cases found <;> exact ⟨rfl, rfl⟩
    · exact ⟨rfl, rfl⟩
  · exact ⟨rfl, rfl⟩

theorem sessions_saveHistory (engine : Engine) : engine.saveHistory.sessions = engine.sessions := by
  unfold saveHistory
  split
  · dsimp only
    split <;> rfl
  · rfl

end Engine

namespace Run

variable {run : Run} {result : Except Nat Value} {last : Engine}

theorem result?_eq_some (found : run.result? = some (result, last)) :
    run = ⟨last, .finished result⟩ := by
  obtain ⟨engine, phase⟩ := run
  cases phase with
  | finished value =>
      cases found
      rfl
  | _ => cases found

/-- A result of a run is that of one of its states. -/
theorem finish_eq_some {fuel : Nat} (found : run.finish fuel = some (result, last)) :
    ∃ count, run.after count = ⟨last, .finished result⟩ := by
  induction fuel generalizing run with
  | zero => exact ⟨0, result?_eq_some found⟩
  | succ fuel ih =>
      unfold finish at found
      split at found
      next ended =>
        cases found
        exact ⟨0, result?_eq_some ended⟩
      · obtain ⟨count, reached⟩ := ih found
        refine ⟨count + 1, ?_⟩
        rwa [Nat.add_comm, after_add]

end Run

namespace Engine

/-- A console that is started without sessions has none when it is done, and gives its own target
back. -/
theorem start_eq_some {engine : Engine} {fuel : Nat} {target value : Value} {last : Engine}
    (orderly : engine.registry.Orderly) (idle : engine.sessions.running = [])
    (done : engine.start fuel target = some (value, last)) :
    value = target ∧ last.sessions.running = [] := by
  obtain ⟨⟨result, final⟩, found, concluded⟩ := Option.map_eq_some_iff.mp done
  obtain ⟨count, reached⟩ := Run.finish_eq_some found
  obtain ⟨registry, sessions⟩ := engine.loadHistory_keeps
  have idleStill : engine.loadHistory.sessions.running = [] := by rw [sessions, idle]
  have outermost : engine.loadHistory.sessions.size = 0 := by rw [SessionStack.size, idleStill]; rfl
  rcases inside_or_ended (registry ▸ orderly) target count with
    ⟨inner, kept, inside⟩ | ⟨last, earlier, depth, within, phase, ended⟩
  · rw [reached] at inside
    rcases inside.phase with reads | ⟨depth, _, unwinds⟩
    · cases reads
    · cases unwinds
  · have meant : depth = engine.loadHistory.sessions.size := by omega
    have finished := ended.phase
    rw [meant, outermost, Run.resume_handBack_outermost] at finished
    have stays := Run.after_finished finished (count - (last + 1))
    rw [← Run.after_add, Nat.add_sub_cancel' earlier, reached] at stays
    rw [← stays] at finished
    have none := ended.sessions
    rw [← stays, idleStill] at none
    cases finished
    cases concluded
    exact ⟨rfl, by rw [sessions_saveHistory]; exact none⟩

/-- How the sessions of a run stand, and what a session that reads can do to them: a session that
begins is a call made with what the session around it has, and a signal leads to a session that is
running and ends the sessions down to it. -/
structure Proper (run : Run) : Prop where
  nested : run.engine.WellNested
  calls : run.phase = .reading → run.engine.sessions.size < run.step.engine.sessions.size →
    ∃ (caller : Engine) (value : Value), caller.sessions = run.engine.sessions ∧
      caller.suspended = run.engine.suspended ∧ caller.desk.buffer = run.engine.desk.buffer ∧
        run.step = caller.begin value
  signals : ∀ left depth, run.phase = .reading → run.step = ⟨left, .unwinding depth⟩ →
    depth ≤ run.engine.sessions.level ∧ left.sessions = run.engine.sessions ∧
      left.suspended = run.engine.suspended ∧
        ∀ ended, depth + ended ≤ run.engine.sessions.size →
          left.Unwound depth ended (run.after (ended + 1))

theorem proper_of_sound {run : Run} (sound : run.Sound) : Proper run := by
  obtain ⟨engine, phase⟩ := run
  obtain ⟨orderly, nested, placed⟩ := sound
  refine ⟨nested, ?_, ?_⟩
  · intro reads larger
    cases reads
    have turns := turns_readLine orderly
    change engine.sessions.size < (Run.readLine engine).engine.sessions.size at larger
    change ∃ caller : Engine, ∃ value, _ ∧ _ ∧ _ ∧ Run.readLine engine = caller.begin value
    generalize Run.readLine engine = next at turns larger ⊢
    cases turns with
    | goesOn stays =>
        rw [stays.sessions] at larger
        exact absurd larger (Nat.lt_irrefl _)
    | leaves stays =>
        rw [stays.sessions] at larger
        exact absurd larger (Nat.lt_irrefl _)
    | @begins caller value stays buffer =>
        exact ⟨caller, value, stays.sessions, stays.suspended, buffer, rfl⟩
  · intro left depth reads signalled
    cases reads
    have turns := turns_readLine orderly
    change Run.readLine engine = _ at signalled
    rw [signalled] at turns
    cases turns with
    | leaves stays within =>
        refine ⟨within, stays.sessions, stays.suspended, ?_⟩
        intro ended some
        have first : (Run.after ⟨engine, .reading⟩ 1) = ⟨left, .unwinding depth⟩ := signalled
        change left.Unwound depth ended (Run.after ⟨engine, .reading⟩ (ended + 1))
        rw [Nat.add_comm, Run.after_add, first]
        have running : engine.sessions.running ≠ [] := placed
        have atLeastOne : 0 < engine.sessions.size := List.length_pos_iff.mpr running
        refine unwound_after (nested.of_stays stays) ?_ (by rwa [stays.sessions])
        rw [stays.sessions]
        exact Nat.lt_of_le_of_lt within (Nat.sub_one_lt_of_lt atLeastOne)

/-- Session unwinding is exact.  A call that comes back does so because a signal has ended its
session: all around it is as it was, and it hands its target back if it was meant, and the signal
otherwise.  Its hooks have run once before all that has happened in it and once after it, and those
of the sessions inside it in brackets of their own.  On the way every session knows its place and
every signal ends just the sessions down to the one it means, each with its hooks.  A console that
is started without sessions hands its own target back. -/
theorem sessions_unwind_exactly (engine : Engine) (builtin : engine.registry = .builtin)
    (target : Value) :
    (∀ count, engine.Returns target count → ∃ last depth,
      count = last + 1 ∧ ((engine.begin target).after last).phase = .unwinding depth ∧
        Ended engine target depth ((engine.begin target).after count) ∧
          (depth = engine.sessions.size ∧ ((engine.begin target).after count).phase =
              .resume engine.sessions.size (.ok target) ∨
            depth < engine.sessions.size ∧ ((engine.begin target).after count).phase =
              .resume engine.sessions.size (.error depth))) ∧
    (engine.WellNested → ∀ count, Proper ((engine.begin target).after count)) ∧
    (engine.sessions.running = [] → ∀ fuel value last,
      engine.start fuel target = some (value, last) →
        value = target ∧ last.sessions.running = []) := by
  have orderly : engine.registry.Orderly := by
    rw [builtin]
    exact Registry.orderly_builtin
  refine ⟨?_, ?_, ?_⟩
  · intro count returns
    obtain ⟨last, depth, same, within, phase, ended⟩ := returns.ended orderly
    refine ⟨last, depth, same, phase, ended, ?_⟩
    rcases Nat.eq_or_lt_of_le within with meant | outer
    · refine .inl ⟨meant, ?_⟩
      rw [ended.phase, Run.handBack, if_pos meant]
    · refine .inr ⟨outer, ?_⟩
      rw [ended.phase, Run.handBack, if_neg (Nat.ne_of_lt outer)]
  · intro nested count
    exact proper_of_sound ((Run.sound_begin orderly nested target).after count)
  · intro idle fuel value last done
    exact start_eq_some orderly idle done

/-- Hooks that count how often any of them is called, and write that down. -/
def counting : Hooks where
  Memory := Nat
  memory := 0
  before := [fun calls target level => .line
    (natText (calls + 1) ++ ": " ++ target.typeName ++ " begins at " ++ natText level ++ "\n")
    (calls + 1)]
  after := [fun calls target level => .line
    (natText (calls + 1) ++ ": " ++ target.typeName ++ " ends at " ++ natText level ++ "\n")
    (calls + 1)]

/-- A console with hooks in which a session begins and ends while an expression waits. -/
def detour : Engine :=
  { onScript ["1 +", "cd 2", "3 *", "exit", "x"] with hooks := counting }

theorem told_detour :
    let run := detour.begin .main
    (run.after 8).engine.sessions.size = 0 ∧
      (∀ earlier < 8, 0 < (run.after earlier).engine.sessions.size) ∧
      (run.after 3).engine.desk.buffer = .ofText "3 *\n" ∧
      (run.after 5).engine.desk.buffer = .ofText "1 +\n" ∧
      (run.after 8).engine.desk.transcript.output =
        "1: object begins at 0\n2: int begins at 1\n3: int ends at 1\n" ++
          "NameError: undefined local variable `x`\n4: object ends at 0\n" ∧
      (detour.start 9 .main).isSome := by
  simp only [detour, onScript, Registry.builtin, Commands.registerBuffering,
    Commands.registerNesting, Commands.registerPattern_amend, Commands.ofSimplePattern_percent,
    Commands.registerPattern_cd]
  decide +kernel

/-- The session inside is left with an expression of its own unfinished, and the one around it takes
up the expression that waits there. -/
theorem sessions_unwind_around_a_detour :
    let run := detour.begin .main
    Ended detour .main 0 (run.after 8) ∧ Proper (run.after 3) ∧
      (run.after 3).engine.desk.buffer = .ofText "3 *\n" ∧
      (run.after 5).engine.desk.buffer = .ofText "1 +\n" ∧
      (run.after 8).engine.desk.transcript.output =
        "1: object begins at 0\n2: int begins at 1\n3: int ends at 1\n" ++
          "NameError: undefined local variable `x`\n4: object ends at 0\n" ∧
      ∃ last, detour.start 9 .main = some (.main, last) ∧ last.sessions.running = [] := by
  obtain ⟨size, before, inside, around, output, starts⟩ := told_detour
  obtain ⟨calls, states, ends⟩ := sessions_unwind_exactly detour rfl .main
  obtain ⟨⟨value, last⟩, done⟩ := Option.isSome_iff_exists.mp starts
  obtain ⟨rfl, none⟩ := ends rfl 9 value last done
  have nested : detour.WellNested := Idle.wellNested ⟨rfl, rfl, rfl⟩
  refine ⟨?_, states nested 3, inside, around, output, last, done, none⟩
  obtain ⟨_, depth, _, _, ended, ⟨meant, _⟩ | ⟨outer, _⟩⟩ := calls 8 ⟨size, before⟩
  · change depth = 0 at meant
    rwa [meant] at ended
  · exact absurd outer (Nat.not_lt_zero depth)

end Engine

end Console
