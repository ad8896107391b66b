import Console.Proofs.Engine.Brackets

/-!
# How sessions are nested

Runs are followed step by step.  In every state of a run each session knows its place: its depth is
its position, its parent is the position before it, and sessions that begin later have larger
identities.  As many buffers are put aside as sessions are running, and a way out leads to a
session that is there.
-/

namespace Console

namespace SessionStack

/-- Sessions know their places, and their identities grow from the outermost inwards. -/
structure Aligned (stack : SessionStack) : Prop where
  depth : ∀ place session, stack.get? place = some session → session.depth = place
  parent : ∀ place session, stack.get? place = some session →
    session.parent = if place = 0 then none else some (place - 1)
  ids : stack.running.Pairwise fun inner outer => outer.id < inner.id
  fresh : ∀ session ∈ stack.running, session.id < stack.nextId

theorem get?_push (stack : SessionStack) (target : Value) (place : Nat) :
    (stack.push target).get? place =
      if place = stack.size then some (stack.next target) else stack.get? place := by
  unfold get? toList push
  dsimp only
  rw [List.reverse_cons]
  split
  next last =>
    subst last
    rw [size, ← List.length_reverse, List.getElem?_concat_length]
  next elsewhere =>
    rw [size, ← List.length_reverse] at elsewhere
    rcases Nat.lt_or_gt_of_ne elsewhere with below | above
    · rw [List.getElem?_append_left below]
    · rw [List.getElem?_eq_none (by rw [List.length_append, List.length_singleton]; omega),
        List.getElem?_eq_none (by omega)]

theorem get?_pop {stack : SessionStack} {place : Nat} {session : Session}
    (found : stack.pop.get? place = some session) : stack.get? place = some session := by
  unfold get? toList pop at *
  cases running : stack.running with
  | nil =>
      rw [running] at found
      exact found
  | cons inner rest =>
      rw [running, List.tail_cons] at found
      rw [List.reverse_cons]
      obtain ⟨within, _⟩ := List.getElem?_eq_some_iff.mp found
      rwa [List.getElem?_append_left within]

theorem level_of_running {stack : SessionStack} {session : Session} {rest : List Session}
    (running : stack.running = session :: rest) : stack.level = rest.length := by
  rw [level, size, running, List.length_cons, Nat.add_sub_cancel]

/-- The sessions counted from the outermost one are those that are running, counted from the
innermost one. -/
theorem get?_eq {stack : SessionStack} {place : Nat} (within : place < stack.size) :
    stack.get? place = stack.running[stack.level - place]? := List.getElem?_reverse within

namespace Aligned

variable {stack : SessionStack}

/-- The depth of a session is the number of sessions around it. -/
theorem depth_getElem (aligned : stack.Aligned) {count : Nat}
    (within : count < stack.running.length) :
    stack.running[count].depth = stack.size - (count + 1) := by
  refine aligned.depth _ _ ?_
  rw [get?_eq (by rw [size]; omega), ← List.getElem?_eq_getElem within, level, size]
  congr 1
  omega

theorem of_nil (none : stack.running = []) : stack.Aligned where
  depth place session found := by simp [get?, toList, none] at found
  parent place session found := by simp [get?, toList, none] at found
  ids := by simp [none]
  fresh := by simp [none]

theorem push (aligned : stack.Aligned) (target : Value) : (stack.push target).Aligned where
  depth place session found := by
    rw [get?_push] at found
    split at found
    next last =>
      cases found
      exact last.symm
    · exact aligned.depth place session found
  parent place session found := by
    rw [get?_push] at found
    split at found
    next last =>
      cases found
      rw [last]
      rfl
    · exact aligned.parent place session found
  ids := List.pairwise_cons.mpr ⟨aligned.fresh, aligned.ids⟩
  fresh session member := by
    rcases List.mem_cons.mp member with rfl | member
    · exact Nat.lt_succ_self _
    · exact Nat.lt_succ_of_lt (aligned.fresh session member)

theorem pop (aligned : stack.Aligned) : stack.pop.Aligned where
  depth place session found := aligned.depth place session (get?_pop found)
  parent place session found := aligned.parent place session (get?_pop found)
  ids := aligned.ids.tail
  fresh session member := aligned.fresh session (List.mem_of_mem_tail member)

end Aligned

end SessionStack

namespace Engine

/-- The sessions of an engine know their places, and for each of them the buffer of the session
around it is put aside. -/
structure WellNested (engine : Engine) : Prop where
  aligned : engine.sessions.Aligned
  suspended : engine.suspended.length = engine.sessions.size

theorem Leaves.running {before after : Engine} {session : Session} {rest : List Session}
    (leaves : before.Leaves session after) (running : before.sessions.running = session :: rest) :
    after.sessions.running = rest := by
  rw [leaves.sessions, SessionStack.pop, running, List.tail_cons]

namespace WellNested

variable {before after : Engine}

theorem of_stays {kind : Event → Prop} (nested : before.WellNested)
    (stays : before.StaysWith kind after) : after.WellNested where
  aligned := by rw [stays.sessions]; exact nested.aligned
  suspended := by rw [stays.sessions, stays.suspended]; exact nested.suspended

theorem of_enters {target : Value} (nested : before.WellNested)
    (enters : before.Enters target after) : after.WellNested where
  aligned := by rw [enters.sessions]; exact nested.aligned.push target
  suspended := by
    rw [enters.sessions, enters.suspended, List.length_cons, nested.suspended,
      SessionStack.size_push]

theorem of_leaves {session : Session} (nested : before.WellNested)
    (leaves : before.Leaves session after) : after.WellNested where
  aligned := by rw [leaves.sessions]; exact nested.aligned.pop
  suspended := by
    rw [leaves.sessions, leaves.suspended, List.length_tail, nested.suspended]
    exact (List.length_tail).symm

end WellNested

/-- An engine that is not at work yet: it has the built-in commands, and no session is running. -/
structure Idle (engine : Engine) : Prop where
  builtin : engine.registry = .builtin
  sessions : engine.sessions.running = []
  suspended : engine.suspended = []

theorem Idle.orderly {engine : Engine} (idle : engine.Idle) : engine.registry.Orderly := by
  rw [idle.builtin]
  exact Registry.orderly_builtin

theorem Idle.wellNested {engine : Engine} (idle : engine.Idle) : engine.WellNested where
  aligned := .of_nil idle.sessions
  suspended := by
    rw [idle.suspended, SessionStack.size, idle.sessions]
    rfl

/-- The running sessions with what waits in them, innermost first. -/
def waiting (engine : Engine) : List (Session × Buffer) :=
  engine.sessions.running.zip (engine.desk.buffer :: engine.suspended)

theorem waiting_eq_cons {engine : Engine} {session : Session} {rest : List Session}
    (running : engine.sessions.running = session :: rest) :
    engine.waiting = (session, engine.desk.buffer) :: rest.zip engine.suspended := by
  rw [waiting, running, List.zip_cons_cons]

theorem tail_waiting (engine : Engine) :
    engine.waiting.tail = engine.sessions.running.tail.zip engine.suspended := by
  unfold waiting
  cases engine.sessions.running with
  | nil => rfl
  | cons session rest => rfl

theorem StaysWith.tail_waiting {kind : Event → Prop} {before after : Engine}
    (stays : before.StaysWith kind after) : after.waiting.tail = before.waiting.tail := by
  rw [Engine.tail_waiting, Engine.tail_waiting, stays.sessions, stays.suspended]

theorem Enters.waiting {before after : Engine} {target : Value}
    (enters : before.Enters target after) :
    after.waiting = (before.sessions.next target, .empty) :: before.waiting := by
  rw [Engine.waiting, enters.sessions, enters.suspended, enters.buffer]
  rfl

/-- A session that ends takes up again the buffer that was put aside last. -/
theorem Leaves.buffers {before after : Engine} {session : Session}
    (leaves : before.Leaves session after) (aside : before.suspended ≠ []) :
    after.desk.buffer :: after.suspended = before.suspended := by
  obtain ⟨buffer, rest, put⟩ := List.exists_cons_of_ne_nil aside
  rw [leaves.buffer, leaves.suspended, put]
  rfl

theorem Leaves.waiting {before after : Engine} {session : Session}
    (leaves : before.Leaves session after) (nested : before.WellNested) :
    after.waiting = before.waiting.tail := by
  rw [Engine.tail_waiting, Engine.waiting, leaves.sessions, SessionStack.pop]
  by_cases aside : before.suspended = []
  · have none : before.sessions.running = [] := by
      rw [← List.length_eq_zero_iff, ← SessionStack.size, ← nested.suspended, aside]
      rfl
    rw [none]
    rfl
  · rw [leaves.buffers aside]

/-- What a step in which a session reads does to the nest of sessions. -/
inductive Turns (before : Engine) : Run → Prop
  | goesOn {after : Engine} (stays : before.StaysWith (·.isBoundary = false) after) :
      Turns before ⟨after, .reading⟩
  | leaves {after : Engine} {depth : Nat} (stays : before.StaysWith (·.isBoundary = false) after)
      (within : depth ≤ before.sessions.level) : Turns before ⟨after, .unwinding depth⟩
  | begins {after : Engine} {value : Value} (stays : before.StaysWith (·.isBoundary = false) after)
      (buffer : after.desk.buffer = before.desk.buffer) : Turns before ⟨after.enter value, .reading⟩

theorem StaysWith.inside {before after : Engine} (stays : before.StaysWith (·.isPlain) after) :
    before.StaysWith (·.isBoundary = false) after := stays.mono fun _ => Event.isBoundary_of_isPlain

theorem Hears.inside {before after : Engine} {origin : Origin} {line : String}
    (hears : before.Hears origin line after) : before.StaysWith (·.isBoundary = false) after := by
  obtain ⟨asked, stays, plain⟩ := hears.stays
  refine ⟨_, stays, ?_⟩
  intro event member
  rcases List.mem_append.mp member with isAsked | isTaken
  · exact Event.isBoundary_of_isPlain (plain event isAsked)
  · rw [List.mem_singleton.mp isTaken]
    rfl

/-- Settling the buffer adds nothing but an evaluation and what is written about it. -/
theorem StaysWith.settle {kind : Event → Prop} (engine : Engine)
    (plain : ∀ event, event.isPlain → kind event)
    (evaluated : ∀ evaluator source result, kind (.evaluated evaluator source result)) :
    engine.StaysWith kind engine.settle := by
  have settles := engine.settles
  generalize engine.settle = after at settles ⊢
  cases settles with
  | forgotten => exact .of_nil ⟨rfl, rfl, rfl, rfl, .refl _⟩
  | waiting => exact .refl engine
  | evaluated =>
      obtain ⟨result, said, stays, saidPlain, _⟩ := engine.evaluateBuffer_spec
      exact .of_cons stays (evaluated ..) fun event member => plain event (saidPlain event member)

theorem stays_settle (engine : Engine) : engine.StaysWith (·.isBoundary = false) engine.settle :=
  .settle engine (fun _ => Event.isBoundary_of_isPlain) fun _ _ _ => rfl

/-- A step in which a session reads goes on in it, leaves it or begins one inside it. -/
theorem turns_readLine {engine : Engine} (orderly : engine.registry.Orderly) :
    Turns engine (Run.readLine engine) := by
  have reads := Run.reads_readLine orderly
  generalize engine.desk.input.delivered? = delivered at reads
  generalize Run.readLine engine = run at reads ⊢
  cases reads with
  | waited remarks => exact .goesOn remarks.stays.inside
  | ended remarks => exact .leaves remarks.stays.inside (Nat.le_refl _)
  | took hears takes =>
      cases takes with
      | unknown =>
          refine .goesOn (hears.inside.trans (StaysWith.trans ?_ (stays_settle _)))
          exact .of_nil ⟨rfl, rfl, rfl, rfl, .refl _⟩
      | done _ stays => exact .goesOn (hears.inside.trans (stays.inside.trans (stays_settle _)))
      | refused _ stays => exact .goesOn (hears.inside.trans stays.inside)
      | left _ remarks within =>
          refine .leaves (hears.inside.trans remarks.stays.inside) ?_
          rwa [← hears.inside.sessions]
      | nested _ remarks =>
          exact .begins (hears.inside.trans remarks.stays.inside)
            (remarks.buffer.trans hears.buffer)

end Engine

/-- A console without any settings that is given some lines. -/
def Engine.onScript (lines : List String) : Engine where
  desk := { input := { base := lines.map .line }, editor := .scripted [] }
  prompts := .standard "console"

theorem Engine.idle_onScript (lines : List String) : (onScript lines).Idle := ⟨rfl, rfl, rfl⟩

theorem Engine.isOpen_onScript (lines : List String) : (onScript lines).desk.transcript.Open :=
  .of_nil rfl rfl

namespace Run

/-- A run after a number of further steps. -/
def after (run : Run) : Nat → Run
  | 0 => run
  | count + 1 => (run.after count).step

theorem after_add (run : Run) (first second : Nat) :
    run.after (first + second) = (run.after first).after second := by
  induction second with
  | zero => rfl
  | succ second ih =>
      change (run.after (first + second)).step = _
      rw [ih]
      rfl

theorem phase_eq_reading {run : Run} (reads : run.phase matches .reading) :
    run.phase = .reading := by
  cases phase : run.phase with
  | reading => rfl
  | unwinding | finished =>
      rw [phase] at reads
      cases reads

/-- A run that is finished stays as it is. -/
theorem after_finished {run : Run} {result : Except Nat Value}
    (finished : run.phase = .finished result) (count : Nat) : run.after count = run := by
  induction count with
  | zero => rfl
  | succ count ih =>
      rw [after, ih, step, finished]

theorem unwind_eq {engine : Engine} {session : Session} {rest : List Session}
    (running : engine.sessions.running = session :: rest) (depth : Nat) :
    unwind engine depth = ⟨engine.leave session depth,
      .resume rest.length (handBack rest.length depth session.target)⟩ := by
  unfold unwind SessionStack.current?
  rw [running, SessionStack.level_of_running running]
  rfl

section

variable {level depth : Nat} (target : Value)

theorem resume_handBack_outermost :
    Phase.resume 0 (handBack 0 0 target) = .finished (.ok target) := rfl

theorem resume_handBack_meant (nested : level ≠ 0) :
    Phase.resume level (handBack level level target) = .reading := by
  rw [handBack, if_pos rfl, Phase.resume, if_neg nested]

theorem resume_handBack_outer (outer : depth ≠ level) (nested : level ≠ 0) :
    Phase.resume level (handBack level depth target) = .unwinding depth := by
  rw [handBack, if_neg outer, Phase.resume, if_neg nested]

/-- When a session ends that others are around, either the next one reads on or it ends as well. -/
theorem resume_handBack (within : depth ≤ level) (nested : level ≠ 0) :
    Phase.resume level (handBack level depth target) = .reading ∨
      Phase.resume level (handBack level depth target) = .unwinding depth ∧ depth ≤ level - 1 := by
  by_cases meant : depth = level
  · subst depth
    exact .inl (resume_handBack_meant target nested)
  · exact .inr ⟨resume_handBack_outer target meant nested, by omega⟩

end

/-- The sessions are well nested, a session that reads is there, and a way out leads to one that is
there. -/
structure Sound (run : Run) : Prop where
  orderly : run.engine.registry.Orderly
  nested : run.engine.WellNested
  placed :
    match run.phase with
    | .reading => run.engine.sessions.running ≠ []
    | .unwinding depth => run.engine.sessions.running ≠ [] ∧ depth ≤ run.engine.sessions.level
    | .finished _ => True

theorem sound_begin {engine : Engine} (orderly : engine.registry.Orderly)
    (nested : engine.WellNested) (target : Value) : (engine.begin target).Sound where
  orderly := orderly
  nested := nested.of_enters (engine.enters_enter target)
  placed := by
    change (engine.enter target).sessions.running ≠ []
    rw [(engine.enters_enter target).sessions]
    exact List.cons_ne_nil _ _

theorem Sound.step {run : Run} (sound : run.Sound) : run.step.Sound := by
  obtain ⟨engine, phase⟩ := run
  obtain ⟨orderly, nested, placed⟩ := sound
  cases phase with
  | finished result => exact ⟨orderly, nested, trivial⟩
  | reading =>
      change (readLine engine).Sound
      have turns := Engine.turns_readLine orderly
      generalize readLine engine = run at turns ⊢
      cases turns with
      | goesOn stays =>
          refine ⟨by rw [stays.registry]; exact orderly, nested.of_stays stays, ?_⟩
          change _ ≠ []
          rw [stays.sessions]
          exact placed
      | leaves stays within =>
          refine ⟨by rw [stays.registry]; exact orderly, nested.of_stays stays, ?_⟩
          change _ ≠ [] ∧ _
          rw [stays.sessions]
          exact ⟨placed, within⟩
      | begins stays =>
          refine sound_begin ?_ (nested.of_stays stays) _
          rw [stays.registry]
          exact orderly
  | unwinding depth =>
      obtain ⟨some, within⟩ := placed
      obtain ⟨session, rest, running⟩ := List.exists_cons_of_ne_nil some
      have leaves := engine.leaves_leave session depth
      have remaining := leaves.running running
      change (unwind engine depth).Sound
      rw [unwind_eq running]
      refine ⟨orderly, nested.of_leaves leaves, ?_⟩
      change depth ≤ engine.sessions.level at within
      rw [SessionStack.level_of_running running] at within
      by_cases outermost : rest.length = 0
      · simp [Phase.resume, outermost]
      · have someLeft : (engine.leave session depth).sessions.running ≠ [] := by
          rw [remaining]
          exact fun none => outermost (by rw [none]; rfl)
        rcases resume_handBack session.target within outermost with reads | ⟨unwinds, lower⟩
        · rw [reads]
          exact someLeft
        · rw [unwinds]
          refine ⟨someLeft, ?_⟩
          change depth ≤ (engine.leave session depth).sessions.level
          rwa [SessionStack.level, SessionStack.size, remaining]

/-- The commands are the same throughout a run. -/
theorem registry_after (run : Run) (count : Nat) :
    (run.after count).engine.registry = run.engine.registry := by
  induction count with
  | zero => rfl
  | succ count ih => exact (registry_step _).trans ih

theorem Sound.after {run : Run} (sound : run.Sound) (count : Nat) : (run.after count).Sound := by
  induction count with
  | zero => exact sound
  | succ count ih => exact ih.step

theorem Sound.registry_step {run : Run} (_ : run.Sound) :
    run.step.engine.registry = run.engine.registry := Run.registry_step run

theorem Sound.registry_after {run : Run} (_ : run.Sound) (count : Nat) :
    (run.after count).engine.registry = run.engine.registry := Run.registry_after run count

end Run

end Console
