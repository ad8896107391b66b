import Console.Proofs.Engine.Assembly

/-!
# What waits in the buffers

Whenever a session is about to read a line, nothing waits in its buffer or an expression that has
begun and is not complete.  The sessions around it have been left in the same state, so that they
go on as if they had just read a line when their turn comes again.
-/

namespace Console

/-- A buffer that is ready for the next line: nothing waits in it, or an expression that has begun,
with a newline at the end of each of its lines, and that is not complete yet. -/
def Buffer.Ready (buffer : Buffer) : Prop :=
  buffer = .empty ∨
    buffer.isBlank = false ∧ buffer.text.toList.getLast? = some '\n' ∧
      (∀ line ∈ buffer.lines, line.toList.getLast? = some '\n') ∧
        Calculator.isComplete buffer.text = false

namespace Buffer

theorem ready_empty : empty.Ready := .inl rfl

theorem Ready.terminated {buffer : Buffer} (ready : buffer.Ready) : buffer.Terminated := by
  rcases ready with rfl | ⟨_, ended, _⟩
  · exact terminated_empty
  · exact terminated_of_newline ended

/-- A terminated buffer that is neither blank nor complete is ready. -/
theorem Terminated.ready {buffer : Buffer} (terminated : buffer.Terminated)
    (some : buffer.isBlank = false) (incomplete : Calculator.isComplete buffer.text = false) :
    buffer.Ready := by
  refine .inr ⟨some, ?_, fun line => terminated.getLast?_of_mem_lines, incomplete⟩
  cases last : buffer.text.toList.getLast? with
  | none =>
      rw [isBlank, isBlankText, List.getLast?_eq_none_iff.mp last] at some
      cases some
  | some c => rw [terminated c last]

end Buffer

/-- An event that, if an expression is evaluated, comes from an expression that is neither blank
nor incomplete and leaves a given buffer empty. -/
def Event.Sensible (after : Buffer) : Event → Prop
  | .evaluated _ source _ =>
      isBlankText source = false ∧ Calculator.isComplete source = true ∧ after = .empty
  | _ => True

theorem Event.sensible_of_isPlain {event : Event} (plain : event.isPlain) (after : Buffer) :
    event.Sensible after := by
  cases event <;> trivial

theorem Event.sensible_of_mark {event : Event}
    (mark : event.isPlain ∨ ∃ boundary target level, event = .session boundary target level)
    (after : Buffer) : event.Sensible after := by
  obtain plain | ⟨_, _, _, rfl⟩ := mark
  · exact sensible_of_isPlain plain after
  · trivial

namespace Engine

/-- Settling a terminated buffer makes it ready. -/
theorem ready_settle {engine : Engine} (terminated : engine.desk.buffer.Terminated) :
    engine.settle.desk.buffer.Ready := by
  have settles := engine.settles
  generalize engine.settle = after at settles ⊢
  cases settles with
  | forgotten => exact Buffer.ready_empty
  | evaluated =>
      obtain ⟨_, _, _, _, emptied⟩ := engine.evaluateBuffer_spec
      rw [emptied]
      exact Buffer.ready_empty
  | waiting some incomplete => exact terminated.ready some incomplete

theorem sensible_settle (engine : Engine) :
    engine.StaysWith (·.Sensible engine.settle.desk.buffer) engine.settle := by
  have settles := engine.settles
  generalize engine.settle = after at settles ⊢
  cases settles with
  | forgotten => exact .of_nil ⟨rfl, rfl, rfl, rfl, .refl _⟩
  | waiting => exact .refl engine
  | evaluated some complete =>
      obtain ⟨result, said, stays, plain, emptied⟩ := engine.evaluateBuffer_spec
      refine .of_cons stays ⟨some, complete, emptied⟩ ?_
      exact fun event member => Event.sensible_of_isPlain (plain event member) _

/-- The transcript goes on with events of one kind. -/
def Adds (kind : Event → Prop) (before after : Engine) : Prop :=
  ∃ added, before.desk.transcript.Extends after.desk.transcript added ∧ ∀ event ∈ added, kind event

theorem StaysWith.adds {kind : Event → Prop} {before after : Engine}
    (stays : before.StaysWith kind after) : before.Adds kind after := by
  obtain ⟨added, stays, ofKind⟩ := stays
  exact ⟨added, stays.transcript, ofKind⟩

theorem Adds.trans {kind : Event → Prop} {first second third : Engine}
    (begun : first.Adds kind second) (continued : second.Adds kind third) :
    first.Adds kind third := by
  obtain ⟨early, extended, earlyKind⟩ := begun
  obtain ⟨late, extendedOn, lateKind⟩ := continued
  refine ⟨early ++ late, extended.trans extendedOn, ?_⟩
  intro event member
  exact (List.mem_append.mp member).elim (earlyKind event) (lateKind event)

theorem StaysWith.sensible {before after : Engine} {buffer : Buffer}
    (stays : before.StaysWith (·.isPlain) after) : before.StaysWith (·.Sensible buffer) after :=
  stays.mono fun _ plain => Event.sensible_of_isPlain plain buffer

theorem Hears.sensible {before after : Engine} {origin : Origin} {line : String} {buffer : Buffer}
    (hears : before.Hears origin line after) : before.StaysWith (·.Sensible buffer) after := by
  obtain ⟨asked, stays, plain⟩ := hears.stays
  refine ⟨_, stays, ?_⟩
  intro event member
  rcases List.mem_append.mp member with isAsked | isTaken
  · exact Event.sensible_of_isPlain (plain event isAsked) _
  · rw [List.mem_singleton.mp isTaken]
    trivial

end Engine

namespace Run

open Engine

/-- The output is open, the buffer of a session that reads is ready, and so are the buffers of the
sessions around the innermost one. -/
structure Tidy (run : Run) : Prop where
  isOpen : run.engine.desk.transcript.Open
  around : ∀ place ∈ run.engine.waiting.tail, place.2.Ready
  current : run.phase = .reading → run.engine.desk.buffer.Ready

namespace Tidy

variable {before after : Engine} {phase next : Phase}

theorem of_stays {kind : Event → Prop} (tidy : Tidy ⟨before, phase⟩)
    (stays : before.StaysWith kind after) (current : next = .reading → after.desk.buffer.Ready) :
    Tidy ⟨after, next⟩ where
  isOpen := stays.isOpen tidy.isOpen
  around := by
    change ∀ place ∈ after.waiting.tail, place.2.Ready
    rw [stays.tail_waiting]
    exact tidy.around
  current := current

/-- The buffer that is put aside when a session begins is ready. -/
theorem of_enters {session : Session} {rest : List Session} (tidy : Tidy ⟨before, .reading⟩)
    (running : before.sessions.running = session :: rest) (value : Value) :
    Tidy ⟨before.enter value, .reading⟩ := by
  have enters := before.enters_enter value
  have around : ∀ place ∈ before.waiting.tail, place.2.Ready := tidy.around
  refine ⟨enters.marks.isOpen tidy.isOpen, ?_, fun _ => Buffer.ready_empty⟩
  · change ∀ place ∈ (before.enter value).waiting.tail, place.2.Ready
    rw [enters.waiting, List.tail_cons]
    rw [Engine.waiting_eq_cons running, List.tail_cons] at *
    exact List.forall_mem_cons.mpr ⟨tidy.current rfl, around⟩

/-- The buffer that is taken up again when a session ends is ready. -/
theorem of_leaves {session : Session} {rest : List Session} {depth : Nat}
    (tidy : Tidy ⟨before, phase⟩) (nested : before.WellNested)
    (running : before.sessions.running = session :: rest) (some : next = .reading → rest ≠ []) :
    Tidy ⟨before.leave session depth, next⟩ := by
  have leaves := before.leaves_leave session depth
  have around : ∀ place ∈ before.waiting.tail, place.2.Ready := tidy.around
  rw [← leaves.waiting nested] at around
  refine ⟨leaves.marks.isOpen tidy.isOpen,
    fun place member => around place (List.mem_of_mem_tail member), ?_⟩
  · intro reads
    obtain ⟨session, more, remaining⟩ := List.exists_cons_of_ne_nil (some reads)
    rw [← leaves.running running] at remaining
    rw [Engine.waiting_eq_cons remaining] at around
    exact around _ List.mem_cons_self

theorem readLine {engine : Engine} (orderly : engine.registry.Orderly)
    (some : engine.sessions.running ≠ []) (tidy : Tidy ⟨engine, .reading⟩) :
    (Run.readLine engine).Tidy := by
  have ready : engine.desk.buffer.Ready := tidy.current rfl
  have reads := reads_readLine orderly
  generalize engine.desk.input.delivered? = delivered at reads
  generalize Run.readLine engine = run at reads ⊢
  cases reads with
  | waited remarks => exact tidy.of_stays remarks.stays fun _ => by rwa [remarks.buffer]
  | ended remarks => exact tidy.of_stays remarks.stays nofun
  | @took _ line heard _ hears takes =>
      have stillReady : heard.desk.buffer.Ready := by rwa [hears.buffer]
      have tidyHeard : Tidy ⟨heard, .reading⟩ := tidy.of_stays hears.inside fun _ => stillReady
      cases takes with
      | unknown =>
          have grown : heard.StaysWith (·.isBoundary = false)
              (heard.withBuffer (heard.desk.buffer.push line)) :=
            .of_nil ⟨rfl, rfl, rfl, rfl, .refl _⟩
          exact tidyHeard.of_stays (grown.trans (stays_settle _)) fun _ =>
            ready_settle (Buffer.terminated_push _ line)
      | done _ worked _ terminated =>
          exact tidyHeard.of_stays (worked.inside.trans (stays_settle _)) fun _ =>
            ready_settle (terminated stillReady.terminated)
      | refused _ worked spared =>
          exact tidyHeard.of_stays worked fun _ => by rwa [spared (.inl tidyHeard.isOpen)]
      | left _ remarks => exact tidyHeard.of_stays remarks.stays nofun
      | nested _ remarks =>
          obtain ⟨session, rest, running⟩ := List.exists_cons_of_ne_nil some
          rw [← hears.inside.sessions, ← remarks.stays.sessions] at running
          have tidyAfter : Tidy ⟨_, .reading⟩ :=
            tidyHeard.of_stays remarks.stays fun _ => by rwa [remarks.buffer]
          exact tidyAfter.of_enters running _

theorem step {run : Run} (sound : run.Sound) (tidy : run.Tidy) : run.step.Tidy := by
  obtain ⟨engine, phase⟩ := run
  obtain ⟨orderly, nested, placed⟩ := sound
  cases phase with
  | finished result => exact tidy
  | reading => exact tidy.readLine orderly placed
  | unwinding depth =>
      obtain ⟨some, within⟩ := placed
      obtain ⟨session, rest, running⟩ := List.exists_cons_of_ne_nil some
      change (unwind engine depth).Tidy
      rw [unwind_eq running]
      refine tidy.of_leaves nested running ?_
      rintro reads rfl
      cases reads

end Tidy

theorem Tidy.after {run : Run} (sound : run.Sound) (tidy : run.Tidy) (count : Nat) :
    (run.after count).Tidy := by
  induction count with
  | zero => exact tidy
  | succ count ih => exact ih.step (sound.after count)

theorem tidy_begin {engine : Engine} (idle : engine.sessions.running = [])
    (isOpen : engine.desk.transcript.Open) (target : Value) :
    (engine.begin target).Tidy := by
  have enters := engine.enters_enter target
  refine ⟨enters.marks.isOpen isOpen, ?_, fun _ => Buffer.ready_empty⟩
  · change ∀ place ∈ (engine.enter target).waiting.tail, place.2.Ready
    rw [enters.waiting, List.tail_cons, waiting, idle, List.zip_nil_left]
    simp

/-- In every step an expression is evaluated only if it is neither blank nor incomplete, and the
buffer is empty afterwards. -/
theorem Sound.sensible_step {run : Run} (sound : run.Sound) :
    run.engine.Adds (·.Sensible run.step.engine.desk.buffer) run.step.engine := by
  obtain ⟨engine, phase⟩ := run
  obtain ⟨orderly, nested, placed⟩ := sound
  cases phase with
  | finished result => exact ⟨[], .refl _, by simp⟩
  | unwinding depth =>
      obtain ⟨some, within⟩ := placed
      obtain ⟨session, rest, running⟩ := List.exists_cons_of_ne_nil some
      change engine.Adds (·.Sensible (unwind engine depth).engine.desk.buffer)
        (unwind engine depth).engine
      rw [unwind_eq running]
      obtain ⟨added, extended, marks⟩ := (engine.leaves_leave session depth).marks
      exact ⟨added, extended, fun event member => Event.sensible_of_mark (marks event member) _⟩
  | reading =>
      have reads := reads_readLine orderly
      change engine.Adds (·.Sensible (Run.readLine engine).engine.desk.buffer)
        (Run.readLine engine).engine
      generalize engine.desk.input.delivered? = delivered at reads
      generalize Run.readLine engine = run at reads ⊢
      cases reads with
      | waited remarks => exact remarks.stays.sensible.adds
      | ended remarks => exact remarks.stays.sensible.adds
      | @took _ line heard _ hears takes =>
          refine hears.sensible.adds.trans ?_
          cases takes with
          | unknown =>
              let pushed := heard.withBuffer (heard.desk.buffer.push line)
              exact pushed.sensible_settle.adds
          | @done after _ worked => exact worked.sensible.adds.trans after.sensible_settle.adds
          | refused _ worked => exact worked.sensible.adds
          | left _ remarks => exact remarks.stays.sensible.adds
          | @nested after value _ remarks =>
              refine remarks.stays.sensible.adds.trans ?_
              obtain ⟨added, extended, marks⟩ := (after.enters_enter value).marks
              exact
                ⟨added, extended, fun event member => Event.sensible_of_mark (marks event member) _⟩

end Run

namespace Engine

/-- The pending buffer is never stale.  If the output is open, then whenever a session reads, its
buffer is ready; and in every step, an expression is evaluated only if it is neither blank nor
incomplete, and nothing waits afterwards. -/
theorem pending_buffer_is_never_stale (engine : Engine) (idle : engine.Idle)
    (isOpen : engine.desk.transcript.Open) (target : Value) (count : Nat) :
    let before := (engine.begin target).after count
    let next := (engine.begin target).after (count + 1)
    (before.phase = .reading → before.engine.desk.buffer.Ready) ∧
      ∃ added, before.engine.desk.transcript.Extends next.engine.desk.transcript added ∧
        ∀ session source result, .evaluated session source result ∈ added →
          isBlankText source = false ∧ Calculator.isComplete source = true ∧
            next.engine.desk.buffer = .empty := by
  have sound (count : Nat) : ((engine.begin target).after count).Sound :=
    (Run.sound_begin idle.orderly idle.wellNested target).after count
  have tidy : ((engine.begin target).after count).Tidy := by
    induction count with
    | zero => exact Run.tidy_begin idle.sessions isOpen target
    | succ count ih => exact ih.step (sound count)
  obtain ⟨added, extended, sensible⟩ := (sound count).sensible_step
  refine ⟨tidy.current, added, extended, ?_⟩
  intro session source result member
  exact sensible _ member

/-- A console in which an expression is given on two lines. -/
def onTwoLines : Engine := onScript ["1 +", "2"]

theorem told_onTwoLines :
    let before := (onTwoLines.begin .main).after 1
    let next := (onTwoLines.begin .main).after 2
    (before.phase matches .reading) ∧ before.engine.desk.buffer = .ofText "1 +\n" ∧
      evaluatedIn 0 before.engine.desk.transcript.events.reverse = [] ∧
      evaluatedIn 0 next.engine.desk.transcript.events.reverse = ["1 +\n2\n"] := by
  simp only [onTwoLines, onScript, Registry.builtin, Commands.registerBuffering,
    Commands.registerNesting, Commands.registerPattern_amend, Commands.ofSimplePattern_percent,
    Commands.registerPattern_cd]
  decide +kernel

/-- The step in which a line is read that completes the expression that waits. -/
theorem pending_buffer_of_a_completed_expression :
    let before := (onTwoLines.begin .main).after 1
    let next := (onTwoLines.begin .main).after 2
    before.engine.desk.buffer = .ofText "1 +\n" ∧ before.engine.desk.buffer.Ready ∧
      ∃ added, before.engine.desk.transcript.Extends next.engine.desk.transcript added ∧
        (∃ result, .evaluated (some 0) "1 +\n2\n" result ∈ added) ∧
          Calculator.isComplete "1 +\n2\n" = true ∧ next.engine.desk.buffer = .empty := by
  obtain ⟨reads, waits, nothing, evaluated⟩ := told_onTwoLines
  obtain ⟨ready, added, extended, sensible⟩ :=
    pending_buffer_is_never_stale onTwoLines (idle_onScript _) (isOpen_onScript _) .main 1
  rw [extended.events, List.reverse_append, List.reverse_reverse, Registry.evaluatedIn_append,
    nothing, List.nil_append] at evaluated
  have member : "1 +\n2\n" ∈ evaluatedIn 0 added := by
    rw [evaluated]
    exact List.mem_singleton_self _
  obtain ⟨result, member⟩ := mem_evaluatedIn.mp member
  obtain ⟨_, complete, emptied⟩ := sensible _ _ _ member
  exact ⟨waits, ready (Run.phase_eq_reading reads), added, extended, ⟨result, member⟩, complete,
    emptied⟩

end Engine

end Console
