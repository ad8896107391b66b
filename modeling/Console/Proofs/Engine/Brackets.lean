import Console.Proofs.Engine.Step
import Console.Proofs.Hooks

/-!
# Sessions as brackets

The hooks of a session enclose all that happens in it, and the sessions inside it have brackets of
their own.  The transcript between two moments is described twice: `Bracketed` says that every
session that has begun has ended, `Unclosed` that some have not, which are then the sessions that
are running.
-/

namespace Console

/-- Whether an event marks the beginning or the end of a session. -/
def Event.isBoundary : Event → Bool
  | .session .. => true
  | _ => false

theorem Event.isBoundary_of_isPlain {event : Event} (plain : event.isPlain) :
    event.isBoundary = false := by
  cases event <;> first | rfl | cases plain

/-- Events in which each session that begins also ends, with its hooks running once at its level on
both occasions; `level` is the level of the outermost sessions among them.  The hooks are given as
they are before the events and as they are left. -/
inductive Bracketed : Nat → Hooks → List Event → Hooks → Prop
  | nil {level : Nat} {hooks : Hooks} : Bracketed level hooks [] hooks
  | event {level : Nat} {hooks left : Hooks} {event : Event} {rest : List Event}
      (other : event.isBoundary = false) (more : Bracketed level hooks rest left) :
      Bracketed level hooks (event :: rest) left
  | session {level : Nat} {target : Value} {hooks entered exited resumed left : Hooks}
      {first inner last rest : List Event} (begun : hooks.RanBefore target level first entered)
      (nested : Bracketed (level + 1) entered inner exited)
      (ended : exited.RanAfter target level last resumed)
      (more : Bracketed level resumed rest left) :
      Bracketed level hooks
        (.session .before target level :: first ++ inner ++
          .session .after target level :: last ++ rest) left

/-- Events in which the sessions on some targets, innermost first, have begun and not ended. -/
inductive Unclosed (level : Nat) (hooks : Hooks) : List Value → List Event → Hooks → Prop
  | nil {events : List Event} {left : Hooks} (bracketed : Bracketed level hooks events left) :
      Unclosed level hooks [] events left
  | session {target : Value} {targets : List Value} {before first inner : List Event}
      {middle entered left : Hooks} (outer : Unclosed level hooks targets before middle)
      (begun : middle.RanBefore target (level + targets.length) first entered)
      (nested : Bracketed (level + targets.length + 1) entered inner left) :
      Unclosed level hooks (target :: targets)
        (before ++ .session .before target (level + targets.length) :: first ++ inner) left

/-- Events in which some sessions end in turn, each with its hooks running once at its depth. -/
inductive Closing : List Session → Hooks → List Event → Hooks → Prop
  | nil {hooks : Hooks} : Closing [] hooks [] hooks
  | session {sessions : List Session} {session : Session} {hooks middle left : Hooks}
      {events said last : List Event} (others : Closing sessions hooks events middle)
      (plain : ∀ event ∈ said, event.isPlain)
      (ended : middle.RanAfter session.target session.depth last left) :
      Closing (sessions ++ [session]) hooks
        (events ++ (said ++ .session .after session.target session.depth :: last)) left

variable {level : Nat} {hooks middle left : Hooks}

namespace Bracketed

theorem append {first second : List Event} (begun : Bracketed level hooks first middle)
    (continued : Bracketed level middle second left) :
    Bracketed level hooks (first ++ second) left := by
  induction begun with
  | nil => exact continued
  | event other _ ih => exact .event other (ih continued)
  | session begun nested ended _ _ ih =>
      rw [List.append_assoc]
      exact .session begun nested ended (ih continued)

theorem of_no_boundary {events : List Event}
    (none : ∀ event ∈ events, event.isBoundary = false) : Bracketed level hooks events hooks := by
  induction events with
  | nil => exact .nil
  | cons event rest ih =>
      exact .event (none event List.mem_cons_self)
        (ih fun other member => none other (List.mem_cons_of_mem _ member))

theorem of_isPlain {events : List Event} (plain : ∀ event ∈ events, event.isPlain) :
    Bracketed level hooks events hooks :=
  .of_no_boundary fun event member => Event.isBoundary_of_isPlain (plain event member)

end Bracketed

namespace Unclosed

variable {targets : List Value} {events : List Event}

theorem append {more : List Event} (unclosed : Unclosed level hooks targets events middle)
    (bracketed : Bracketed (level + targets.length) middle more left) :
    Unclosed level hooks targets (events ++ more) left := by
  cases unclosed with
  | nil begun => exact .nil (begun.append bracketed)
  | session outer begun nested =>
      rw [List.append_assoc]
      exact .session outer begun (nested.append bracketed)

/-- A session begins inside those that have begun. -/
theorem enter {target : Value} {first : List Event}
    (unclosed : Unclosed level hooks targets events middle)
    (begun : middle.RanBefore target (level + targets.length) first left) :
    Unclosed level hooks (target :: targets)
      (events ++ .session .before target (level + targets.length) :: first) left := by
  have entered := Unclosed.session unclosed begun .nil
  rwa [List.append_nil] at entered

/-- The innermost session ends. -/
theorem leave {target : Value} {last : List Event}
    (unclosed : Unclosed level hooks (target :: targets) events middle)
    (ended : middle.RanAfter target (level + targets.length) last left) :
    Unclosed level hooks targets
      (events ++ .session .after target (level + targets.length) :: last) left := by
  cases unclosed with
  | session outer begun nested =>
      have enclosed := outer.append (.session begun nested ended .nil)
      simpa only [List.append_assoc, List.append_nil, List.cons_append] using enclosed

/-- If no session is open, all are closed. -/
theorem bracketed (unclosed : Unclosed level hooks [] events left) :
    Bracketed level hooks events left := by
  cases unclosed with
  | nil bracketed => exact bracketed

end Unclosed

/-- A transcript goes on with plain events, and with marks of where sessions begin and end. -/
def Transcript.Marks (before after : Transcript) : Prop :=
  ∃ added, before.Extends after added ∧ ∀ event ∈ added,
    event.isPlain ∨ ∃ boundary target level, event = .session boundary target level

theorem Transcript.Marks.isOpen {before after : Transcript} (marks : before.Marks after)
    (isOpen : before.Open) : after.Open := by
  obtain ⟨_, extended, _⟩ := marks
  exact extended.isOpen isOpen

namespace Engine

/-- Running hooks marks the boundary and calls them, and does nothing else. -/
theorem exists_runHooks_eq (engine : Engine) (boundary : Boundary) (target : Value) (level : Nat) :
    ∃ events memory transcript,
      Called target level (engine.hooks.at boundary) engine.hooks.memory events memory ∧
      engine.desk.transcript.Extends transcript (.session boundary target level :: events) ∧
      engine.runHooks boundary target level =
        { engine with
          desk := { engine.desk with transcript }
          hooks := engine.hooks.remembering memory } := by
  let marked := engine.desk.transcript.add (.session boundary target level)
  obtain ⟨events, called, extended⟩ :=
    Called.exists_call target level (engine.hooks.at boundary) engine.hooks.memory marked
  have begun := Transcript.Extends.add engine.desk.transcript (.session boundary target level)
  exact ⟨events, _, _, called, begun.trans extended, rfl⟩

/-- A session begins on an empty buffer, and what has waited until then is put aside. -/
structure Enters (before : Engine) (target : Value) (after : Engine) : Prop where
  registry : after.registry = before.registry
  sessions : after.sessions = before.sessions.push target
  suspended : after.suspended = before.desk.buffer :: before.suspended
  buffer : after.desk.buffer = .empty
  hooks : ∃ first said, before.hooks.RanBefore target before.sessions.size first after.hooks ∧
    before.desk.transcript.Extends after.desk.transcript
      (.session .before target before.sessions.size :: first ++ said) ∧
    ∀ event ∈ said, event.isPlain

theorem enters_enter (engine : Engine) (target : Value) :
    engine.Enters target (engine.enter target) := by
  obtain ⟨first, memory, transcript, called, extended, ran⟩ :=
    engine.exists_runHooks_eq .before target engine.sessions.size
  unfold enter
  dsimp only
  rw [ran]
  exact
    { registry := rfl
      sessions := rfl
      suspended := rfl
      buffer := rfl
      hooks := by
        refine ⟨first, [_], ⟨memory, called, rfl⟩,
          extended.trans (.add _ (.logged .debug _)), ?_⟩
        intro event member
        rw [List.mem_singleton.mp member]
        rfl }

/-- The innermost session ends, and what was put aside for it is taken up again. -/
structure Leaves (before : Engine) (session : Session) (after : Engine) : Prop where
  registry : after.registry = before.registry
  sessions : after.sessions = before.sessions.pop
  suspended : after.suspended = before.suspended.tail
  buffer : after.desk.buffer = before.suspended.head?.getD .empty
  hooks : ∃ said last,
    before.hooks.RanAfter session.target before.sessions.level last after.hooks ∧
    before.desk.transcript.Extends after.desk.transcript
      (said ++ .session .after session.target before.sessions.level :: last) ∧
    ∀ event ∈ said, event.isPlain

theorem leaves_leave (engine : Engine) (session : Session) (depth : Nat) :
    engine.Leaves session (engine.leave session depth) := by
  let message := "session " ++ natText session.id ++ " ended, unwinding to level " ++ natText depth
  let popped : Engine :=
    { engine.withBuffer (engine.suspended.head?.getD .empty) with
      sessions := engine.sessions.pop
      suspended := engine.suspended.tail }
  obtain ⟨last, memory, transcript, called, extended, ran⟩ :=
    (popped.log .debug message).exists_runHooks_eq .after session.target engine.sessions.level
  have left : engine.leave session depth = _ := ran
  rw [left]
  exact
    { registry := rfl
      sessions := rfl
      suspended := rfl
      buffer := rfl
      hooks := by
        have begun := Transcript.Extends.add engine.desk.transcript (.logged .debug message)
        refine ⟨[_], last, ⟨memory, called, rfl⟩, begun.trans extended, ?_⟩
        intro event member
        rw [List.mem_singleton.mp member]
        rfl }

theorem Enters.marks {before after : Engine} {target : Value}
    (enters : before.Enters target after) :
    before.desk.transcript.Marks after.desk.transcript := by
  obtain ⟨first, said, ran, extended, plain⟩ := enters.hooks
  refine ⟨_, extended, ?_⟩
  intro event member
  rcases List.mem_append.mp member with began | isSaid
  · rcases List.mem_cons.mp began with isMark | called
    · exact .inr ⟨_, _, _, isMark⟩
    · exact .inl (ran.isPlain event called)
  · exact .inl (plain event isSaid)

theorem Leaves.marks {before after : Engine} {session : Session}
    (leaves : before.Leaves session after) :
    before.desk.transcript.Marks after.desk.transcript := by
  obtain ⟨said, last, ran, extended, plain⟩ := leaves.hooks
  refine ⟨_, extended, ?_⟩
  intro event member
  rcases List.mem_append.mp member with isSaid | ended
  · exact .inl (plain event isSaid)
  · rcases List.mem_cons.mp ended with isMark | called
    · exact .inr ⟨_, _, _, isMark⟩
    · exact .inl (ran.isPlain event called)

end Engine

end Console
