import Console.Hooks
import Console.Proofs.Command.Action

/-!
# What hooks do when they are called

A call of a hook is described by what it leaves in the transcript and by what it remembers
afterwards.  The description takes the writing of the hook apart and says nothing of how the writing
is done: a text of it is written or not, the hook is told which, and goes on with that.
-/

namespace Console

/-- A piece of writing may leave some events in the transcript and come to a result. -/
inductive Writing.Traces {α : Type} : Writing α → List Event → α → Prop
  | done (value : α) : Traces (.done value) [] value
  | wrote {text : String} {next : Except IoCause Unit → Writing α} {events : List Event} {value : α}
      (more : Traces (next (.ok ())) events value) :
      Traces (.write text next) (.wrote text :: events) value
  | unwritten {text : String} {next : Except IoCause Unit → Writing α} {cause : IoCause}
      {events : List Event} {value : α} (more : Traces (next (.error cause)) events value) :
      Traces (.write text next) (.unwritten text cause :: events) value

namespace Writing

variable {α : Type}

/-- Nothing but what was written, and what was not, is left. -/
theorem Traces.isPlain {writing : Writing α} {events : List Event} {value : α}
    (traces : writing.Traces events value) : ∀ event ∈ events, event.isPlain := by
  induction traces with
  | done => nofun
  | wrote _ ih => exact List.forall_mem_cons.mpr ⟨rfl, ih⟩
  | unwritten _ ih => exact List.forall_mem_cons.mpr ⟨rfl, ih⟩

/-- Writing is done as it is described, wherever the output fails. -/
theorem exists_traces_run (writing : Writing α) (transcript : Transcript) :
    ∃ events, writing.Traces events (writing.run transcript).1 ∧
      transcript.Extends (writing.run transcript).2 events := by
  induction writing generalizing transcript with
  | done value => exact ⟨[], .done value, .refl transcript⟩
  | write text next ih =>
      unfold run
      obtain ⟨after, ⟨written, extended⟩ | ⟨cause, written, extended⟩⟩ :=
        transcript.write_cases text
      · rw [written]
        obtain ⟨events, traces, extendedOn⟩ := ih (.ok ()) after
        exact ⟨_, .wrote traces, extended.trans extendedOn⟩
      · rw [written]
        obtain ⟨events, traces, extendedOn⟩ := ih (.error cause) after
        exact ⟨_, .unwritten traces, extended.trans extendedOn⟩

end Writing

/-- Hooks have been called in a row for a session on a target at a level, each with what was
remembered when the one before it was done. -/
inductive Called {Memory : Type} (target : Value) (level : Nat) :
    List (Hook Memory) → Memory → List Event → Memory → Prop
  | nil {memory : Memory} : Called target level [] memory [] memory
  | cons {hook : Hook Memory} {hooks : List (Hook Memory)} {memory middle after : Memory}
      {events more : List Event} (first : (hook memory target level).Traces events middle)
      (others : Called target level hooks middle more after) :
      Called target level (hook :: hooks) memory (events ++ more) after

namespace Called

variable {Memory : Type} {target : Value} {level : Nat}

theorem isPlain {hooks : List (Hook Memory)} {memory after : Memory} {events : List Event}
    (called : Called target level hooks memory events after) : ∀ event ∈ events, event.isPlain := by
  induction called with
  | nil => nofun
  | cons first _ ih => exact List.forall_mem_append.mpr ⟨first.isPlain, ih⟩

/-- Calling hooks is calling them in a row. -/
theorem exists_call (target : Value) (level : Nat) (hooks : List (Hook Memory)) (memory : Memory)
    (transcript : Transcript) :
    ∃ events, Called target level hooks memory events
        (Hooks.call target level hooks memory transcript).1 ∧
      transcript.Extends (Hooks.call target level hooks memory transcript).2 events := by
  induction hooks generalizing memory transcript with
  | nil => exact ⟨[], .nil, .refl transcript⟩
  | cons hook hooks ih =>
      obtain ⟨events, first, extended⟩ := (hook memory target level).exists_traces_run transcript
      obtain ⟨more, others, extendedOn⟩ := ih ((hook memory target level).run transcript).1
        ((hook memory target level).run transcript).2
      exact ⟨events ++ more, .cons first others, extended.trans extendedOn⟩

end Called

namespace Hooks

/-- The hooks for the beginning of a session have run: each of them was called once, in the order in
which they were given, and what they remember now is left to those that are called next. -/
def RanBefore (hooks : Hooks) (target : Value) (level : Nat) (events : List Event) (left : Hooks) :
    Prop :=
  ∃ memory, Called target level hooks.before hooks.memory events memory ∧
    left = hooks.remembering memory

/-- The hooks for the end of a session have run. -/
def RanAfter (hooks : Hooks) (target : Value) (level : Nat) (events : List Event) (left : Hooks) :
    Prop :=
  ∃ memory, Called target level hooks.after hooks.memory events memory ∧
    left = hooks.remembering memory

variable {hooks left : Hooks} {target : Value} {level : Nat} {events : List Event}

theorem RanBefore.isPlain (ran : hooks.RanBefore target level events left) :
    ∀ event ∈ events, event.isPlain := by
  obtain ⟨_, called, _⟩ := ran
  exact called.isPlain

theorem RanAfter.isPlain (ran : hooks.RanAfter target level events left) :
    ∀ event ∈ events, event.isPlain := by
  obtain ⟨_, called, _⟩ := ran
  exact called.isPlain

end Hooks

end Console
