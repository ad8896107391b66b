import Console.Engine.Run
import Console.Proofs.Command.Dispatch

/-!
# What one line does

A step in which a session reads is taken apart once: what it can come to, and what is the same
before and after it.  All that is proved about runs goes by these cases, and none of it looks into
the commands again.
-/

namespace Console

/-- The line of an answer, as a session takes it. -/
def Answer.line? : Answer → Option String
  | .line text => some (withoutFinalBreaks text)
  | .endOfInput | .interrupted | .failed _ => none

/-- The line that an input delivers when it is asked for one, with where the line comes from. -/
def InputChain.delivered? (chain : InputChain) : Option (Origin × String) :=
  let (answer, origin, _) := chain.read
  answer.line?.map (Prod.mk origin)

namespace Engine

/-- The engine has gone on within the innermost session: its sessions, what is put aside for them,
its commands and its hooks are the same, and the transcript goes on with some events. -/
structure Stays (before after : Engine) (added : List Event) : Prop where
  registry : after.registry = before.registry
  sessions : after.sessions = before.sessions
  suspended : after.suspended = before.suspended
  hooks : after.hooks = before.hooks
  transcript : before.desk.transcript.Extends after.desk.transcript added

namespace Stays

theorem refl (engine : Engine) : engine.Stays engine [] := ⟨rfl, rfl, rfl, rfl, .refl _⟩

theorem trans {first second third : Engine} {early late : List Event}
    (begun : first.Stays second early) (continued : second.Stays third late) :
    first.Stays third (early ++ late) where
  registry := continued.registry.trans begun.registry
  sessions := continued.sessions.trans begun.sessions
  suspended := continued.suspended.trans begun.suspended
  hooks := continued.hooks.trans begun.hooks
  transcript := begun.transcript.trans continued.transcript

theorem record (engine : Engine) (event : Event) :
    engine.Stays (engine.record (·.add event)) [event] := ⟨rfl, rfl, rfl, rfl, .add _ event⟩

theorem session? {before after : Engine} {added : List Event} (stays : before.Stays after added) :
    after.session? = before.session? := by
  unfold Engine.session?
  rw [stays.sessions]

end Stays

/-- The engine has gone on within the innermost session, with events of one kind. -/
def StaysWith (kind : Event → Prop) (before after : Engine) : Prop :=
  ∃ added, before.Stays after added ∧ ∀ event ∈ added, kind event

namespace StaysWith

variable {kind : Event → Prop}

section

variable {before after : Engine}

theorem registry (stays : before.StaysWith kind after) : after.registry = before.registry := by
  obtain ⟨_, stayed, _⟩ := stays
  exact stayed.registry

theorem sessions (stays : before.StaysWith kind after) : after.sessions = before.sessions := by
  obtain ⟨_, stayed, _⟩ := stays
  exact stayed.sessions

theorem suspended (stays : before.StaysWith kind after) : after.suspended = before.suspended := by
  obtain ⟨_, stayed, _⟩ := stays
  exact stayed.suspended

theorem isOpen (stays : before.StaysWith kind after) (isOpen : before.desk.transcript.Open) :
    after.desk.transcript.Open := by
  obtain ⟨_, stayed, _⟩ := stays
  exact stayed.transcript.isOpen isOpen

end

theorem of_nil {before after : Engine} (stays : before.Stays after []) :
    before.StaysWith kind after := ⟨[], stays, by simp⟩

theorem refl (engine : Engine) : engine.StaysWith kind engine := .of_nil (.refl engine)

theorem trans {first second third : Engine} (begun : first.StaysWith kind second)
    (continued : second.StaysWith kind third) : first.StaysWith kind third := by
  obtain ⟨early, stays, earlyKind⟩ := begun
  obtain ⟨late, staysOn, lateKind⟩ := continued
  refine ⟨early ++ late, stays.trans staysOn, ?_⟩
  intro event member
  exact (List.mem_append.mp member).elim (earlyKind event) (lateKind event)

theorem mono {wider : Event → Prop} {before after : Engine} (stays : before.StaysWith kind after)
    (wide : ∀ event, kind event → wider event) : before.StaysWith wider after := by
  obtain ⟨added, stayed, ofKind⟩ := stays
  exact ⟨added, stayed, fun event member => wide event (ofKind event member)⟩

/-- Events that are added one by one. -/
theorem of_cons {before after : Engine} {event : Event} {added : List Event}
    (stays : before.Stays after (event :: added)) (first : kind event)
    (others : ∀ event ∈ added, kind event) : before.StaysWith kind after :=
  ⟨_, stays, List.forall_mem_cons.mpr ⟨first, others⟩⟩

/-- The desk of an engine has been worked on quietly. -/
theorem of_quiet {engine : Engine} {desk : Desk}
    (quiet : engine.desk.transcript.Quiet desk.transcript) :
    engine.StaysWith (·.isPlain) { engine with desk } := by
  obtain ⟨added, extended, plain⟩ := quiet
  exact ⟨added, ⟨rfl, rfl, rfl, rfl, extended⟩, plain⟩

end StaysWith

/-- The engine has gone on within the innermost session, with plain events only, and what waits to
be evaluated is the same. -/
structure Remarks (before after : Engine) : Prop where
  stays : before.StaysWith (·.isPlain) after
  buffer : after.desk.buffer = before.desk.buffer

namespace Remarks

theorem refl (engine : Engine) : engine.Remarks engine := ⟨.refl engine, rfl⟩

theorem trans {first second third : Engine} (begun : first.Remarks second)
    (continued : second.Remarks third) : first.Remarks third :=
  ⟨begun.stays.trans continued.stays, continued.buffer.trans begun.buffer⟩

/-- Whatever is recorded quietly is a remark. -/
theorem record (engine : Engine) {change : Transcript → Transcript}
    (quiet : engine.desk.transcript.Quiet (change engine.desk.transcript)) :
    engine.Remarks (engine.record change) := ⟨.of_quiet quiet, rfl⟩

theorem add (engine : Engine) {event : Event} (plain : event.isPlain) :
    engine.Remarks (engine.record (·.add event)) := record engine (.add _ plain)

theorem log (engine : Engine) (level : LogLevel) (message : String) :
    engine.Remarks (engine.log level message) := record engine (.log ..)

theorem write (engine : Engine) (complaint text : String) :
    engine.Remarks (engine.write complaint text) := record engine (.writeOr ..)

theorem report (engine : Engine) (error : Error) : engine.Remarks (engine.report error) :=
  (log engine ..).trans (write ..)

theorem print (engine : Engine) (result : Except EvalError Value) :
    engine.Remarks (engine.print result) := write engine ..

theorem evaluate (engine : Engine) (source : String) :
    engine.Remarks (engine.evaluate source).2 :=
  ⟨.of_nil ⟨rfl, rfl, rfl, rfl, .refl _⟩, rfl⟩

end Remarks

/-- Evaluating the buffer leaves it empty, and is one event before what is written about it. -/
theorem evaluateBuffer_spec (engine : Engine) :
    ∃ result said, engine.Stays engine.evaluateBuffer
        (.evaluated engine.session? engine.desk.buffer.text result :: said) ∧
      (∀ event ∈ said, event.isPlain) ∧ engine.evaluateBuffer.desk.buffer = .empty := by
  unfold evaluateBuffer evaluate
  dsimp only
  generalize (engine.withBuffer .empty).calculator.evaluate _ _ _ = evaluated
  obtain ⟨result, calculator⟩ := evaluated
  let event : Event := .evaluated engine.session? engine.desk.buffer.text result
  let emptied : Engine := { engine.withBuffer .empty with calculator }
  obtain ⟨⟨said, printed, plain⟩, sameBuffer⟩ :=
    Remarks.print (emptied.record (·.add event)) result
  have begun : engine.Stays emptied [] := ⟨rfl, rfl, rfl, rfl, .refl _⟩
  have stays := (begun.trans (.record emptied event)).trans printed
  exact ⟨result, said, ⟨stays.registry, stays.sessions, stays.suspended, stays.hooks,
    stays.transcript⟩, plain, sameBuffer⟩

/-- What settling comes to: a blank buffer is forgotten, a complete one is evaluated, and any other
one waits. -/
inductive Settles (engine : Engine) : Engine → Prop
  | forgotten (blank : engine.desk.buffer.isBlank) : Settles engine (engine.withBuffer .empty)
  | evaluated (some : engine.desk.buffer.isBlank = false)
      (complete : Calculator.isComplete engine.desk.buffer.text) :
      Settles engine engine.evaluateBuffer
  | waiting (some : engine.desk.buffer.isBlank = false)
      (incomplete : Calculator.isComplete engine.desk.buffer.text = false) : Settles engine engine

theorem settles (engine : Engine) : engine.Settles engine.settle := by
  unfold settle
  dsimp only
  split
  next blank => exact .forgotten blank
  next some =>
    split
    next complete => exact .evaluated (by simpa using some) complete
    next incomplete => exact .waiting (by simpa using some) (by simpa using incomplete)

/-- A session has heard a line: it is taken, and nothing else has happened that is not plain. -/
structure Hears (before : Engine) (origin : Origin) (line : String) (after : Engine) : Prop where
  stays : ∃ asked, before.Stays after (asked ++ [.took before.session? origin line]) ∧
    ∀ event ∈ asked, event.isPlain
  buffer : after.desk.buffer = before.desk.buffer

/-- What becomes of a line that has been heard. -/
inductive Takes (line : String) (heard : Engine) : Run → Prop
  /-- No command recognises it, and it goes to the expression buffer. -/
  | unknown (unknown : heard.registry.find? line = none) :
      Takes line heard ⟨(heard.withBuffer (heard.desk.buffer.push line)).settle, .reading⟩
  /-- A command has succeeded, and the session goes on. -/
  | done {after : Engine} (known : (heard.registry.find? line).isSome)
      (stays : heard.StaysWith (·.isPlain) after)
      (buffer : ¬heard.registry.edits line → after.desk.buffer = heard.desk.buffer)
      (terminated : heard.desk.buffer.Terminated → after.desk.buffer.Terminated) :
      Takes line heard ⟨after.settle, .reading⟩
  /-- A command has failed, or the expression of a session to begin has. -/
  | refused {after : Engine} (known : (heard.registry.find? line).isSome)
      (stays : heard.StaysWith (·.isPlain) after)
      (buffer : heard.desk.transcript.Open ∨ ¬heard.registry.edits line →
        after.desk.buffer = heard.desk.buffer) :
      Takes line heard ⟨after, .reading⟩
  /-- Sessions are to end, down to one that is there. -/
  | left {after : Engine} {depth : Nat} (known : (heard.registry.find? line).isSome)
      (remarks : heard.Remarks after) (within : depth ≤ heard.sessions.level) :
      Takes line heard ⟨after, .unwinding depth⟩
  /-- A session begins. -/
  | nested {after : Engine} {value : Value} (known : (heard.registry.find? line).isSome)
      (remarks : heard.Remarks after) : Takes line heard ⟨after.enter value, .reading⟩

/-- What a step in which a session reads comes to, by the line that is delivered for it. -/
inductive Reads (before : Engine) : Option (Origin × String) → Run → Prop
  /-- No line has come, and the session goes on. -/
  | waited {after : Engine} (remarks : before.Remarks after) : Reads before none ⟨after, .reading⟩
  /-- No line will come, and the session ends. -/
  | ended {after : Engine} (remarks : before.Remarks after) :
      Reads before none ⟨after, .unwinding before.sessions.level⟩
  | took {origin : Origin} {line : String} {heard : Engine} {run : Run}
      (hears : before.Hears origin line heard) (takes : Takes line heard run) :
      Reads before (some (origin, line)) run

theorem Hears.after_remarks {before middle after : Engine} {origin : Origin} {line : String}
    (remarks : before.Remarks middle) (hears : middle.Hears origin line after) :
    before.Hears origin line after := by
  obtain ⟨⟨added, stays, plain⟩, sameBuffer⟩ := remarks
  obtain ⟨⟨asked, staysOn, askedPlain⟩, sameBufferOn⟩ := hears
  refine ⟨⟨added ++ asked, ?_, ?_⟩, sameBufferOn.trans sameBuffer⟩
  · rw [List.append_assoc, ← stays.session?]
    exact stays.trans staysOn
  · intro event member
    exact (List.mem_append.mp member).elim (plain event) (askedPlain event)

/-- Remarks before a step do not change what the step comes to. -/
theorem Reads.after_remarks {before middle : Engine} {delivered : Option (Origin × String)}
    {run : Run} (remarks : before.Remarks middle) (reads : Reads middle delivered run) :
    Reads before delivered run := by
  cases reads with
  | waited remarksOn => exact .waited (remarks.trans remarksOn)
  | ended remarksOn =>
      rw [remarks.stays.sessions]
      exact .ended (remarks.trans remarksOn)
  | took hears takes => exact .took (hears.after_remarks remarks) takes

end Engine

namespace Run

open Engine

theorem takes_afterDispatch {engine : Engine} (orderly : engine.registry.Orderly) (line : String)
    (around : Surroundings) (sameSessions : around.sessions = engine.sessions) :
    Takes line engine
      (afterDispatch line engine (engine.registry.dispatch around line engine.desk)) := by
  cases found : engine.registry.find? line with
  | none =>
      rw [Registry.dispatch_of_find?_eq_none found]
      exact .unknown found
  | some invoked =>
      have known : (engine.registry.find? line).isSome := by rw [found]; rfl
      have ensured := orderly.dispatch found around engine.desk
      unfold Action.Ensures at ensured
      cases ran : engine.registry.dispatch around line engine.desk with
      | error error desk =>
          rw [ran] at ensured
          have reported := Remarks.report { engine with desk } error
          exact .refused known (.trans (.of_quiet ensured.quiet) reported.stays) fun spared =>
            reported.buffer.trans (ensured.buffer spared)
      | ok dispatched desk =>
          rw [ran] at ensured
          obtain ⟨outcome, rfl, handled⟩ := ensured
          have quiet : engine.StaysWith (·.isPlain) { engine with desk } := .of_quiet handled.quiet
          cases outcome with
          | next =>
              exact .done known quiet (fun spared => handled.buffer (.inr spared))
                handled.terminated
          | breakout depth =>
              refine .left known ⟨quiet, handled.buffer (.inl nofun)⟩ ?_
              rw [← sameSessions]
              exact handled.depth depth rfl
          | nest expression =>
              have remarks : engine.Remarks { engine with desk } :=
                ⟨quiet, handled.buffer (.inl nofun)⟩
              have evaluatedRemarks := remarks.trans (.evaluate { engine with desk } expression)
              unfold afterDispatch
              dsimp only
              generalize Engine.evaluate _ expression = evaluated at evaluatedRemarks ⊢
              obtain ⟨result, after⟩ := evaluated
              cases result with
              | ok value => exact .nested known evaluatedRemarks
              | error error =>
                  have printed := evaluatedRemarks.trans (.print after (.error error))
                  exact .refused known printed.stays fun _ => printed.buffer

/-- A line that is read is heard: it is taken, remembered, and only then dispatched. -/
theorem hears_remember (engine : Engine) (origin : Origin) (line : String) :
    engine.Hears origin line
      ((engine.record (·.add (.took engine.session? origin line))).remember origin line).2 := by
  have heard :
      engine.Hears origin line (engine.record (·.add (.took engine.session? origin line))) :=
    ⟨⟨[], .record engine _, by simp⟩, rfl⟩
  unfold remember
  split
  · exact heard
  · split
    · exact heard
    · obtain ⟨⟨asked, stays, plain⟩, sameBuffer⟩ := heard
      exact ⟨⟨asked, ⟨rfl, rfl, rfl, rfl, stays.transcript⟩, plain⟩, sameBuffer⟩

theorem reads_takeLine {engine : Engine} (orderly : engine.registry.Orderly) (origin : Origin)
    (text : String) :
    Reads engine (some (origin, withoutFinalBreaks text)) (takeLine engine origin text) := by
  have heard := hears_remember engine origin (withoutFinalBreaks text)
  unfold takeLine
  dsimp only
  generalize Engine.remember _ _ _ = remembered at heard ⊢
  obtain ⟨lineIndex, heardEngine⟩ := remembered
  obtain ⟨_, stays, _⟩ := heard.stays
  refine .took heard (takes_afterDispatch ?_ _ _ rfl)
  rw [stays.registry]
  exact orderly

theorem reads_takeAnswer {engine : Engine} (orderly : engine.registry.Orderly) (origin : Origin)
    (answer : Answer) :
    Reads engine (answer.line?.map (Prod.mk origin)) (takeAnswer engine origin answer) := by
  cases answer with
  | line text => exact reads_takeLine orderly origin text
  | endOfInput => exact .ended (.refl engine)
  | interrupted => exact .waited (.write engine ..)
  | failed cause => exact .ended (.report engine _)

/-- A step in which a session reads comes to one of the cases of `Reads`. -/
theorem reads_readLine {engine : Engine} (orderly : engine.registry.Orderly) :
    Reads engine engine.desk.input.delivered? (readLine engine) := by
  have consumed (input : InputChain) :
      engine.Remarks { engine with desk := { engine.desk with input } } :=
    ⟨.of_nil ⟨rfl, rfl, rfl, rfl, .refl _⟩, rfl⟩
  unfold readLine InputChain.delivered?
  obtain ⟨answer, origin, input⟩ := engine.desk.input.read
  cases origin with
  | interactive =>
      have plain : (Event.asked engine.prompt answer).isPlain := rfl
      have asked := (consumed input).trans (Remarks.add _ plain)
      refine .after_remarks asked (reads_takeAnswer ?_ .interactive answer)
      exact orderly
  | injected =>
      refine .after_remarks (consumed input) (reads_takeAnswer ?_ .injected answer)
      exact orderly

end Run

/-! ## The commands stay the same -/

namespace Engine

@[simp] theorem registry_settle (engine : Engine) : engine.settle.registry = engine.registry := by
  unfold settle
  dsimp only
  split
  · rfl
  · split <;> rfl

@[simp] theorem registry_remember (engine : Engine) (origin : Origin) (line : String) :
    (engine.remember origin line).2.registry = engine.registry := by
  cases origin with
  | injected => rfl
  | interactive =>
      unfold remember
      dsimp only
      split <;> rfl

theorem registry_loadHistory (engine : Engine) :
    engine.loadHistory.registry = engine.registry := by
  unfold loadHistory
  split
  next path _ _ =>
    obtain ⟨outcome, history, storage⟩ := engine.desk.history.load path engine.desk.storage
    cases outcome with
    | error cause => rfl
    | ok found => cases found <;> rfl
  · rfl

end Engine

namespace Run

theorem registry_afterDispatch (line : String) (engine : Engine)
    (result : EStateM.Result Error Desk Dispatched) :
    (afterDispatch line engine result).engine.registry = engine.registry := by
  unfold afterDispatch
  split
  · rfl
  · exact Engine.registry_settle _
  · exact Engine.registry_settle _
  · rfl
  next expression desk =>
    have evaluated : (Engine.evaluate { engine with desk } expression).2.registry =
      engine.registry := rfl
    generalize Engine.evaluate { engine with desk } expression = outcome at evaluated ⊢
    obtain ⟨result, after⟩ := outcome
    cases result with
    | ok value => exact evaluated
    | error error => exact evaluated

theorem registry_takeAnswer (engine : Engine) (origin : Origin) (answer : Answer) :
    (takeAnswer engine origin answer).engine.registry = engine.registry := by
  cases answer with
  | line text => exact (registry_afterDispatch _ _ _).trans (Engine.registry_remember _ _ _)
  | endOfInput | interrupted | failed => rfl

/-- No step changes the commands. -/
theorem registry_step (run : Run) : run.step.engine.registry = run.engine.registry := by
  obtain ⟨engine, phase⟩ := run
  cases phase with
  | finished result => rfl
  | unwinding depth =>
      change (unwind engine depth).engine.registry = engine.registry
      unfold unwind
      split <;> rfl
  | reading =>
      change (readLine engine).engine.registry = engine.registry
      unfold readLine
      obtain ⟨answer, origin, input⟩ := engine.desk.input.read
      cases origin with
      | interactive => exact registry_takeAnswer _ _ _
      | injected => exact registry_takeAnswer _ _ _

end Run

end Console
