import Console.Proofs.Command.Overlooking
import Console.Proofs.Engine.Nesting

/-!
# Engines that resemble each other

Engines may differ in what has happened before, in their input, in how much of the history is saved
and in what becomes of the history file, as far as a likeness says.  No session looks at any of it,
so sessions on two such engines go on step by step in the same way: in the end they give back the
same, and the engines still resemble each other.
-/

namespace Console

/-- An answer without the newlines and carriage returns at the end of its line. -/
def Answer.unbroken : Answer → Answer
  | .line text => .line (withoutFinalBreaks text)
  | answer => answer

/-- The history file of an engine, and when it is used. -/
structure Custody where
  historyFile : Option String
  loadOnStart : Bool
  saveOnExit : Bool

namespace Engine

/-- What an engine does with which history file. -/
def custody (engine : Engine) : Custody :=
  ⟨engine.historyFile, engine.loadOnStart, engine.saveOnExit⟩

/-- How two engines may differ in what no session looks at.  The answers that they get may end in
other line ends. -/
structure Likeness extends Desk.Likeness where
  custody : Custody → Custody → Prop
  answer : Answer → Answer → Prop
  unbroken {first second : Answer} : answer first second → first.unbroken = second.unbroken
  asked {before other : Transcript} {first second : Answer} (prompt : String) :
    transcript before other → answer first second →
      transcript (before.add (.asked prompt first)) (other.add (.asked prompt second))
  read {chain other : InputChain} : input chain other →
    answer chain.read.1 other.read.1 ∧ chain.read.2.1 = other.read.2.1 ∧
      input chain.read.2.2 other.read.2.2

/-- An engine that differs in what no session looks at. -/
def counterpart (engine : Engine) (transcript : Transcript) (input : InputChain) (saved : Nat)
    (custody : Custody) : Engine :=
  { engine with
    desk :=
      { engine.desk with transcript, input, history := ⟨engine.desk.history.entries, saved⟩ }
    historyFile := custody.historyFile
    loadOnStart := custody.loadOnStart
    saveOnExit := custody.saveOnExit }

/-- Two engines differ at most as a likeness says. -/
inductive Resembles (likeness : Likeness) (engine : Engine) : Engine → Prop where
  | counterpart {transcript : Transcript} {input : InputChain} {saved : Nat} {custody : Custody}
      (told : likeness.transcript engine.desk.transcript transcript)
      (fed : likeness.input engine.desk.input input)
      (kept : likeness.saved engine.desk.history.saved saved)
      (held : likeness.custody engine.custody custody) :
      Resembles likeness engine (engine.counterpart transcript input saved custody)

end Engine

/-- Two runs are about to do the same, and their engines resemble each other. -/
structure Run.Resembles (likeness : Engine.Likeness) (run other : Run) : Prop where
  engine : run.engine.Resembles likeness other.engine
  phase : run.phase = other.phase

namespace Engine

variable {likeness : Likeness} {engine other : Engine}

/-! ## Changes of the transcript -/

/-- A change of the transcript that does not depend on what is different. -/
def Likeness.Respects (likeness : Likeness) (change : Transcript → Transcript) : Prop :=
  ∀ before other, likeness.transcript before other →
    likeness.transcript (change before) (change other)

namespace Likeness.Respects

theorem add {event : Event} (allowed : likeness.allows event) : likeness.Respects (·.add event) :=
  fun _ _ told => likeness.add told allowed

theorem writeOr (complaint text : String) : likeness.Respects (·.writeOr complaint text) := by
  intro before other told
  obtain ⟨answer, after, afterToo, written, writtenToo, toldOn⟩ :=
    Desk.Likeness.exists_write_eq told text
  dsimp only [Transcript.writeOr]
  rw [written, writtenToo]
  cases answer with
  | ok _ => exact toldOn
  | error cause => exact likeness.add toldOn (likeness.allows_of_blameless rfl)

end Likeness.Respects

/-- What is written in answer to answers comes to the same. -/
theorem Likeness.run {α : Type} (writing : Writing α) {before other : Transcript}
    (told : likeness.transcript before other) :
    (writing.run other).1 = (writing.run before).1 ∧
      likeness.transcript (writing.run before).2 (writing.run other).2 := by
  induction writing generalizing before other with
  | done value => exact ⟨rfl, told⟩
  | write text next ih =>
      obtain ⟨answer, after, afterToo, written, writtenToo, toldOn⟩ :=
        Desk.Likeness.exists_write_eq told text
      unfold Writing.run
      rw [written, writtenToo]
      exact ih answer toldOn

/-- Hooks do the same when they are called. -/
theorem Likeness.call {Memory : Type} (target : Value) (level : Nat) (hooks : List (Hook Memory))
    (memory : Memory) {before other : Transcript} (told : likeness.transcript before other) :
    (Hooks.call target level hooks memory other).1 =
        (Hooks.call target level hooks memory before).1 ∧
      likeness.transcript (Hooks.call target level hooks memory before).2
        (Hooks.call target level hooks memory other).2 := by
  induction hooks generalizing memory before other with
  | nil => exact ⟨rfl, told⟩
  | cons hook hooks ih =>
      obtain ⟨same, toldOn⟩ := Likeness.run (hook memory target level) told
      unfold Hooks.call
      dsimp only
      rw [same]
      exact ih _ toldOn

namespace Resembles

/-! ## What an event does -/

theorem record (resembles : engine.Resembles likeness other) {change : Transcript → Transcript}
    (respects : likeness.Respects change) :
    (engine.record change).Resembles likeness (other.record change) := by
  cases resembles with
  | counterpart told fed kept held => exact .counterpart (respects _ _ told) fed kept held

theorem add (resembles : engine.Resembles likeness other) {event : Event}
    (blameless : event.blamesHistoryFile = false) :
    (engine.record (·.add event)).Resembles likeness (other.record (·.add event)) :=
  resembles.record (.add (likeness.allows_of_blameless blameless))

theorem log (resembles : engine.Resembles likeness other) {level : LogLevel} {message : String}
    (blameless : (Event.logged level message).blamesHistoryFile = false) :
    (engine.log level message).Resembles likeness (other.log level message) :=
  resembles.add blameless

theorem write (resembles : engine.Resembles likeness other) (complaint text : String) :
    (engine.write complaint text).Resembles likeness (other.write complaint text) :=
  resembles.record (.writeOr complaint text)

theorem report (resembles : engine.Resembles likeness other) {error : Error}
    (allowed : likeness.allows (.reporting error)) :
    (engine.report error).Resembles likeness (other.report error) := by
  have recorded : (engine.log .debug ("reporting " ++ error.debugText)).Resembles likeness
      (other.log .debug ("reporting " ++ error.debugText)) := resembles.record (.add allowed)
  cases resembles with
  | counterpart => exact recorded.write _ _

theorem print (resembles : engine.Resembles likeness other) (result : Except EvalError Value) :
    (engine.print result).Resembles likeness (other.print result) := by
  have written (text : String) := resembles.write "Failed to print result" text
  cases resembles with
  | counterpart => exact written _

theorem withBuffer (resembles : engine.Resembles likeness other) (buffer : Buffer) :
    (engine.withBuffer buffer).Resembles likeness (other.withBuffer buffer) := by
  cases resembles with
  | counterpart told fed kept held => exact .counterpart told fed kept held

theorem runHooks (resembles : engine.Resembles likeness other) (boundary : Boundary)
    (target : Value) (level : Nat) :
    (engine.runHooks boundary target level).Resembles likeness
      (other.runHooks boundary target level) := by
  cases resembles with
  | counterpart told fed kept held =>
      have begun := likeness.add told
        (likeness.allows_of_blameless
          (rfl : (Event.session boundary target level).blamesHistoryFile = false))
      obtain ⟨same, toldOn⟩ :=
        Likeness.call target level (engine.hooks.at boundary) engine.hooks.memory begun
      unfold Engine.runHooks
      dsimp only [Engine.counterpart, Engine.record]
      rw [same]
      exact .counterpart toldOn fed kept held

/-- Sessions begin and end with another buffer. -/
theorem renewed (resembles : engine.Resembles likeness other) (buffer : Buffer)
    (sessions : SessionStack) (suspended : List Buffer) :
    Resembles likeness { engine.withBuffer buffer with sessions, suspended }
      { other.withBuffer buffer with sessions, suspended } := by
  cases resembles with
  | counterpart told fed kept held => exact .counterpart told fed kept held

theorem enter (resembles : engine.Resembles likeness other) (target : Value) :
    (engine.enter target).Resembles likeness (other.enter target) := by
  have hooked := resembles.runHooks .before target engine.sessions.size
  have renewed := hooked.renewed .empty (engine.sessions.push target)
    (engine.desk.buffer :: engine.suspended)
  have started : (Event.logged .debug ("session " ++ natText engine.sessions.nextId ++
      " started at level " ++ natText engine.sessions.size)).blamesHistoryFile = false :=
    Event.blamesHistoryFile_logged (by simp)
  cases resembles with
  | counterpart => exact renewed.log started

theorem leave (resembles : engine.Resembles likeness other) (session : Session) (depth : Nat) :
    (engine.leave session depth).Resembles likeness (other.leave session depth) := by
  have renewed := resembles.renewed (engine.suspended.head?.getD .empty) engine.sessions.pop
    engine.suspended.tail
  have ended : (Event.logged .debug ("session " ++ natText session.id ++
      " ended, unwinding to level " ++ natText depth)).blamesHistoryFile = false :=
    Event.blamesHistoryFile_logged (by simp)
  have left := (renewed.log ended).runHooks .after session.target engine.sessions.level
  cases resembles with
  | counterpart => exact left

theorem evaluate (resembles : engine.Resembles likeness other) (source : String) :
    (engine.evaluate source).1 = (other.evaluate source).1 ∧
      (engine.evaluate source).2.Resembles likeness (other.evaluate source).2 := by
  cases resembles with
  | counterpart told fed kept held => exact ⟨rfl, .counterpart told fed kept held⟩

theorem inContext (resembles : engine.Resembles likeness other) (context : Context) :
    Resembles likeness { engine with context } { other with context } := by
  cases resembles with
  | counterpart told fed kept held => exact .counterpart told fed kept held

theorem evaluateBuffer (resembles : engine.Resembles likeness other) :
    engine.evaluateBuffer.Resembles likeness other.evaluateBuffer := by
  let result := ((engine.withBuffer .empty).evaluate engine.desk.buffer.text).1
  have evaluated := ((resembles.withBuffer .empty).evaluate engine.desk.buffer.text).2
  have shown : (Event.evaluated engine.session? engine.desk.buffer.text
      result).blamesHistoryFile = false := rfl
  have printed := (evaluated.add shown).print result
  cases resembles with
  | counterpart => exact printed.inContext _

theorem settle (resembles : engine.Resembles likeness other) :
    engine.settle.Resembles likeness other.settle := by
  have emptied := resembles.withBuffer .empty
  have evaluated := resembles.evaluateBuffer
  cases resembles with
  | counterpart told fed kept held =>
      unfold Engine.settle
      dsimp only [Engine.counterpart]
      split
      · exact emptied
      · split
        · exact evaluated
        · exact .counterpart told fed kept held

theorem remember (resembles : engine.Resembles likeness other) (origin : Origin) (line : String) :
    (engine.remember origin line).1 = (other.remember origin line).1 ∧
      (engine.remember origin line).2.Resembles likeness (other.remember origin line).2 := by
  cases origin with
  | injected => exact ⟨rfl, resembles⟩
  | interactive =>
      cases resembles with
      | counterpart told fed kept held =>
          unfold Engine.remember
          dsimp only [Engine.counterpart]
          split
          · exact ⟨rfl, .counterpart told fed kept held⟩
          · exact ⟨rfl, .counterpart told fed kept held⟩

/-! ## What a line does -/

theorem desk (resembles : engine.Resembles likeness other) :
    likeness.Holds engine.desk other.desk := by
  cases resembles with
  | counterpart told fed kept held => exact ⟨told, fed, kept, rfl⟩

/-- Desks that are alike are put in place. -/
theorem withDesk (resembles : engine.Resembles likeness other) {after afterToo : Desk}
    (holds : likeness.Holds after afterToo) :
    Resembles likeness { engine with desk := after } { other with desk := afterToo } := by
  obtain ⟨transcript, input, saved, rfl, told, fed, kept⟩ := holds.exists_eq
  cases resembles with
  | counterpart _ _ _ held => exact .counterpart told fed kept held

theorem afterDispatch (resembles : engine.Resembles likeness other) {action : Action Dispatched}
    (indifferent : action.Indifferent likeness.toLikeness) (line : String) :
    (Run.afterDispatch line engine (action engine.desk)).Resembles likeness
      (Run.afterDispatch line other (action other.desk)) := by
  have agree := indifferent _ _ resembles.desk
  generalize action engine.desk = result at agree ⊢
  generalize action other.desk = resultToo at agree ⊢
  cases agree with
  | error error allowed holds => exact ⟨(resembles.withDesk holds).report allowed, rfl⟩
  | @ok dispatched after afterToo holds =>
      have worked := resembles.withDesk holds
      cases dispatched with
      | noCommand =>
          refine ⟨?_, rfl⟩
          dsimp only [Run.afterDispatch]
          rw [holds.buffer]
          exact (worked.withBuffer _).settle
      | handled outcome =>
          cases outcome with
          | next => exact ⟨worked.settle, rfl⟩
          | breakout depth => exact ⟨worked, rfl⟩
          | nest expression =>
              have evaluated := worked.evaluate expression
              dsimp only [Run.afterDispatch]
              generalize Engine.evaluate { engine with desk := after } expression = first
                at evaluated ⊢
              generalize Engine.evaluate { other with desk := afterToo } expression = second
                at evaluated ⊢
              obtain ⟨result, first⟩ := first
              obtain ⟨resultToo, second⟩ := second
              obtain ⟨sameResult, evaluated⟩ := evaluated
              subst sameResult
              cases result with
              | ok value => exact ⟨evaluated.enter value, rfl⟩
              | error error => exact ⟨evaluated.print (.error error), rfl⟩

/-- A line is dispatched alike, whatever number it has in the history. -/
theorem dispatched (resembles : engine.Resembles likeness other)
    (obeys : engine.registry.Obeys fun _ handler => handler.Indifferent likeness.toLikeness)
    (lineIndex : Option Nat) (line : String) :
    (Run.afterDispatch line engine
        (engine.registry.dispatch (engine.surroundings lineIndex) line engine.desk)).Resembles
      likeness
      (Run.afterDispatch line other
        (other.registry.dispatch (other.surroundings lineIndex) line other.desk)) := by
  have went := resembles.afterDispatch
    (Registry.indifferent_dispatch obeys (engine.surroundings lineIndex) line) line
  cases resembles with
  | counterpart => exact went

theorem takeLine (resembles : engine.Resembles likeness other)
    (obeys : engine.registry.Obeys fun _ handler => handler.Indifferent likeness.toLikeness)
    (origin : Origin) {text textToo : String}
    (same : withoutFinalBreaks text = withoutFinalBreaks textToo) :
    (Run.takeLine engine origin text).Resembles likeness (Run.takeLine other origin textToo) := by
  have session : engine.session? = other.session? := by
    cases resembles with
    | counterpart => rfl
  have taken : (Event.took other.session? origin
      (withoutFinalBreaks textToo)).blamesHistoryFile = false := rfl
  unfold Run.takeLine
  dsimp only
  rw [same, session]
  obtain ⟨sameIndex, remembered⟩ :=
    (resembles.add taken).remember origin (withoutFinalBreaks textToo)
  rw [sameIndex]
  apply remembered.dispatched
  rw [registry_remember]
  exact obeys

/-! ## What a step does -/

theorem level_eq (resembles : engine.Resembles likeness other) :
    engine.sessions.level = other.sessions.level := by
  cases resembles with
  | counterpart => rfl

theorem takeAnswer (resembles : engine.Resembles likeness other)
    (obeys : engine.registry.Obeys fun _ handler => handler.Indifferent likeness.toLikeness)
    (origin : Origin) {answer answerToo : Answer} (same : answer.unbroken = answerToo.unbroken) :
    (Run.takeAnswer engine origin answer).Resembles likeness
      (Run.takeAnswer other origin answerToo) := by
  cases answer with
  | line text =>
      cases answerToo with
      | line textToo => exact resembles.takeLine obeys origin (Answer.line.inj same)
      | endOfInput | interrupted | failed => cases same
  | endOfInput =>
      cases answerToo with
      | endOfInput => exact ⟨resembles, congrArg Phase.unwinding resembles.level_eq⟩
      | line | interrupted | failed => cases same
  | interrupted =>
      cases answerToo with
      | interrupted => exact ⟨resembles.write _ _, rfl⟩
      | line | endOfInput | failed => cases same
  | failed cause =>
      cases answerToo with
      | failed causeToo =>
          cases same
          exact ⟨resembles.report (likeness.allows_reporting nofun),
            congrArg Phase.unwinding resembles.level_eq⟩
      | line | endOfInput | interrupted => cases same

/-- The base source is asked for a line. -/
theorem asked (resembles : engine.Resembles likeness other) (prompt : String)
    {answer answerToo : Answer} (same : likeness.answer answer answerToo) :
    (engine.record (·.add (.asked prompt answer))).Resembles likeness
      (other.record (·.add (.asked prompt answerToo))) := by
  cases resembles with
  | counterpart told fed kept held =>
      exact .counterpart (likeness.asked prompt told same) fed kept held

theorem withInput (resembles : engine.Resembles likeness other) {input inputToo : InputChain}
    (fed : likeness.input input inputToo) :
    Resembles likeness { engine with desk := { engine.desk with input } }
      { other with desk := { other.desk with input := inputToo } } := by
  cases resembles with
  | counterpart told _ kept held => exact .counterpart told fed kept held

theorem readLine (resembles : engine.Resembles likeness other)
    (obeys : engine.registry.Obeys fun _ handler => handler.Indifferent likeness.toLikeness) :
    (Run.readLine engine).Resembles likeness (Run.readLine other) := by
  have prompts : engine.prompt = other.prompt := by
    cases resembles with
    | counterpart => rfl
  have inputs := likeness.read resembles.desk.input
  unfold Run.readLine
  rw [prompts]
  generalize engine.desk.input.read = read at inputs ⊢
  generalize other.desk.input.read = readToo at inputs ⊢
  obtain ⟨answer, origin, input⟩ := read
  obtain ⟨answerToo, originToo, inputToo⟩ := readToo
  obtain ⟨sameAnswer, sameOrigin, sameInput⟩ := inputs
  dsimp only at sameAnswer sameOrigin sameInput
  subst sameOrigin
  have fed := resembles.withInput sameInput
  have same := likeness.unbroken sameAnswer
  cases origin with
  | interactive => exact (fed.asked other.prompt sameAnswer).takeAnswer obeys .interactive same
  | injected => exact fed.takeAnswer obeys .injected same

theorem unwind (resembles : engine.Resembles likeness other) (depth : Nat) :
    (Run.unwind engine depth).Resembles likeness (Run.unwind other depth) := by
  have left (session : Session) := resembles.leave session depth
  cases resembles with
  | counterpart told fed kept held =>
      unfold Run.unwind
      dsimp only [Engine.counterpart] at left ⊢
      split
      · exact ⟨.counterpart told fed kept held, rfl⟩
      · exact ⟨left _, rfl⟩

end Resembles

end Engine

/-! ## Whole sessions -/

/-- How a run of one engine may end if that of another engine does: with the same result, and with
engines that resemble each other. -/
def Run.SameEnd (likeness : Engine.Likeness) (first second : Except Nat Value × Engine) : Prop :=
  first.1 = second.1 ∧ first.2.Resembles likeness second.2

namespace Run.Resembles

variable {likeness : Engine.Likeness} {run other : Run}

theorem step (resembles : run.Resembles likeness other)
    (obeys : run.engine.registry.Obeys fun _ handler => handler.Indifferent likeness.toLikeness) :
    run.step.Resembles likeness other.step := by
  obtain ⟨engine, phase⟩ := run
  obtain ⟨engineToo, phaseToo⟩ := other
  obtain ⟨resembles, samePhase⟩ := resembles
  dsimp only at samePhase resembles obeys
  subst samePhase
  cases phase with
  | reading => exact resembles.readLine obeys
  | unwinding depth => exact resembles.unwind depth
  | finished result => exact ⟨resembles, rfl⟩

theorem result? (resembles : run.Resembles likeness other) :
    Option.Rel (SameEnd likeness) run.result? other.result? := by
  obtain ⟨engine, phase⟩ := run
  obtain ⟨engineToo, phaseToo⟩ := other
  obtain ⟨resembles, samePhase⟩ := resembles
  dsimp only at samePhase resembles
  subst samePhase
  cases phase with
  | reading | unwinding => exact .none
  | finished result => exact .some ⟨rfl, resembles⟩

/-- Runs of engines that resemble each other are alike after any number of steps. -/
theorem after (resembles : run.Resembles likeness other)
    (obeys : run.engine.registry.Obeys fun _ handler => handler.Indifferent likeness.toLikeness)
    (count : Nat) : (run.after count).Resembles likeness (other.after count) := by
  induction count with
  | zero => exact resembles
  | succ count ih =>
      apply ih.step
      rw [Run.registry_after]
      exact obeys

/-- Runs of engines that resemble each other end within the same number of steps, if they do. -/
theorem finish (resembles : run.Resembles likeness other)
    (obeys : run.engine.registry.Obeys fun _ handler => handler.Indifferent likeness.toLikeness)
    (fuel : Nat) :
    Option.Rel (SameEnd likeness) (Run.finish fuel run) (Run.finish fuel other) := by
  induction fuel generalizing run other with
  | zero => exact resembles.result?
  | succ fuel ih =>
      have results := resembles.result?
      unfold Run.finish
      generalize run.result? = result at results ⊢
      generalize other.result? = resultToo at results ⊢
      cases results with
      | some same => exact .some same
      | none =>
          apply ih (resembles.step obeys)
          rw [Run.registry_step]
          exact obeys

end Run.Resembles

end Console
