import Console.Proofs.Engine.Hearing
import Console.Proofs.Engine.Nesting

/-!
# What is known of evaluations

A run is followed together with the evaluations it makes, of what has waited in an expression buffer
and of what sessions begin on.  What the engine knows of earlier evaluations is told from those of
the first kind, whichever sessions have begun and ended in between.
-/

namespace Console

/-- What an expression is evaluated for. -/
inductive Purpose where
  /-- It has waited in an expression buffer, and its value is shown. -/
  | showing
  /-- A session is to begin on its value. -/
  | nesting
  deriving DecidableEq, Repr

/-- An expression has been evaluated. -/
structure Evaluation where
  purpose : Purpose
  /-- The session it was evaluated in. -/
  session : Option Nat
  source : String
  result : Except EvalError Value
  deriving Repr

namespace Evaluation

/-- The value that is shown, and the session it comes from. -/
def success? (evaluation : Evaluation) : Option (Option Nat × Value) :=
  match evaluation.purpose, evaluation.result with
  | .showing, .ok value => some (evaluation.session, value)
  | _, _ => none

/-- The error that is shown. -/
def failure? (evaluation : Evaluation) : Option EvalError :=
  match evaluation.purpose, evaluation.result with
  | .showing, .error error => some error
  | _, _ => none

/-- The last value that was shown, and `nil` before there is one. -/
def lastValue (evaluations : List Evaluation) : Value :=
  match (evaluations.filterMap success?).getLast? with
  | some (_, value) => value
  | none => .nil

end Evaluation

namespace Context

/-- What is known of evaluations is true of those that have been made. -/
structure Tells (context : Context) (evaluations : List Evaluation) : Prop where
  lastResult : context.lastResult = Evaluation.lastValue evaluations
  activeSession :
    context.activeSession = (evaluations.filterMap Evaluation.success?).getLast?.bind (·.1)
  lastError : context.lastError = (evaluations.filterMap Evaluation.failure?).getLast?
  count : context.count = (evaluations.filter (·.purpose = .showing)).length

theorem tells_nil : ({} : Context).Tells [] := ⟨rfl, rfl, rfl, rfl⟩

namespace Tells

variable {context : Context} {evaluations : List Evaluation} {evaluation : Evaluation}

/-- An evaluation that is shown is recorded. -/
theorem shown (tells : context.Tells evaluations) (shown : evaluation.purpose = .showing) :
    (context.record evaluation.session evaluation.result).Tells (evaluations ++ [evaluation]) := by
  obtain ⟨purpose, session, source, result⟩ := evaluation
  obtain rfl : purpose = .showing := shown
  obtain ⟨lastResult, activeSession, lastError, count⟩ := tells
  cases result with
  | ok value =>
      constructor
      · simp [record, Evaluation.lastValue, Evaluation.success?]
      · simp [record, Evaluation.success?]
      · simpa [record, Evaluation.failure?] using lastError
      · simp [record, count]
  | error error =>
      constructor
      · simpa [record, Evaluation.lastValue, Evaluation.success?] using lastResult
      · simpa [record, Evaluation.success?] using activeSession
      · simp [record, Evaluation.failure?]
      · simp [record, count]

/-- An evaluation that a session is to begin on changes nothing that is known. -/
theorem nested (tells : context.Tells evaluations) (nesting : evaluation.purpose = .nesting) :
    context.Tells (evaluations ++ [evaluation]) := by
  obtain ⟨purpose, session, source, result⟩ := evaluation
  obtain rfl : purpose = .nesting := nesting
  obtain ⟨lastResult, activeSession, lastError, count⟩ := tells
  constructor
  · simpa [Evaluation.lastValue, Evaluation.success?] using lastResult
  · simpa [Evaluation.success?] using activeSession
  · simpa [Evaluation.failure?] using lastError
  · simpa using count

end Tells

end Context

/-! ## The evaluations of a run -/

/-- The evaluation of a text in the innermost session. -/
def Engine.evaluation (engine : Engine) (purpose : Purpose) (source : String) : Evaluation :=
  ⟨purpose, engine.session?, source, (engine.evaluate source).1⟩

/-- The evaluation that settling the buffer makes. -/
def Engine.settling? (engine : Engine) : Option Evaluation :=
  let buffer := engine.desk.buffer
  if buffer.isBlank then none
  else if Calculator.isComplete buffer.text then some (engine.evaluation .showing buffer.text)
  else none

namespace Run

/-- The evaluation that is made for a line that was dispatched. -/
def dispatching? (line : String) (engine : Engine) :
    EStateM.Result Error Desk Dispatched → Option Evaluation
  | .error _ _ => none
  | .ok .noCommand desk =>
      ({ engine with desk }.withBuffer (desk.buffer.push line)).settling?
  | .ok (.handled .next) desk => { engine with desk }.settling?
  | .ok (.handled (.breakout _)) _ => none
  | .ok (.handled (.nest expression)) desk =>
      some ({ engine with desk }.evaluation .nesting expression)

/-- The evaluation that the next step makes. -/
def evaluation? (run : Run) : Option Evaluation :=
  match run.phase, run.engine.desk.input.read with
  | .reading, (.line text, origin, input) =>
      let heard := run.engine.hear origin text input
      let line := withoutFinalBreaks text
      dispatching? line heard.2 (Engine.dispatchHeard heard line)
  | _, _ => none

/-- The evaluations that a number of steps make, oldest first. -/
def evaluations (run : Run) : Nat → List Evaluation
  | 0 => []
  | count + 1 => run.evaluations count ++ (run.after count).evaluation?.toList

end Run

/-! ## What a step does -/

/-- What evaluations depend on and what they may change. -/
structure Mind where
  calculator : Calculator
  context : Context
  sessions : SessionStack

/-- The mind of an engine. -/
def Engine.mind (engine : Engine) : Mind := ⟨engine.calculator, engine.context, engine.sessions⟩

namespace Evaluation

/-- The evaluation is run in the innermost session, and what comes of it depends on its purpose. -/
structure Made (evaluation : Evaluation) (before after : Mind) : Prop where
  evaluated : before.calculator.evaluate evaluation.source before.sessions.target
    before.context.lastResult = (evaluation.result, after.calculator)
  session : evaluation.session = before.sessions.current?.map (·.id)
  context : after.context =
    match evaluation.purpose with
    | .showing => before.context.record evaluation.session evaluation.result
    | .nesting => before.context
  sessions : after.sessions =
    match evaluation.purpose, evaluation.result with
    | .nesting, .ok value => before.sessions.push value
    | _, _ => before.sessions

theorem Made.innermost {evaluation : Evaluation} {before after : Mind} {session : Session}
    (made : evaluation.Made before after) (current : before.sessions.current? = some session) :
    evaluation.session = some session.id ∧
      before.calculator.evaluate evaluation.source session.target before.context.lastResult =
        (evaluation.result, after.calculator) := by
  have target : before.sessions.target = session.target := by rw [SessionStack.target, current]
  rw [made.session, current, ← made.evaluated, target]
  exact ⟨rfl, rfl⟩

theorem Made.nesting {evaluation : Evaluation} {before after : Mind}
    (made : evaluation.Made before after) (nesting : evaluation.purpose = .nesting) :
    after.context = before.context ∧
      after.sessions =
        match evaluation.result with
        | .ok value => before.sessions.push value
        | .error _ => before.sessions := by
  rw [made.context, made.sessions, nesting]
  cases evaluation.result with
  | ok value => exact ⟨rfl, rfl⟩
  | error error => exact ⟨rfl, rfl⟩

end Evaluation

/-- A step makes the evaluation that is given, or none at all. -/
def Makes (made : Option Evaluation) (before after : Mind) : Prop :=
  match made with
  | none => after = before
  | some evaluation => evaluation.Made before after

namespace Engine

theorem makes_settle (engine : Engine) : Makes engine.settling? engine.mind engine.settle.mind := by
  unfold settling? settle
  dsimp only
  split
  · rfl
  · split
    · exact ⟨rfl, rfl, rfl, rfl⟩
    · rfl

end Engine

namespace Run

open Engine

theorem makes_afterDispatch (line : String) (engine : Engine)
    (result : EStateM.Result Error Desk Dispatched) :
    Makes (dispatching? line engine result) engine.mind
      (afterDispatch line engine result).engine.mind := by
  cases result with
  | error error desk => rfl
  | ok dispatched desk =>
      cases dispatched with
      | noCommand => exact makes_settle _
      | handled outcome =>
          cases outcome with
          | next => exact makes_settle _
          | breakout depth => rfl
          | nest expression =>
              unfold dispatching? afterDispatch Engine.evaluation Engine.evaluate
              dsimp only
              generalize ran : engine.calculator.evaluate _ _ _ = evaluated
              obtain ⟨result, calculator⟩ := evaluated
              cases result with
              | ok value => exact ⟨ran, rfl, rfl, rfl⟩
              | error error => exact ⟨ran, rfl, rfl, rfl⟩

/-- A step in which a session reads makes an evaluation or leaves the mind alone. -/
theorem makes_readLine (engine : Engine) :
    Makes (evaluation? ⟨engine, .reading⟩) engine.mind (readLine engine).engine.mind := by
  unfold evaluation?
  dsimp only
  split
  next text origin input _ read =>
    obtain ⟨transcript, _, _, _, heard⟩ := engine.hear_snd origin text input
    have same : (engine.hear origin text input).2.mind = engine.mind := by
      rw [heard]
      rfl
    rw [readLine_of_line read, ← same]
    exact makes_afterDispatch ..
  next noLine =>
    unfold readLine
    generalize engine.desk.input.read = read at noLine
    obtain ⟨answer, origin, input⟩ := read
    cases answer with
    | line text => exact (noLine text origin input rfl rfl).elim
    | endOfInput => cases origin <;> rfl
    | interrupted => cases origin <;> rfl
    | failed cause => cases origin <;> rfl

/-- Until the run is finished, a session is running. -/
def Attended (run : Run) : Prop :=
  match run.phase with
  | .finished _ => True
  | _ => run.engine.sessions.running ≠ []

theorem Attended.of_running {run : Run} (some : run.engine.sessions.running ≠ []) :
    run.Attended := by
  unfold Attended
  split
  · trivial
  · exact some

theorem running_of_makes {made : Option Evaluation} {before after : Mind}
    (makes : Makes made before after) (some : before.sessions.running ≠ []) :
    after.sessions.running ≠ [] := by
  cases made with
  | none =>
      obtain rfl : after = before := makes
      exact some
  | some evaluation =>
      rw [makes.sessions]
      split
      · exact List.cons_ne_nil _ _
      · exact some

theorem attended_begin (engine : Engine) (target : Value) : (engine.begin target).Attended :=
  .of_running (List.cons_ne_nil _ _)

/-- Sessions that end change neither the calculator nor what is known of evaluations. -/
theorem mind_unwind (engine : Engine) (depth : Nat) :
    (unwind engine depth).engine.calculator = engine.calculator ∧
      (unwind engine depth).engine.context = engine.context := by
  unfold unwind
  split
  · exact ⟨rfl, rfl⟩
  · exact ⟨rfl, rfl⟩

theorem Attended.unwind {engine : Engine} (some : engine.sessions.running ≠ []) (depth : Nat) :
    (unwind engine depth).Attended := by
  obtain ⟨session, rest, running⟩ := List.exists_cons_of_ne_nil some
  rw [unwind_eq running]
  cases rest with
  | nil => exact trivial
  | cons outer rest =>
      have remaining := (engine.leaves_leave session depth).running running
      refine .of_running ?_
      change (engine.leave session depth).sessions.running ≠ []
      rw [remaining]
      exact List.cons_ne_nil _ _

theorem Attended.step {run : Run} (attended : run.Attended) : run.step.Attended := by
  obtain ⟨engine, phase⟩ := run
  cases phase with
  | reading => exact .of_running (running_of_makes (makes_readLine engine) attended)
  | unwinding depth => exact .unwind attended depth
  | finished result => exact attended

theorem Attended.after {run : Run} (attended : run.Attended) (count : Nat) :
    (run.after count).Attended := by
  induction count with
  | zero => exact attended
  | succ count ih => exact ih.step

/-- A step makes the evaluation that it is said to make, and without one the calculator and what is
known of evaluations stay as they are. -/
theorem evaluation?_spec (run : Run) :
    match run.evaluation? with
    | none => run.step.engine.calculator = run.engine.calculator ∧
        run.step.engine.context = run.engine.context
    | some evaluation => run.phase = .reading ∧
        evaluation.Made run.engine.mind run.step.engine.mind := by
  obtain ⟨engine, phase⟩ := run
  cases phase with
  | reading =>
      have makes := makes_readLine engine
      change match evaluation? ⟨engine, .reading⟩ with
        | none => (readLine engine).engine.calculator = engine.calculator ∧
            (readLine engine).engine.context = engine.context
        | some evaluation => Phase.reading = .reading ∧
            evaluation.Made engine.mind (readLine engine).engine.mind
      cases made : evaluation? ⟨engine, .reading⟩ with
      | none =>
          rw [made] at makes
          exact ⟨congrArg Mind.calculator makes, congrArg Mind.context makes⟩
      | some evaluation =>
          rw [made] at makes
          exact ⟨rfl, makes⟩
  | unwinding depth => exact mind_unwind engine depth
  | finished result => exact ⟨rfl, rfl⟩

end Run

/-! ## The evaluations in the transcript -/

/-- The session, the text and the result of an evaluation that has been shown. -/
def Event.evaluated? : Event → Option (Option Nat × String × Except EvalError Value)
  | .evaluated id source result => some (id, source, result)
  | _ => none

theorem Event.evaluated?_of_isPlain {event : Event} (plain : event.isPlain) :
    event.evaluated? = none := by
  cases event with
  | evaluated => cases plain
  | _ => rfl

/-- The evaluations that have been shown, oldest first. -/
def Transcript.evaluated (transcript : Transcript) :
    List (Option Nat × String × Except EvalError Value) := transcript.told Event.evaluated?

theorem Transcript.Quiet.evaluated {before after : Transcript} (quiet : before.Quiet after) :
    after.evaluated = before.evaluated := by
  obtain ⟨added, extended, plain⟩ := quiet
  exact extended.told_of_none fun event member => Event.evaluated?_of_isPlain (plain event member)

theorem Transcript.Marks.evaluated {before after : Transcript} (marks : before.Marks after) :
    after.evaluated = before.evaluated := by
  obtain ⟨added, extended, marks⟩ := marks
  refine extended.told_of_none fun event member => ?_
  obtain plain | ⟨_, _, _, rfl⟩ := marks event member
  · exact Event.evaluated?_of_isPlain plain
  · rfl

/-- An evaluation as the transcript has it. -/
def Evaluation.shown? (evaluation : Evaluation) :
    Option (Option Nat × String × Except EvalError Value) :=
  match evaluation.purpose with
  | .showing => some (evaluation.session, evaluation.source, evaluation.result)
  | .nesting => none

namespace Engine

theorem evaluated_settle (engine : Engine) :
    engine.settle.desk.transcript.evaluated =
      engine.desk.transcript.evaluated ++ engine.settling?.toList.filterMap Evaluation.shown? := by
  unfold settling? settle
  dsimp only
  split
  · exact (List.append_nil _).symm
  · split
    · let source := engine.desk.buffer.text
      let result := (engine.evaluate source).1
      have added := Transcript.Extends.add engine.desk.transcript
        (.evaluated engine.session? source result)
      have printed := Transcript.Quiet.writeOr
        (engine.desk.transcript.add (.evaluated engine.session? source result))
        "Failed to print result" (resultText engine.settings.colours result)
      exact printed.evaluated.trans (added.told Event.evaluated?)
    · exact (List.append_nil _).symm

theorem evaluated_enter (engine : Engine) (target : Value) :
    (engine.enter target).desk.transcript.evaluated = engine.desk.transcript.evaluated :=
  (engine.enters_enter target).marks.evaluated

theorem evaluated_leave (engine : Engine) (session : Session) (depth : Nat) :
    (engine.leave session depth).desk.transcript.evaluated = engine.desk.transcript.evaluated :=
  (engine.leaves_leave session depth).marks.evaluated

end Engine

namespace Run

open Engine

theorem evaluated_afterDispatch (line : String) (engine : Engine)
    {result : EStateM.Result Error Desk Dispatched} {desk : Desk}
    (left : (∃ error, result = .error error desk) ∨ ∃ dispatched, result = .ok dispatched desk)
    (quiet : engine.desk.transcript.Quiet desk.transcript) :
    (afterDispatch line engine result).engine.desk.transcript.evaluated =
      engine.desk.transcript.evaluated ++
        (dispatching? line engine result).toList.filterMap Evaluation.shown? := by
  rw [← quiet.evaluated]
  obtain ⟨error, rfl⟩ | ⟨dispatched, rfl⟩ := left
  · let failed : Engine := { engine with desk }
    exact (failed.quiet_report error).evaluated.trans (List.append_nil _).symm
  · cases dispatched with
    | noCommand => exact evaluated_settle _
    | handled outcome =>
        cases outcome with
        | next => exact evaluated_settle _
        | breakout depth => exact (List.append_nil _).symm
        | nest expression =>
            have none (evaluation : Evaluation) (nesting : evaluation.purpose = .nesting) :
                (some evaluation).toList.filterMap Evaluation.shown? = [] := by
              simp [Evaluation.shown?, nesting]
            have same : dispatching? line engine (.ok (.handled (.nest expression)) desk) =
              some ({ engine with desk }.evaluation .nesting expression) := rfl
            rw [same, none _ rfl, List.append_nil]
            unfold afterDispatch Engine.evaluate
            dsimp only
            generalize engine.calculator.evaluate _ _ _ = evaluated
            obtain ⟨result, calculator⟩ := evaluated
            cases result with
            | ok value => exact evaluated_enter _ value
            | error error => exact (Transcript.Quiet.writeOr ..).evaluated

theorem evaluated_readLine {engine : Engine} (orderly : engine.registry.Orderly) :
    (readLine engine).engine.desk.transcript.evaluated = engine.desk.transcript.evaluated ++
      (evaluation? ⟨engine, .reading⟩).toList.filterMap Evaluation.shown? := by
  unfold evaluation?
  dsimp only
  split
  next text origin input _ read =>
    obtain ⟨transcript, asked, extended, isAsked, heard⟩ := engine.hear_snd origin text input
    have sameEvaluated : (engine.hear origin text input).2.desk.transcript.evaluated =
        engine.desk.transcript.evaluated := by
      rw [heard]
      refine extended.told_of_none fun event member => ?_
      rcases List.mem_append.mp member with before | taken
      · rw [isAsked event before]
        rfl
      · rw [List.mem_singleton.mp taken]
        rfl
    have stillOrderly : (engine.hear origin text input).2.registry.Orderly := by
      rw [heard]
      exact orderly
    rw [readLine_of_line read, ← sameEvaluated]
    generalize engine.hear origin text input = heard at stillOrderly
    have quiet := stillOrderly.quiet_dispatch (heard.2.surroundings heard.1)
      (withoutFinalBreaks text) heard.2.desk
    unfold Action.Ensures at quiet
    unfold dispatchHeard
    cases ran : heard.2.registry.dispatch _ _ _ with
    | error error desk =>
        rw [ran] at quiet
        exact evaluated_afterDispatch _ _ (.inl ⟨error, rfl⟩) quiet
    | ok dispatched desk =>
        rw [ran] at quiet
        exact evaluated_afterDispatch _ _ (.inr ⟨dispatched, rfl⟩) quiet
  next noLine =>
    unfold readLine
    generalize engine.desk.input.read = read at noLine
    obtain ⟨answer, origin, input⟩ := read
    have answered (middle : Engine) (begun : engine.desk.transcript.Quiet middle.desk.transcript) :
        engine.desk.transcript.Quiet
          (takeAnswer middle origin answer).engine.desk.transcript := by
      cases answer with
      | line text => exact (noLine text origin input rfl rfl).elim
      | endOfInput => exact begun
      | interrupted => exact begun.trans (.writeOr ..)
      | failed cause => exact begun.trans (middle.quiet_report _)
    refine Eq.trans ?_ (List.append_nil _).symm
    apply Transcript.Quiet.evaluated
    cases origin with
    | injected => exact answered _ (.refl _)
    | interactive => exact answered _ (.add _ rfl)

theorem evaluated_step {run : Run} (orderly : run.engine.registry.Orderly) :
    run.step.engine.desk.transcript.evaluated = run.engine.desk.transcript.evaluated ++
      run.evaluation?.toList.filterMap Evaluation.shown? := by
  obtain ⟨engine, phase⟩ := run
  cases phase with
  | finished result => exact (List.append_nil _).symm
  | reading => exact evaluated_readLine orderly
  | unwinding depth =>
      refine Eq.trans ?_ (List.append_nil _).symm
      change (unwind engine depth).engine.desk.transcript.evaluated = _
      unfold unwind
      split
      · rfl
      · exact evaluated_leave engine _ depth

/-- Of the evaluations that a run makes, those that are shown are in its transcript, and no others
are. -/
theorem evaluated_after {run : Run} (orderly : run.engine.registry.Orderly) (count : Nat) :
    (run.after count).engine.desk.transcript.evaluated = run.engine.desk.transcript.evaluated ++
      (run.evaluations count).filterMap Evaluation.shown? := by
  induction count with
  | zero => exact (List.append_nil _).symm
  | succ count ih =>
      have stillOrderly : (run.after count).engine.registry.Orderly := by
        rw [registry_after]
        exact orderly
      have step := evaluated_step stillOrderly
      rw [ih, List.append_assoc, ← List.filterMap_append] at step
      exact step

end Run

/-- What is known stays true through a step. -/
theorem Context.Tells.step {run : Run} {evaluations : List Evaluation}
    (tells : run.engine.context.Tells evaluations) :
    run.step.engine.context.Tells (evaluations ++ run.evaluation?.toList) := by
  have spec := run.evaluation?_spec
  cases made : run.evaluation? with
  | none =>
      rw [made] at spec
      rw [spec.2, Option.toList_none, List.append_nil]
      exact tells
  | some evaluation =>
      rw [made] at spec
      have context : run.step.engine.context = _ := spec.2.context
      rw [context, Option.toList_some]
      cases purpose : evaluation.purpose with
      | showing => exact tells.shown purpose
      | nesting => exact tells.nested purpose

theorem Context.Tells.after {run : Run} {past : List Evaluation}
    (tells : run.engine.context.Tells past) (count : Nat) :
    (run.after count).engine.context.Tells (past ++ run.evaluations count) := by
  induction count with
  | zero => exact (List.append_nil past).symm ▸ tells
  | succ count ih =>
      rw [Run.evaluations, ← List.append_assoc]
      exact ih.step

namespace Engine

/-- The context tells the truth about the run.  In each of its states, the last value, the session
it comes from, the last error and the number of evaluations are those of the expressions that have
waited in a buffer and have been evaluated so far, in whatever sessions; every further evaluation,
also one that a session is to begin on, is run in the innermost session, on its target and with that
last value, and one that a session is to begin on changes nothing that is known.  Nothing else
changes the calculator or what is known, and if the commands are orderly, the expressions that have
waited in a buffer and have been evaluated are those that the transcript has. -/
theorem context_tells_the_truth (engine : Engine) {past : List Evaluation}
    (told : engine.context.Tells past) (target : Value) (count : Nat) :
    let run := (engine.begin target).after count
    let made := past ++ (engine.begin target).evaluations count
    run.engine.context.Tells made ∧
      (engine.registry.Orderly → run.engine.desk.transcript.evaluated =
        engine.desk.transcript.evaluated ++
          ((engine.begin target).evaluations count).filterMap Evaluation.shown?) ∧
      match run.evaluation? with
      | none => run.step.engine.calculator = run.engine.calculator ∧
          run.step.engine.context = run.engine.context
      | some evaluation => ∃ session, run.engine.sessions.current? = some session ∧
          evaluation.session = some session.id ∧
          run.engine.calculator.evaluate evaluation.source session.target
            (Evaluation.lastValue made) = (evaluation.result, run.step.engine.calculator) ∧
          (evaluation.purpose = .nesting → run.step.engine.context = run.engine.context ∧
            run.step.engine.sessions =
              match evaluation.result with
              | .ok value => run.engine.sessions.push value
              | .error _ => run.engine.sessions) := by
  intro run made
  have begun : (engine.begin target).engine.context.Tells past := told
  have tells := begun.after count
  have spec := run.evaluation?_spec
  have shown (orderly : engine.registry.Orderly) : run.engine.desk.transcript.evaluated =
      engine.desk.transcript.evaluated ++
        ((engine.begin target).evaluations count).filterMap Evaluation.shown? := by
    rw [← evaluated_enter engine target]
    exact Run.evaluated_after orderly count
  refine ⟨tells, shown, ?_⟩
  cases evaluated : run.evaluation? with
  | none =>
      rw [evaluated] at spec
      exact spec
  | some evaluation =>
      rw [evaluated] at spec
      obtain ⟨reads, making⟩ := spec
      have attended : run.Attended := (Run.attended_begin engine target).after count
      unfold Run.Attended at attended
      rw [reads] at attended
      obtain ⟨session, rest, running⟩ := List.exists_cons_of_ne_nil attended
      have current : run.engine.mind.sessions.current? = some session := by
        change run.engine.sessions.running.head? = some session
        rw [running]
        rfl
      obtain ⟨identity, innermost⟩ := making.innermost current
      have last : run.engine.mind.context.lastResult = Evaluation.lastValue made := tells.lastResult
      rw [last] at innermost
      exact ⟨session, current, identity, innermost, making.nesting⟩

/-- A console that knows one command, by which a session begins between two expressions. -/
def nestingOnce : Engine :=
  { onScript ["6 * 7", "cd 1", "_"] with
    registry := .register .empty (.named "cd" "" (.fixed 1) Commands.changeSession) }

/-- In the session that begins on one, the last result is still the one from the session around it,
and then it is the result of the session itself. -/
theorem context_tells_the_truth_across_sessions :
    let context := ((nestingOnce.begin .main).after 3).engine.context
    (context.lastResult matches .int 42) ∧ context.activeSession = some 1 ∧
      context.lastError = none ∧ context.count = 2 := by
  obtain ⟨tells, _⟩ := context_tells_the_truth nestingOnce Context.tells_nil .main 3
  refine ⟨?_, tells.activeSession.trans ?_, tells.lastError.trans ?_, tells.count.trans ?_⟩
  · rw [tells.lastResult]
    decide +kernel
  · decide +kernel
  · decide +kernel
  · decide +kernel

end Engine

end Console
