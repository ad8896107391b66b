import Console.Proofs.Command.Recalling
import Console.Proofs.Engine.Brackets

/-!
# Taking a line

What a step does to the history, the input and the files.  Only a line that is taken changes them,
and a line is taken from what was first in the input: it is added to the history if it was typed
and is not blank, and then it is dispatched, seeing the history as it was before.
-/

namespace Console

namespace InputChain

/-- Where the next answer is taken from. -/
inductive Gives (chain : InputChain) : Answer → Origin → InputChain → Prop
  | injected {line : String} {rest : List (List String)}
      (next : chain.injected.flatten = line :: rest.flatten) :
      Gives chain (.line line) .injected { chain with injected := rest }
  | base {answer : Answer} {base : Source} (next : chain.base = answer :: base)
      (none : chain.injected.flatten = []) : Gives chain answer .interactive ⟨base, []⟩
  | ended (next : chain.base = []) (none : chain.injected.flatten = []) :
      Gives chain .endOfInput .interactive ⟨[], []⟩

theorem gives_of_read {chain input : InputChain} {answer : Answer} {origin : Origin}
    (read : chain.read = (answer, origin, input)) : chain.Gives answer origin input := by
  obtain ⟨base, injected⟩ := chain
  have next := flatten_of_nextInjected? injected
  unfold InputChain.read at read
  dsimp only at read
  split at read
  next found =>
    rw [found] at next
    cases read
    exact .injected next
  next found =>
    rw [found] at next
    cases base with
    | nil =>
        cases read
        exact .ended rfl next
    | cons first rest =>
        cases read
        exact .base rfl next

end InputChain

/-- The line that a session has taken, with where it came from. -/
def Event.taken? : Event → Option (Origin × String)
  | .took _ origin line => some (origin, line)
  | _ => none

theorem Event.taken?_of_isPlain {event : Event} (plain : event.isPlain) : event.taken? = none := by
  cases event with
  | took => cases plain
  | _ => rfl

namespace Transcript

/-- The lines that have been taken, oldest first. -/
def taken (transcript : Transcript) : List (Origin × String) :=
  transcript.events.reverse.filterMap Event.taken?

theorem Extends.taken {before after : Transcript} {added : List Event}
    (extended : before.Extends after added) :
    after.taken = before.taken ++ added.filterMap Event.taken? := extended.told Event.taken?

/-- Lines are taken by sessions only while they read. -/
theorem Extends.taken_of_none {before after : Transcript} {added : List Event}
    (extended : before.Extends after added) (none : ∀ event ∈ added, event.taken? = none) :
    after.taken = before.taken := extended.told_of_none none

theorem Quiet.taken {before after : Transcript} (quiet : before.Quiet after) :
    after.taken = before.taken := by
  obtain ⟨added, extended, plain⟩ := quiet
  exact extended.taken_of_none fun event member => Event.taken?_of_isPlain (plain event member)

theorem Marks.taken {before after : Transcript} (marks : before.Marks after) :
    after.taken = before.taken := by
  obtain ⟨added, extended, marks⟩ := marks
  refine extended.taken_of_none fun event member => ?_
  obtain plain | ⟨_, _, _, rfl⟩ := marks event member
  · exact Event.taken?_of_isPlain plain
  · rfl

end Transcript

namespace Engine

theorem quiet_report (engine : Engine) (error : Error) :
    engine.desk.transcript.Quiet (engine.report error).desk.transcript :=
  (Transcript.Quiet.log ..).trans (.writeOr ..)

/-- The engine has gone on without taking a line or changing what is on the desk beside what is
said and what is being entered. -/
structure Aside (before after : Engine) : Prop where
  holdings : after.desk.holdings = before.desk.holdings
  taken : after.desk.transcript.taken = before.desk.transcript.taken
  registry : after.registry = before.registry
  historyFile : after.historyFile = before.historyFile
  saveOnExit : after.saveOnExit = before.saveOnExit

namespace Aside

section

variable {before after : Engine}

theorem history (aside : before.Aside after) : after.desk.history = before.desk.history :=
  congrArg Holdings.history aside.holdings

theorem input (aside : before.Aside after) : after.desk.input = before.desk.input :=
  congrArg Holdings.input aside.holdings

theorem storage (aside : before.Aside after) : after.desk.storage = before.desk.storage :=
  congrArg Holdings.storage aside.holdings

end

theorem refl (engine : Engine) : engine.Aside engine := ⟨rfl, rfl, rfl, rfl, rfl⟩

theorem trans {first second third : Engine} (begun : first.Aside second)
    (continued : second.Aside third) : first.Aside third where
  holdings := continued.holdings.trans begun.holdings
  taken := continued.taken.trans begun.taken
  registry := continued.registry.trans begun.registry
  historyFile := continued.historyFile.trans begun.historyFile
  saveOnExit := continued.saveOnExit.trans begun.saveOnExit

variable (engine : Engine)

theorem record {change : Transcript → Transcript}
    (same : (change engine.desk.transcript).taken = engine.desk.transcript.taken) :
    engine.Aside (engine.record change) := ⟨rfl, same, rfl, rfl, rfl⟩

theorem log (level : LogLevel) (message : String) : engine.Aside (engine.log level message) :=
  record engine (Transcript.Quiet.log ..).taken

theorem write (complaint text : String) : engine.Aside (engine.write complaint text) :=
  record engine (Transcript.Quiet.writeOr ..).taken

theorem report (error : Error) : engine.Aside (engine.report error) :=
  (log engine ..).trans (write ..)

theorem print (result : Except EvalError Value) : engine.Aside (engine.print result) :=
  write engine ..

theorem evaluate (source : String) : engine.Aside (engine.evaluate source).2 :=
  ⟨rfl, rfl, rfl, rfl, rfl⟩

theorem withBuffer (buffer : Buffer) : engine.Aside (engine.withBuffer buffer) :=
  ⟨rfl, rfl, rfl, rfl, rfl⟩

theorem evaluateBuffer : engine.Aside engine.evaluateBuffer := by
  obtain ⟨result, said, stays, plain, _⟩ := engine.evaluateBuffer_spec
  refine ⟨rfl, stays.transcript.taken_of_none ?_, rfl, rfl, rfl⟩
  intro event member
  rcases List.mem_cons.mp member with rfl | member
  · rfl
  · exact Event.taken?_of_isPlain (plain event member)

theorem settle : engine.Aside engine.settle := by
  have settles := engine.settles
  generalize engine.settle = after at settles ⊢
  cases settles with
  | forgotten => exact withBuffer engine .empty
  | evaluated => exact evaluateBuffer engine
  | waiting => exact refl engine

theorem enter (target : Value) : engine.Aside (engine.enter target) :=
  ⟨rfl, (engine.enters_enter target).marks.taken, rfl, rfl, rfl⟩

theorem leave (session : Session) (depth : Nat) : engine.Aside (engine.leave session depth) :=
  ⟨rfl, (engine.leaves_leave session depth).marks.taken, rfl, rfl, rfl⟩

theorem unwind (depth : Nat) : engine.Aside (Run.unwind engine depth).engine := by
  unfold Run.unwind
  split
  · exact refl engine
  · exact leave engine _ depth

end Aside

/-- The history when a line is dispatched: a line that was typed has been added, unless it is
blank. -/
def remembered (origin : Origin) (line : String) (history : History) : History :=
  if origin = .interactive ∧ !isBlankText line then history.push line else history

/-- A line has been taken from what is left of the input: it was added to the history if it was
typed, and what was done then is what the line says. -/
structure Took (before : Engine) (origin : Origin) (line : String) (input : InputChain)
    (after : Engine) : Prop where
  taken : after.desk.transcript.taken = before.desk.transcript.taken ++ [(origin, line)]
  recalled : Desk.Recalled before.registry before.desk.history.all line
    { before.desk with input, history := remembered origin line before.desk.history } after.desk
  registry : after.registry = before.registry
  historyFile : after.historyFile = before.historyFile
  saveOnExit : after.saveOnExit = before.saveOnExit

/-- What a step in which a session reads does with an answer, where some input is left. -/
inductive Answered (before : Engine) (input : InputChain) (origin : Origin) : Answer → Run → Prop
  | line {text : String} {run : Run}
      (took : before.Took origin (withoutFinalBreaks text) input run.engine)
      (phase : run.phase = .reading ∨ ∃ depth, run.phase = .unwinding depth) :
      Answered before input origin (.line text) run
  | interrupted {after : Engine}
      (aside : Aside { before with desk := { before.desk with input } } after) :
      Answered before input origin .interrupted ⟨after, .reading⟩
  | ended {answer : Answer} {after : Engine} {depth : Nat} (noLine : answer.line? = none)
      (aside : Aside { before with desk := { before.desk with input } } after) :
      Answered before input origin answer ⟨after, .unwinding depth⟩

theorem remember_snd (engine : Engine) (origin : Origin) (line : String) :
    (engine.remember origin line).2 =
      { engine with
        desk := { engine.desk with history := remembered origin line engine.desk.history } } := by
  unfold remember remembered
  cases origin with
  | injected => rfl
  | interactive =>
      cases blank : isBlankText line with
      | true => rfl
      | false => rfl

/-- A line sees the history as it was before it was taken, whether it was added or not. -/
theorem past_remember (engine : Engine) (origin : Origin) (line : String) :
    (surroundings (engine.remember origin line).2 (engine.remember origin line).1).past
      (engine.remember origin line).2.desk.history = engine.desk.history.all := by
  unfold remember
  cases origin with
  | injected => rfl
  | interactive =>
      cases blank : isBlankText line with
      | true => rfl
      | false =>
          change (engine.desk.history.push line).upTo engine.desk.history.size = _
          rw [History.upTo, History.push, List.take_left']
          · rw [History.all, History.upTo, History.size, List.take_length]
          · rfl

/-- What is said before a line is taken does not matter. -/
theorem Took.after_aside {before middle after : Engine} {input : InputChain} {origin : Origin}
    {line : String} (aside : Aside { before with desk := { before.desk with input } } middle)
    (took : middle.Took origin line input after) : before.Took origin line input after := by
  have sameHistory : middle.desk.history = before.desk.history := aside.history
  have sameRest := aside.holdings
  have recalled := took.recalled
  rw [sameHistory, aside.registry] at recalled
  refine
    { taken := aside.taken ▸ took.taken
      recalled := recalled.after_aloof ?_
      registry := took.registry.trans aside.registry
      historyFile := took.historyFile.trans aside.historyFile
      saveOnExit := took.saveOnExit.trans aside.saveOnExit }
  rw [Desk.holdings, Desk.holdings, Holdings.mk.injEq] at sameRest
  obtain ⟨_, _, storage, editor, openings⟩ := sameRest
  simp only [Desk.holdings, storage, editor, openings]

end Engine

namespace Run

open Engine

variable {engine : Engine}

/-- What follows the dispatch of a line concerns neither the history nor the input. -/
theorem aside_afterDispatch (line : String) (engine : Engine) {desk : Desk}
    {result : EStateM.Result Error Desk Dispatched}
    (left : (∃ error, result = .error error desk) ∨ ∃ dispatched, result = .ok dispatched desk) :
    Aside { engine with desk } (afterDispatch line engine result).engine ∧
      ((afterDispatch line engine result).phase = .reading ∨
        ∃ depth, (afterDispatch line engine result).phase = .unwinding depth) := by
  obtain ⟨error, rfl⟩ | ⟨dispatched, rfl⟩ := left
  · exact ⟨Aside.report _ error, .inl rfl⟩
  · cases dispatched with
    | noCommand => exact ⟨(Aside.withBuffer _ _).trans (Aside.settle _), .inl rfl⟩
    | handled outcome =>
        cases outcome with
        | next => exact ⟨Aside.settle _, .inl rfl⟩
        | breakout depth => exact ⟨Aside.refl _, .inr ⟨depth, rfl⟩⟩
        | nest expression =>
            have evaluated := Aside.evaluate { engine with desk } expression
            unfold afterDispatch
            dsimp only
            generalize Engine.evaluate _ expression = outcome at evaluated ⊢
            obtain ⟨result, after⟩ := outcome
            cases result with
            | ok value => exact ⟨evaluated.trans (Aside.enter after value), .inl rfl⟩
            | error error => exact ⟨evaluated.trans (Aside.print after _), .inl rfl⟩

/-- Dispatching a line takes no other line. -/
theorem taken_dispatch {registry : Registry} (orderly : registry.Orderly) (around : Surroundings)
    (line : String) (desk : Desk) :
    (registry.dispatch around line).Ensures desk
      (fun _ after => after.transcript.taken = desk.transcript.taken)
      fun _ after => after.transcript.taken = desk.transcript.taken :=
  (orderly.quiet_dispatch around line desk).mono (fun _ _ quiet => quiet.taken)
    fun _ _ quiet => quiet.taken

/-- A line that has been heard is dispatched. -/
theorem took_afterDispatch {before heard : Engine} {origin : Origin} {line : String}
    (builtin : heard.registry = .builtin)
    (holdings : heard.desk.holdings =
      { before.desk.holdings with history := remembered origin line before.desk.history })
    (registry : heard.registry = before.registry)
    (historyFile : heard.historyFile = before.historyFile)
    (saveOnExit : heard.saveOnExit = before.saveOnExit)
    (taken : heard.desk.transcript.taken = before.desk.transcript.taken ++ [(origin, line)])
    {around : Surroundings} (past : around.past heard.desk.history = before.desk.history.all) :
    let next := afterDispatch line heard (heard.registry.dispatch around line heard.desk)
    before.Took origin line before.desk.input next.engine ∧
      (next.phase = .reading ∨ ∃ depth, next.phase = .unwinding depth) := by
  have recalled := Registry.ensures_dispatch (builtin ▸ Registry.recalls_builtin) around line
    heard.desk
  have sameTaken := taken_dispatch (builtin ▸ Registry.orderly_builtin) around line heard.desk
  unfold Action.Ensures at recalled sameTaken
  have finished {desk : Desk} {result : EStateM.Result Error Desk Dispatched}
      (left : (∃ error, result = .error error desk) ∨ ∃ dispatched, result = .ok dispatched desk)
      (recalled : heard.desk.Recalled heard.registry (around.past heard.desk.history) line desk)
      (same : desk.transcript.taken = heard.desk.transcript.taken) :
      before.Took origin line before.desk.input (afterDispatch line heard result).engine ∧
        ((afterDispatch line heard result).phase = .reading ∨
          ∃ depth, (afterDispatch line heard result).phase = .unwinding depth) := by
    obtain ⟨after, phase⟩ := aside_afterDispatch line heard left
    rw [past, registry] at recalled
    refine ⟨?_, phase⟩
    exact
      { taken := after.taken.trans (same.trans taken)
        recalled := (recalled.after_aloof holdings).before_aloof after.holdings
        registry := after.registry.trans registry
        historyFile := after.historyFile.trans historyFile
        saveOnExit := after.saveOnExit.trans saveOnExit }
  cases ran : heard.registry.dispatch around line heard.desk with
  | error error desk =>
      rw [ran] at recalled sameTaken
      exact finished (.inl ⟨error, rfl⟩) recalled sameTaken
  | ok dispatched desk =>
      rw [ran] at recalled sameTaken
      exact finished (.inr ⟨dispatched, rfl⟩) recalled sameTaken

theorem took_takeLine (builtin : engine.registry = .builtin) (origin : Origin) (text : String) :
    engine.Took origin (withoutFinalBreaks text) engine.desk.input
        (takeLine engine origin text).engine ∧
      ((takeLine engine origin text).phase = .reading ∨
        ∃ depth, (takeLine engine origin text).phase = .unwinding depth) := by
  generalize named : withoutFinalBreaks text = line
  let recorded := engine.record (·.add (.took engine.session? origin line))
  have heard := remember_snd recorded origin line
  have past := past_remember recorded origin line
  have begun := Transcript.Extends.add engine.desk.transcript (.took engine.session? origin line)
  unfold takeLine
  rw [named]
  dsimp only
  refine took_afterDispatch ?_ ?_ ?_ ?_ ?_ ?_ past
  all_goals rw [heard]
  · exact builtin
  · rfl
  · rfl
  · rfl
  · rfl
  · exact begun.taken

theorem answered_readLine (builtin : engine.registry = .builtin) {answer : Answer}
    {origin : Origin} {input : InputChain}
    (read : engine.desk.input.read = (answer, origin, input)) :
    Answered engine input origin answer (readLine engine) := by
  let fed : Engine := { engine with desk := { engine.desk with input } }
  have answered (middle : Engine) (aside : fed.Aside middle) :
      Answered engine input origin answer (takeAnswer middle origin answer) := by
    have sameInput : middle.desk.input = input := aside.input
    cases answer with
    | line text =>
        obtain ⟨took, phase⟩ := took_takeLine (aside.registry.trans builtin) origin text
        rw [sameInput] at took
        exact .line (took.after_aside aside) phase
    | endOfInput => exact .ended rfl aside
    | interrupted => exact .interrupted (aside.trans (Aside.write middle _ _))
    | failed cause => exact .ended rfl (aside.trans (Aside.report middle _))
  unfold readLine
  rw [read]
  cases origin with
  | injected => exact answered fed (.refl fed)
  | interactive =>
      apply answered
      apply Aside.record
      exact Transcript.Quiet.taken (.add _ rfl)

end Run

end Console
