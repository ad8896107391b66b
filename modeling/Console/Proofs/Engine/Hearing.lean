import Console.Proofs.Command.Replaying
import Console.Proofs.Engine.Taking

/-!
# Hearing a line

A step in which a session gets a line is told in two halves: the line is heard, and then it is
dispatched.  Hearing it concerns the transcript, the history and the input only, and nothing is
written yet.
-/

namespace Console

/-- The text that an event writes. -/
def Event.wrote? : Event → Option String
  | .wrote text => some text
  | _ => none

namespace Transcript

theorem Extends.output {before after : Transcript} {added : List Event}
    (extended : before.Extends after added) :
    after.output = before.output ++ String.join (added.filterMap Event.wrote?) := by
  have output (transcript : Transcript) :
      transcript.output = String.join (transcript.told Event.wrote?) := rfl
  rw [output, output, extended.told, String.join_append]

theorem Extends.output_of_none {before after : Transcript} {added : List Event}
    (extended : before.Extends after added) (none : ∀ event ∈ added, event.wrote? = none) :
    after.output = before.output := by
  rw [extended.output, List.filterMap_eq_nil_iff.mpr none, String.join_nil, String.append_empty]

@[simp] theorem output_add_wrote (transcript : Transcript) (text : String) :
    (transcript.add (.wrote text)).output = transcript.output ++ text := by
  rw [(Extends.add transcript (.wrote text)).output]
  simp [Event.wrote?]

theorem output_wrote (transcript : Transcript) (text : String) :
    (transcript.wrote text).output = transcript.output ++ text := by
  rw [(transcript.extends_wrote text).output]
  exact congrArg _ (String.empty_append)

@[simp] theorem output_log (transcript : Transcript) (level : LogLevel) (message : String) :
    (transcript.log level message).output = transcript.output :=
  (Extends.add transcript (.logged level message)).output_of_none
    (List.forall_mem_singleton.mpr rfl)

end Transcript

namespace Engine

/-- The engine that has heard the line of an answer, and the number that the line has in the
history, if it was added to it. -/
def hear (engine : Engine) (origin : Origin) (text : String) (input : InputChain) :
    Option Nat × Engine :=
  let prompt := engine.prompt
  let fed : Engine := { engine with desk := { engine.desk with input } }
  let asked :=
    match origin with
    | .interactive => fed.record (·.add (.asked prompt (.line text)))
    | .injected => fed
  let line := withoutFinalBreaks text
  (asked.record (·.add (.took asked.session? origin line))).remember origin line

/-- What comes of a line that has been heard. -/
def dispatchHeard (heard : Option Nat × Engine) (line : String) :
    EStateM.Result Error Desk Dispatched :=
  heard.2.registry.dispatch (heard.2.surroundings heard.1) line heard.2.desk

variable {engine : Engine} {origin : Origin} {text : String} {input : InputChain}

/-- A step in which a session gets a line is hearing and dispatching it. -/
theorem readLine_of_line (read : engine.desk.input.read = (.line text, origin, input)) :
    Run.readLine engine =
      Run.afterDispatch (withoutFinalBreaks text) (engine.hear origin text input).2
        (dispatchHeard (engine.hear origin text input) (withoutFinalBreaks text)) := by
  unfold Run.readLine hear dispatchHeard
  rw [read]
  cases origin with
  | interactive =>
      simp only [Run.takeAnswer, Run.takeLine]
  | injected =>
      simp only [Run.takeAnswer, Run.takeLine]

/-- The engine that has heard a line differs in its transcript, its history and its input only. -/
theorem hear_snd (engine : Engine) (origin : Origin) (text : String) (input : InputChain) :
    ∃ transcript asked, engine.desk.transcript.Extends transcript
        (asked ++ [.took engine.session? origin (withoutFinalBreaks text)]) ∧
      (∀ event ∈ asked, event = .asked engine.prompt (.line text)) ∧
      (engine.hear origin text input).2 =
        { engine with
          desk :=
            { engine.desk with
              transcript
              history := remembered origin (withoutFinalBreaks text) engine.desk.history
              input } } := by
  unfold hear
  dsimp only
  rw [remember_snd]
  let took : Event := .took engine.session? origin (withoutFinalBreaks text)
  cases origin with
  | injected => exact ⟨_, [], .add engine.desk.transcript took, nofun, rfl⟩
  | interactive =>
      let asked : Event := .asked engine.prompt (.line text)
      refine ⟨_, [asked], (Transcript.Extends.add _ asked).trans (.add _ took), ?_, rfl⟩
      exact List.forall_mem_singleton.mpr rfl

/-- A command sees the history as it was before the line was heard. -/
theorem past_hear (engine : Engine) (origin : Origin) (text : String) (input : InputChain) :
    let heard := engine.hear origin text input
    (heard.2.surroundings heard.1).past heard.2.desk.history = engine.desk.history.all := by
  unfold hear
  dsimp only
  rw [past_remember]
  cases origin with
  | injected => rfl
  | interactive => rfl

end Engine

/-! ## Steps that take a line -/

namespace Run

open Engine

variable {run : Run} {line : String}

/-- The line that the next step takes. -/
def line? (run : Run) : Option String :=
  match run.phase, run.engine.desk.input.read with
  | .reading, (.line text, _, _) => some (withoutFinalBreaks text)
  | _, _ => none

theorem line?_eq_some_iff : run.line? = some line ↔ ∃ text origin input, run.phase = .reading ∧
    run.engine.desk.input.read = (.line text, origin, input) ∧
      withoutFinalBreaks text = line := by
  constructor
  · intro takes
    unfold line? at takes
    split at takes
    next text origin input reading read =>
      exact ⟨text, origin, input, reading, read, Option.some.inj takes⟩
    · cases takes
  · rintro ⟨text, origin, input, reading, read, rfl⟩
    rw [line?, reading, read]

/-- The next step is the dispatch of a line by an engine that has heard it. -/
structure Dispatches (run : Run) (line : String) (heard : Engine) (around : Surroundings) :
    Prop where
  past : around.past heard.desk.history = run.engine.desk.history.all
  catalogue : around.catalogue = run.engine.registry.catalogue
  settings : around.settings = run.engine.settings
  isOpen : run.engine.desk.transcript.Open → heard.desk.transcript.Open
  output : heard.desk.transcript.output = run.engine.desk.transcript.output
  buffer : heard.desk.buffer = run.engine.desk.buffer
  openings : heard.desk.openings = run.engine.desk.openings
  storage : heard.desk.storage = run.engine.desk.storage
  step : run.step =
    afterDispatch line heard (run.engine.registry.dispatch around line heard.desk)

theorem exists_dispatches (takes : run.line? = some line) :
    ∃ heard around, run.Dispatches line heard around := by
  obtain ⟨text, origin, input, reading, read, rfl⟩ := line?_eq_some_iff.mp takes
  obtain ⟨engine, phase⟩ := run
  obtain rfl : phase = .reading := reading
  have step := readLine_of_line read
  have past := engine.past_hear origin text input
  obtain ⟨transcript, asked, extended, isAsked, heard⟩ := engine.hear_snd origin text input
  have output : transcript.output = engine.desk.transcript.output := by
    refine extended.output_of_none fun event member => ?_
    rcases List.mem_append.mp member with before | taken
    · rw [isAsked event before]
      rfl
    · rw [List.mem_singleton.mp taken]
      rfl
  unfold dispatchHeard at step
  dsimp only at past
  generalize (engine.hear origin text input).1 = number at past step
  rw [heard] at past step
  exact ⟨_, _, past, rfl, rfl, extended.isOpen, output, rfl, rfl, rfl, step⟩

/-- A line for `hist` is taken without leaving the session. -/
theorem reading_of_invokesHist (builtin : run.engine.registry = .builtin)
    (takes : run.line? = some line) (invokes : Registry.builtin.invokesHist line) :
    run.step.phase = .reading := by
  obtain ⟨heard, around, dispatches⟩ := exists_dispatches takes
  have goesOn := Registry.next_dispatch invokes around heard.desk
  have step := dispatches.step
  unfold Action.Ensures at goesOn
  rw [step, builtin]
  cases ran : Registry.builtin.dispatch around line heard.desk with
  | error error desk => rfl
  | ok dispatched desk =>
      rw [ran] at goesOn
      rw [goesOn]
      rfl

end Run

end Console
