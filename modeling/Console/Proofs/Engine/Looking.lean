import Console.Proofs.Command.Looking
import Console.Proofs.Command.Patterns
import Console.Proofs.Engine.Pending
import Console.Proofs.Engine.Taking

/-!
# Looking never evaluates

Whatever command has succeeded, the expression buffer is settled, so a command that leaves the
buffer alone could still cause what waits in it to be evaluated or forgotten.  It cannot in a run:
there the buffer of a session that reads is ready, and settling leaves a ready buffer as it is.
-/

namespace Console

namespace Engine

/-- Nothing is to be done about a buffer that is ready. -/
theorem settle_of_ready {engine : Engine} (ready : engine.desk.buffer.Ready) :
    engine.settle = engine := by
  rcases ready with nothing | ⟨some, _, _, incomplete⟩
  · have blank : engine.desk.buffer.isBlank = true := by
      rw [nothing]
      rfl
    simp only [settle, blank, if_true]
    rw [← nothing]
    rfl
  · simp only [settle, some, incomplete, Bool.false_eq_true, if_false]

end Engine

namespace Run

open Engine

variable (engine : Engine)

/-- A command that only looks adds to the transcript, and the session reads on. -/
theorem afterDispatch_of_looks {line : String} (builtin : engine.registry = .builtin)
    (ready : engine.desk.buffer.Ready) (looks : engine.registry.Looks line)
    (around : Surroundings) :
    ∃ transcript, engine.desk.transcript.Quiet transcript ∧
      afterDispatch line engine (engine.registry.dispatch around line engine.desk) =
        ⟨{ engine with desk := { engine.desk with transcript } }, .reading⟩ := by
  have kept := looks.dispatch (builtin ▸ Registry.shows_builtin) around engine.desk
  unfold Action.Ensures at kept
  cases ran : engine.registry.dispatch around line engine.desk with
  | ok dispatched desk =>
      rw [ran] at kept
      obtain ⟨rfl, quiet, same⟩ := kept
      refine ⟨desk.transcript, quiet, ?_⟩
      rw [← same]
      have stillReady : desk.buffer.Ready := by rwa [same]
      have settled : ({ engine with desk } : Engine).settle = { engine with desk } :=
        settle_of_ready stillReady
      rw [afterDispatch, settled]
  | error error desk =>
      rw [ran] at kept
      obtain ⟨quiet, same⟩ := kept
      let failed : Engine := { engine with desk }
      refine ⟨(failed.report error).desk.transcript, quiet.trans (failed.quiet_report error), ?_⟩
      rw [same]
      rfl

/-- A line for a command that only looks is taken and remembered, and nothing else is done. -/
theorem takeLine_of_looks (builtin : engine.registry = .builtin) (ready : engine.desk.buffer.Ready)
    (origin : Origin) (text : String) (looks : engine.registry.Looks (withoutFinalBreaks text)) :
    ∃ transcript said, engine.desk.transcript.Extends transcript
        (.took engine.session? origin (withoutFinalBreaks text) :: said) ∧
      (∀ event ∈ said, event.isPlain) ∧
      takeLine engine origin text =
        ⟨{ engine with
            desk :=
              { engine.desk with
                transcript
                history := remembered origin (withoutFinalBreaks text) engine.desk.history } },
          .reading⟩ := by
  unfold takeLine
  generalize withoutFinalBreaks text = line at looks ⊢
  let took : Event := .took engine.session? origin line
  have heard := remember_snd (engine.record (·.add took)) origin line
  dsimp only
  rw [heard]
  obtain ⟨transcript, ⟨said, extended, plain⟩, taken⟩ :=
    afterDispatch_of_looks
      { engine with
        desk :=
          { engine.desk with
            transcript := engine.desk.transcript.add took
            history := remembered origin line engine.desk.history } } builtin ready looks
      (surroundings _ ((engine.record (·.add took)).remember origin line).1)
  exact ⟨transcript, said, (Transcript.Extends.add _ took).trans extended, plain, taken⟩

theorem readLine_of_looks (builtin : engine.registry = .builtin) (ready : engine.desk.buffer.Ready)
    {text : String} {origin : Origin} {rest : InputChain}
    (read : engine.desk.input.read = (.line text, origin, rest))
    (looks : engine.registry.Looks (withoutFinalBreaks text)) :
    ∃ transcript asked said, engine.desk.transcript.Extends transcript
        (asked ++ .took engine.session? origin (withoutFinalBreaks text) :: said) ∧
      (∀ event ∈ asked ++ said, event.isPlain) ∧
      readLine engine =
        ⟨{ engine with
            desk :=
              { engine.desk with
                transcript
                history := remembered origin (withoutFinalBreaks text) engine.desk.history
                input := rest } },
          .reading⟩ := by
  unfold readLine
  rw [read]
  cases origin with
  | injected =>
      let fed : Engine := { engine with desk := { engine.desk with input := rest } }
      obtain ⟨transcript, said, extended, plain, taken⟩ :=
        takeLine_of_looks fed builtin ready .injected text looks
      exact ⟨transcript, [], said, extended, plain, taken⟩
  | interactive =>
      let asked : Event := .asked engine.prompt (.line text)
      let fed : Engine :=
        { engine with
          desk :=
            { engine.desk with input := rest, transcript := engine.desk.transcript.add asked } }
      obtain ⟨transcript, said, extended, plain, taken⟩ :=
        takeLine_of_looks fed builtin ready .interactive text looks
      refine ⟨transcript, [asked], said, (Transcript.Extends.add _ asked).trans extended, ?_, taken⟩
      exact List.forall_mem_cons.mpr ⟨rfl, plain⟩

end Run

namespace Engine

/-- Looking never evaluates.  Wherever a session of a run reads a line that is for a command which
only looks, the command may succeed or fail, but the step leaves everything as it was, the
expression buffer, the calculator, what is known of earlier evaluations and the sessions among it:
the line is taken from the input, remembered in the history if it was typed and is not blank, and
what is shown is added to the transcript. -/
theorem looking_never_evaluates (engine : Engine) (idle : engine.Idle)
    (isOpen : engine.desk.transcript.Open) (target : Value) (count : Nat) (text : String)
    (origin : Origin) (rest : InputChain)
    (reads : ((engine.begin target).after count).phase = .reading)
    (read : ((engine.begin target).after count).engine.desk.input.read = (.line text, origin, rest))
    (looks : Registry.builtin.Looks (withoutFinalBreaks text)) :
    let before := ((engine.begin target).after count).engine
    ∃ transcript asked said, before.desk.transcript.Extends transcript
        (asked ++ .took before.session? origin (withoutFinalBreaks text) :: said) ∧
      (∀ event ∈ asked ++ said, event.isPlain) ∧
      (engine.begin target).after (count + 1) =
        ⟨{ before with
            desk :=
              { before.desk with
                transcript
                history := remembered origin (withoutFinalBreaks text) before.desk.history
                input := rest } },
          .reading⟩ := by
  have begun := Run.sound_begin idle.orderly idle.wellNested target
  have tidy := (Run.tidy_begin idle.sessions isOpen target).after begun count
  have builtin : ((engine.begin target).after count).engine.registry = .builtin :=
    (begun.registry_after count).trans idle.builtin
  have stepped : (engine.begin target).after (count + 1) =
      Run.readLine ((engine.begin target).after count).engine := by
    rw [Run.after, Run.step, reads]
  rw [stepped]
  exact Run.readLine_of_looks _ builtin (tidy.current reads) read (builtin ▸ looks)

/-- The beginning of an expression waits in the buffer when a line asks to see it. -/
def glancing : Engine := onScript ["1 +", "show-input"]

theorem reads_glancing :
    ((glancing.begin .main).after 1).phase matches .reading ∧
      ((glancing.begin .main).after 1).engine.desk.input.base = [.line "show-input"] ∧
      ((glancing.begin .main).after 1).engine.desk.input.injected = [] ∧
      ((glancing.begin .main).after 1).engine.desk.buffer = .ofText "1 +\n" ∧
      (Registry.builtin.find? "show-input").map (·.1.name) = some "show-input" := by
  simp only [glancing, onScript, Registry.builtin, Commands.registerBuffering,
    Commands.registerNesting, Commands.registerPattern_amend, Commands.ofSimplePattern_percent,
    Commands.registerPattern_cd]
  decide +kernel

theorem looking_never_evaluates_amid_expression :
    ∃ transcript, (glancing.begin .main).after 2 =
        ⟨{ ((glancing.begin .main).after 1).engine with
            desk :=
              { ((glancing.begin .main).after 1).engine.desk with
                transcript
                history := remembered .interactive "show-input"
                  ((glancing.begin .main).after 1).engine.desk.history
                input := {} } },
          .reading⟩ ∧
      ((glancing.begin .main).after 1).engine.desk.buffer = .ofText "1 +\n" := by
  obtain ⟨isReading, base, injected, waits, named⟩ := reads_glancing
  have read : ((glancing.begin .main).after 1).engine.desk.input.read =
      (.line "show-input", .interactive, {}) := by
    simp [InputChain.read, InputChain.nextInjected?, base, injected]
  have looks : Registry.builtin.Looks "show-input" := by
    obtain ⟨⟨command, recognized⟩, found, named⟩ := Option.map_eq_some_iff.mp named
    exact ⟨command, recognized, found, .inl (named ▸ by decide)⟩
  obtain ⟨transcript, _, _, _, _, stepped⟩ :=
    looking_never_evaluates glancing (idle_onScript _) (isOpen_onScript _) .main 1 "show-input"
      .interactive {} (Run.phase_eq_reading isReading) read looks
  exact ⟨transcript, stepped, waits⟩

end Engine

end Console
