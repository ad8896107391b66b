import Console.Proofs.Command.Failing
import Console.Proofs.Command.Patterns
import Console.Proofs.Engine.Nesting

/-!
# How a session goes on after a failure

The line of a command that fails is as good as not entered: the error is reported, and the session
reads on with the expression buffer, the history and the input that it had.
-/

namespace Console

namespace Engine

/-- A built-in command that fails while the output is open has changed neither the expression
buffer nor the history nor the input, and once the error is reported, the sessions that were running
go on with these. -/
theorem failing_command_changes_nothing (engine : Engine) (lineIndex : Option Nat) (line : String)
    (command known : Command) (recognized : Recognized)
    (found : engine.registry.find? line = some (command, recognized))
    (member : known ∈ Registry.builtin.commands) (same : command.handler = known.handler)
    (isOpen : engine.desk.transcript.Open) (error : Error) (desk : Desk)
    (failed : engine.registry.dispatch (engine.surroundings lineIndex) line engine.desk =
      .error error desk) :
    engine.desk.Unchanged desk ∧
    ∃ next, Run.afterDispatch line engine
        (engine.registry.dispatch (engine.surroundings lineIndex) line engine.desk) =
          ⟨next, .reading⟩ ∧
      engine.desk.Unchanged next.desk ∧ next.sessions = engine.sessions ∧
        next.suspended = engine.suspended := by
  have ensured := Registry.ensures_dispatch_builtin found member same
    (engine.surroundings lineIndex) isOpen
  unfold Action.Ensures at ensured
  rw [failed] at ensured ⊢
  exact ⟨ensured, _, rfl, ⟨ensured.buffer, ensured.history, ensured.input⟩, rfl, rfl⟩

/-- A console in which an expression has been begun and a line waits in front of the input. -/
def midway : Engine :=
  let engine := onScript ["2"]
  { engine with
    desk :=
      { engine.desk with
        buffer := .ofText "1 +\n"
        history := ⟨["1 +"], 0⟩
        input := engine.desk.input.inject "3\n" } }

/-- The history is too short for the line, and none of the patterns is tried before its command. -/
theorem told_midway :
    (midway.registry.find? "hist --replay 5").isSome ∧
      (midway.registry.dispatch (midway.surroundings none) "hist --replay 5"
        midway.desk) matches .error (.noHistoryLines _) _ := by
  simp only [midway, onScript, Registry.builtin, Commands.registerBuffering,
    Commands.registerNesting, Commands.registerPattern_amend, Commands.ofSimplePattern_percent,
    Commands.registerPattern_cd]
  decide +kernel

theorem failing_replay_changes_nothing :
    ∃ error desk next,
      midway.registry.dispatch (midway.surroundings none) "hist --replay 5" midway.desk =
        .error error desk ∧
      Run.afterDispatch "hist --replay 5" midway (.error error desk) = ⟨next, .reading⟩ ∧
        next.desk.buffer = .ofText "1 +\n" ∧ next.desk.history.entries = ["1 +"] ∧
          next.desk.input.injected = [["3"]] := by
  obtain ⟨isFound, fails⟩ := told_midway
  obtain ⟨⟨command, recognized⟩, found⟩ := Option.isSome_iff_exists.mp isFound
  cases ran : midway.registry.dispatch (midway.surroundings none) "hist --replay 5" midway.desk with
  | ok value desk =>
      rw [ran] at fails
      cases fails
  | error error desk =>
      have member := Registry.mem_of_find?_eq_some found
      obtain ⟨_, next, goesOn, unchanged, _⟩ := failing_command_changes_nothing midway none
        "hist --replay 5" command command recognized found member rfl (.of_nil rfl rfl) error desk
        ran
      rw [ran] at goesOn
      refine ⟨error, desk, next, rfl, goesOn, unchanged.buffer, ?_, ?_⟩
      · rw [unchanged.history]
        rfl
      · rw [unchanged.input]
        decide

end Engine

end Console
