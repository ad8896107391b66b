import Mathlib
import Console.Proofs.Command.Overlooking

/-!
# What is logged makes no difference

Log records are for whoever looks after the console; commands never read them.  So what an action
does can be told apart from what is logged before it and on the way.
-/

namespace Console

/-- Whether an event is a log record. -/
def Event.isLogged : Event → Bool
  | .logged .. => true
  | _ => false

/-- A transcript without its log records. -/
def Transcript.unlogged (transcript : Transcript) : Transcript :=
  { transcript with events := transcript.events.filter fun event => !event.isLogged }

/-- A desk without the log records of its transcript. -/
def Desk.unlogged (desk : Desk) : Desk := { desk with transcript := desk.transcript.unlogged }

namespace Transcript

@[simp] theorem unlogged_unlogged (transcript : Transcript) :
    transcript.unlogged.unlogged = transcript.unlogged := by
  simp [unlogged]

theorem unlogged_add (transcript : Transcript) (event : Event) :
    (transcript.add event).unlogged =
      if event.isLogged then transcript.unlogged else transcript.unlogged.add event := by
  cases logged : event.isLogged <;> simp [unlogged, add, logged]

@[simp] theorem unlogged_wrote (transcript : Transcript) (text : String) :
    (transcript.wrote text).unlogged = transcript.unlogged.wrote text := by
  obtain ⟨events, faults, closed⟩ := transcript
  cases faults <;> rfl

@[simp] theorem unlogged_log (transcript : Transcript) (level : LogLevel) (message : String) :
    (transcript.log level message).unlogged = transcript.unlogged := by
  rw [log, unlogged_add]
  rfl

end Transcript

/-- A view that hides the log. -/
def Desk.View.withoutLog : Desk.View where
  transcript := Transcript.unlogged
  input := id
  attempt_transcript before := by
    obtain ⟨events, faults, closed⟩ := before
    cases faults <;> rfl
  transcript_transcript := Transcript.unlogged_unlogged
  transcript_add before event := by
    rw [Transcript.unlogged_add, Transcript.unlogged_add, Transcript.unlogged_unlogged]
  input_input _ := rfl
  input_inject _ _ := rfl

namespace Action

variable {α β : Type}

/-- What an action does to a desk, apart from what is logged. -/
def apparent (action : Action α) (desk : Desk) : EStateM.Result Error Desk α :=
  match action desk with
  | .ok value after => .ok value after.unlogged
  | .error error after => .error error after.unlogged

/-- An action that does the same whatever has been logged before. -/
def Blind (action : Action α) : Prop := ∀ desk, action.apparent desk.unlogged = action.apparent desk

theorem Blind.of_overlooks {action : Action α} (overlooks : action.Overlooks .withoutLog) :
    action.Blind := overlooks

/-- Behind one action comes another one that does not look at the log. -/
theorem apparent_bind {first : Action α} {next : α → Action β} (blind : ∀ value, (next value).Blind)
    (desk : Desk) :
    (first >>= next : Action β).apparent desk =
      match first.apparent desk with
      | .ok value after => (next value).apparent after
      | .error error after => .error error after :=
  @seen_bind α β .withoutLog first next blind desk

theorem apparent_get {next : Desk → Action β} (desk : Desk) :
    (get >>= next : Action β).apparent desk = (next desk).apparent desk := rfl

namespace Blind

theorem pure {value : α} : (pure value : Action α).Blind := of_overlooks .pure

theorem ofExcept {result : Except Error α} : (ofExcept result).Blind := of_overlooks .ofExcept

theorem bind {first : Action α} {next : α → Action β} (begun : first.Blind)
    (continued : ∀ value, (next value).Blind) : (first >>= next : Action β).Blind :=
  of_overlooks (Overlooks.bind begun continued)

theorem inject (text : String) : (inject text).Blind := of_overlooks (.inject text)

end Blind

end Action

/-- A command that does the same whatever has been logged before, whatever surrounds it and whatever
it is given. -/
def Handler.Blind (handler : Handler) : Prop := ∀ around arguments, (handler around arguments).Blind

namespace Registry

/-- None of the built-in commands looks at the log. -/
theorem blind_builtin : builtin.Obeys fun _ handler => handler.Blind :=
  overlooks_builtin .withoutLog

end Registry

/-- What a command does with a line that it has recognised. -/
def Command.run (command : Command) (recognized : Recognized) (around : Surroundings) :
    Action Dispatched := do
  let arguments ← Action.ofExcept (command.arguments recognized.captures)
  let outcome ← command.handler around arguments
  pure (.handled outcome)

namespace Registry

/-- The command that a line invokes, and what that command does with the line. -/
def invoked? (registry : Registry) (line : String) :
    Option (Command × (Surroundings → Action Dispatched)) :=
  (registry.find? line).map fun (command, recognized) => (command, command.run recognized)

/-- What a line does, apart from what is logged, is what the command that it invokes does. -/
theorem apparent_dispatch {registry : Registry}
    (blind : registry.Obeys fun _ handler => handler.Blind) (around : Surroundings) (line : String)
    (desk : Desk) :
    (registry.dispatch around line).apparent desk =
      match registry.invoked? line with
      | none => .ok .noCommand desk.unlogged
      | some (_, run) => (run around).apparent desk := by
  unfold dispatch invoked?
  cases found : registry.find? line with
  | none => rfl
  | some invoked =>
      obtain ⟨command, recognized⟩ := invoked
      have runs : (command.run recognized around).Blind := by
        apply Action.Blind.ofExcept.bind
        intro arguments
        apply (blind command (mem_of_find?_eq_some found) around arguments).bind
        intro outcome
        exact .pure
      have logged (message : String) :
          (Action.log message).apparent desk = .ok () desk.unlogged := by
        simp [Action.apparent, Action.log, modify, modifyGet, MonadStateOf.modifyGet,
          EStateM.modifyGet, Desk.unlogged]
      change (Action.log _ >>= fun _ => command.run recognized around).apparent desk = _
      rw [Action.apparent_bind fun _ => runs, logged]
      exact runs desk

/-- Lines with which every command does the same are lines with which a registry does the same. -/
theorem invoked?_congr {registry : Registry} {line other : String}
    (same : ∀ command ∈ registry.commands,
      (command.matcher.recognize? line).map command.run =
        (command.matcher.recognize? other).map command.run) :
    registry.invoked? line = registry.invoked? other := by
  unfold invoked? find?
  generalize registry.commands = commands at same
  induction commands with
  | nil => rfl
  | cons command commands ih =>
      rw [List.forall_mem_cons] at same
      rw [List.findSome?_cons, List.findSome?_cons]
      cases first : command.matcher.recognize? line with
      | none =>
          cases second : command.matcher.recognize? other with
          | none => exact ih same.2
          | some recognized => simp [first, second] at same
      | some recognized =>
          cases second : command.matcher.recognize? other with
          | none => simp [first, second] at same
          | some recognizedToo =>
              rw [first, second, Option.map_some, Option.map_some, Option.some_inj] at same
              simp [same.1]

end Registry

end Console
