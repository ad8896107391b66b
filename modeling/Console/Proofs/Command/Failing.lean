import Console.Proofs.Command.Recalling

/-!
# What a command that fails leaves alone

Commands do what can fail before they change anything: they read their options, ranges, patterns and
files and leave the editor first.  What follows does not fail as long as the output is open.  So a
command that fails has changed nothing but the transcript and, by way of the editor, files.
-/

namespace Console

/-- The expression buffer, the history and the input are as they were. -/
structure Desk.Unchanged (before after : Desk) : Prop where
  buffer : after.buffer = before.buffer
  history : after.history = before.history
  input : after.input = before.input

namespace Action

open Desk.Frame

variable {α β : Type}

/-- An action that changes nothing if it fails, as long as the output is open. -/
def Cautious (action : Action α) : Prop :=
  ∀ desk, desk.transcript.Open →
    action.Ensures desk (fun _ _ => True) fun _ after => outward.Holds desk after

/-- An action that does not fail as long as the output is open. -/
def Sure (action : Action α) : Prop :=
  ∀ desk, desk.transcript.Open →
    action.Ensures desk (fun _ after => after.transcript.Open) fun _ _ => False

namespace Sure

theorem pure (value : α) : (pure value : Action α).Sure := fun _ isOpen => isOpen

theorem modify {change : Desk → Desk}
    (same : ∀ desk, (change desk).transcript = desk.transcript) :
    (modify change : Action PUnit).Sure := by
  intro desk isOpen
  change (change desk).transcript.Open
  rwa [same]

theorem say (text : String) : (say text).Sure := by
  intro desk isOpen
  unfold Ensures
  rw [say_of_open isOpen]
  exact (desk.transcript.extends_wrote _).isOpen isOpen

theorem inject (text : String) : (inject text).Sure := modify fun _ => rfl

theorem changeBuffer (change : Buffer → Buffer) : (changeBuffer change).Sure := modify fun _ => rfl

theorem bind {first : Action α} {next : α → Action β} (begun : first.Sure)
    (continued : ∀ value, (next value).Sure) : (first >>= next : Action β).Sure := by
  intro desk isOpen
  apply Ensures.bind
  exact (begun desk isOpen).mono (fun value middle stillOpen => continued value middle stillOpen)
    fun _ _ => id

end Sure

namespace Cautious

theorem of_sure {action : Action α} (sure : action.Sure) : action.Cautious :=
  fun desk isOpen => (sure desk isOpen).mono (fun _ _ _ => trivial) fun _ _ => False.elim

theorem of_keeps {action : Action α} (kept : action.Keeps .outward) : action.Cautious :=
  fun desk _ => (kept desk).mono (fun _ _ _ => trivial) fun _ _ => id

theorem throw {error : Error} : (throw error : Action α).Cautious := of_keeps .throw

/-- What follows an action that changes nothing has to be cautious itself. -/
theorem after_keeps {first : Action α} {next : α → Action β} (kept : first.Keeps .outward)
    (cautious : ∀ value, (next value).Cautious) : (first >>= next : Action β).Cautious := by
  intro desk isOpen
  apply Ensures.bind
  refine (kept desk).mono ?_ fun _ _ => id
  intro value middle ⟨_, spared⟩
  refine (cautious value middle (spared.1.isOpen isOpen)).mono (fun _ _ => id) ?_
  exact fun _ _ sparedOn => outward.trans spared sparedOn

/-- Once a command is done, the session goes on. -/
theorem next {action : Action Unit} (cautious : action.Cautious) :
    (do action; Pure.pure .next : Action Outcome).Cautious := by
  intro desk isOpen
  apply Ensures.bind
  exact (cautious desk isOpen).mono (fun _ _ _ => trivial) fun _ _ => id

theorem withScratch {content : Utf8.Bytes} {action : Action α} (cautious : action.Cautious) :
    (withScratch content action).Cautious := by
  intro desk isOpen
  refine Ensures.withScratch (fun _ _ _ => outward.refl desk) fun _ _ => ?_
  exact cautious _ isOpen

end Cautious

end Action

/-- A command that changes nothing if it fails while the output is open. -/
def Handler.Cautious (handler : Handler) : Prop :=
  ∀ around arguments desk, desk.transcript.Open →
    (handler around arguments).Ensures desk (fun _ _ => True) fun _ after => desk.Unchanged after

namespace Handler.Cautious

theorem of_action {handler : Handler}
    (cautious : ∀ around arguments, (handler around arguments).Cautious) : handler.Cautious := by
  intro around arguments desk isOpen
  refine (cautious around arguments desk isOpen).mono (fun _ _ => id) ?_
  exact fun _ after ⟨_, buffer, history, input⟩ => ⟨buffer, history, input⟩

/-- Most commands never change the history or the input, and an orderly one spares the buffer. -/
theorem of_aloof {handler : Handler} {edits : Prop} (kept : handler.Keeps .aloof)
    (orderly : handler.Orderly edits) : handler.Cautious := by
  intro around arguments desk isOpen
  have spared := kept around arguments desk
  have ordered := orderly around arguments desk
  unfold Action.Ensures at *
  split
  next => trivial
  next failed =>
    rw [failed] at spared ordered
    exact ⟨ordered.buffer (.inl isOpen), congrArg Holdings.history spared,
      congrArg Holdings.input spared⟩

end Handler.Cautious

namespace Commands

open Console.Action

theorem outward_readFlags (spec : Flags.Spec) (arguments : List (Option String)) :
    (readFlags spec arguments).Keeps .outward :=
  (keeps_readFlags spec arguments).mono Desk.Frame.outward_of_speaking

theorem cautious_play : Handler.Cautious play := by
  apply Handler.Cautious.of_action
  intro around arguments
  have injected (text : String) : (do inject text; pure .next : Action Outcome).Cautious :=
    (Cautious.of_sure (.inject text)).next
  unfold play
  apply Cautious.after_keeps (outward_readFlags _ _)
  intro given
  split
  · exact .of_sure (.pure _)
  · apply Cautious.after_keeps (keeps_playedText _ _)
    intro text
    split
    · apply Cautious.after_keeps (keeps_readRange _)
      intro range
      exact Cautious.after_keeps .ofExcept injected
    · exact injected text

theorem cautious_editFile (argument : String) (given : Flags.Given) :
    (editFile argument given).Cautious := by
  unfold editFile
  apply Cautious.after_keeps (keeps_openEditor _ _)
  intro _
  split
  · exact Cautious.after_keeps (keeps_readText _ _) fun text => .of_sure (.inject text)
  · exact .of_sure (.pure _)

theorem cautious_editInput (around : Surroundings) (given : Flags.Given) :
    (editInput around given).Cautious := by
  unfold editInput
  apply Cautious.after_keeps .get
  intro desk
  apply Cautious.after_keeps .ofExcept
  intro text
  apply Cautious.withScratch
  apply Cautious.after_keeps (keeps_openEditor _ _)
  intro _
  split
  · exact Cautious.after_keeps (keeps_readText _ _) fun text => .of_sure (.changeBuffer _)
  · exact .of_sure (.pure _)

theorem cautious_edit : Handler.Cautious edit := by
  apply Handler.Cautious.of_action
  intro around arguments
  unfold edit
  apply Cautious.after_keeps (outward_readFlags _ _)
  intro given
  split
  · exact .of_sure (.pure _)
  · split
    · exact (cautious_editFile _ _).next
    · exact (cautious_editInput _ _).next

theorem cautious_replayLines (around : Surroundings) (text : String) :
    (replayLines around text).Cautious := by
  unfold replayLines
  apply Cautious.after_keeps (keeps_readRange _)
  intro range
  apply Cautious.after_keeps .get
  intro desk
  split
  · exact .of_sure (.inject _)
  · exact .throw

theorem cautious_hist : Handler.Cautious hist := by
  apply Handler.Cautious.of_action
  intro around arguments
  unfold hist
  apply Cautious.after_keeps (outward_readFlags _ _)
  intro given
  split
  · exact .of_sure (.pure _)
  · split
    · have forgotten : (modify fun desk => { desk with history := desk.history.clear } :
          Action PUnit).Sure := .modify fun _ => rfl
      apply Cautious.of_sure
      exact forgotten.bind fun _ => (Sure.say _).bind fun _ => .pure _
    · split
      · exact (cautious_replayLines _ _).next
      · have shown := (keeps_showHistory around ‹_›).mono Desk.Frame.outward_of_speaking
        exact (Cautious.of_keeps shown).next

end Commands

namespace Registry

theorem cautious_builtin : builtin.Obeys fun _ handler => handler.Cautious := by
  have obey : BuiltinObey fun _ handler => handler.Cautious :=
    { clearBuffer := .of_aloof Commands.aloof_clearBuffer Commands.orderly_clearBuffer
      showInput := .of_aloof Commands.aloof_showInput Commands.orderly_showInput
      amendLine := .of_aloof Commands.aloof_amendLine Commands.orderly_amendLine
      play := Commands.cautious_play
      edit := Commands.cautious_edit
      hist := Commands.cautious_hist
      changeSession := .of_aloof Commands.aloof_changeSession Commands.orderly_changeSession
      nesting := .of_aloof Commands.aloof_nesting Commands.orderly_nesting
      jumpTo := .of_aloof Commands.aloof_jumpTo Commands.orderly_jumpTo
      exit := .of_aloof Commands.aloof_exit Commands.orderly_exit
      exitAll := .of_aloof Commands.aloof_exitAll Commands.orderly_exitAll
      showMethod := .of_aloof Commands.aloof_showMethod Commands.orderly_showMethod
      help := .of_aloof Commands.aloof_help Commands.orderly_help
      showCommand := .of_aloof Commands.aloof_showCommand Commands.orderly_showCommand
      amendAlias := fun _ cautious => cautious
      exitAlias := fun _ cautious => cautious
      sourceAlias := fun _ cautious => ⟨cautious, cautious⟩ }
  exact obeys_builtin obey

variable {registry : Registry} {line : String} {command known : Command} {recognized : Recognized}

/-- A built-in command that fails leaves the desk as it was before its line was dispatched. -/
theorem ensures_dispatch_builtin (found : registry.find? line = some (command, recognized))
    (member : known ∈ builtin.commands) (same : command.handler = known.handler)
    (around : Surroundings) {desk : Desk} (isOpen : desk.transcript.Open) :
    (registry.dispatch around line).Ensures desk (fun _ _ => True)
      fun _ after => desk.Unchanged after := by
  unfold dispatch
  rw [found]
  apply Action.Ensures.bind
  apply Action.Ensures.bind
  cases command.arguments recognized.captures with
  | error error => exact ⟨rfl, rfl, rfl⟩
  | ok arguments =>
      apply Action.Ensures.pure
      apply Action.Ensures.bind
      rw [same]
      refine (cautious_builtin known member around arguments _ ?_).mono (fun _ _ => id) ?_
      · exact (Transcript.Extends.add _ _).isOpen isOpen
      · exact fun _ after unchanged => ⟨unchanged.buffer, unchanged.history, unchanged.input⟩

end Registry

end Console
