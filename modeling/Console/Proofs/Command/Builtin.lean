import Console.Command.Builtin
import Console.Proofs.Buffer
import Console.Proofs.Command.Action

/-!
# What the built-in commands do

Few of the built-in commands touch the expression buffer, and those that do change it only where
they succeed and the session goes on.  All of them leave sessions only towards a depth that is
there, and add nothing but plain events to the transcript.  The laws are stated for one handler
first, and then for whatever command a line is dispatched to.
-/

namespace Console

/-- What holds after a command has succeeded; `edits` says whether it may change the expression
buffer. -/
structure Handled (edits : Prop) (around : Surroundings) (before : Desk) (outcome : Outcome)
    (after : Desk) : Prop where
  quiet : before.transcript.Quiet after.transcript
  buffer : outcome ≠ .next ∨ ¬edits → after.buffer = before.buffer
  terminated : before.buffer.Terminated → after.buffer.Terminated
  depth : ∀ depth, outcome = .breakout depth → depth ≤ around.sessions.level

/-- What holds after a command has failed.  One that may change the expression buffer can have done
so if it has then failed to write. -/
structure Refused (edits : Prop) (before after : Desk) : Prop where
  quiet : before.transcript.Quiet after.transcript
  buffer : before.transcript.Open ∨ ¬edits → after.buffer = before.buffer

/-- An action that does to the desk only what `Handled` and `Refused` say. -/
def Action.Orderly (edits : Prop) (around : Surroundings) (action : Action Outcome) : Prop :=
  ∀ desk, action.Ensures desk (Handled edits around desk) fun _ after => Refused edits desk after

/-- A command that is orderly whatever surrounds it and whatever it is given. -/
def Handler.Orderly (edits : Prop) (handler : Handler) : Prop :=
  ∀ around arguments, (handler around arguments).Orderly edits around

namespace Handled

variable {edits : Prop} {around : Surroundings} {before middle after : Desk} {outcome : Outcome}

theorem of_beside (kept : Desk.Frame.beside.Holds before after)
    (bounded : ∀ depth, outcome = .breakout depth → depth ≤ around.sessions.level) :
    Handled edits around before outcome after where
  quiet := kept.1
  buffer _ := kept.2
  terminated := by rw [kept.2]; exact id
  depth := bounded

/-- What was kept before a command goes on to hold after it. -/
theorem after_beside (kept : Desk.Frame.beside.Holds before middle)
    (handled : Handled edits around middle outcome after) :
    Handled edits around before outcome after where
  quiet := kept.1.trans handled.quiet
  buffer spared := (handled.buffer spared).trans kept.2
  terminated wasTerminated := handled.terminated (by rwa [kept.2])
  depth := handled.depth

end Handled

namespace Refused

variable {edits : Prop} {before middle after : Desk}

theorem of_beside (kept : Desk.Frame.beside.Holds before after) : Refused edits before after where
  quiet := kept.1
  buffer _ := kept.2

theorem after_beside (kept : Desk.Frame.beside.Holds before middle)
    (refused : Refused edits middle after) : Refused edits before after where
  quiet := kept.1.trans refused.quiet
  buffer spared := (refused.buffer (spared.imp_left kept.1.isOpen)).trans kept.2

end Refused

namespace Action

variable {α : Type} {edits : Prop} {around : Surroundings}

/-- An action goes on in an orderly way after one that leaves the buffer alone. -/
theorem Keeps.then {first : Action α} {next : α → Action Outcome} {good : α → Prop}
    (kept : first.Keeps .beside good)
    (orderly : ∀ value, good value → (next value).Orderly edits around) :
    (first >>= next : Action Outcome).Orderly edits around := by
  intro desk
  apply Ensures.bind
  refine (kept desk).mono ?_ fun _ _ => .of_beside
  intro value middle ⟨isGood, holds⟩
  exact (orderly value isGood middle).mono (fun _ _ => .after_beside holds)
    fun _ _ => .after_beside holds

theorem Orderly.of_keeps {action : Action Outcome}
    (kept : action.Keeps .beside fun outcome =>
      ∀ depth, outcome = .breakout depth → depth ≤ around.sessions.level) :
    action.Orderly edits around := by
  intro desk
  refine (kept desk).mono ?_ fun _ _ => .of_beside
  intro outcome after ⟨bounded, holds⟩
  exact .of_beside holds bounded

theorem Orderly.pure {outcome : Outcome}
    (bounded : ∀ depth, outcome = .breakout depth → depth ≤ around.sessions.level) :
    (pure outcome : Action Outcome).Orderly edits around := .of_keeps (.pure bounded)

theorem Orderly.next : (Pure.pure .next : Action Outcome).Orderly edits around := .pure nofun

theorem Orderly.throw {error : Error} : (throw error : Action Outcome).Orderly edits around :=
  .of_keeps .throw

/-- The buffer is changed, and this is said. -/
theorem orderly_announce {buffer : Buffer} {text : String} {desk : Desk}
    (terminated : desk.buffer.Terminated → buffer.Terminated) :
    ((do changeBuffer fun _ => buffer; say text; pure .next) : Action Outcome).Ensures desk
      (Handled True around desk) fun _ after => Refused True desk after := by
  apply Ensures.bind
  change ((say text >>= fun _ => Pure.pure .next : Action Outcome).Ensures
    { desk with buffer } _ _)
  apply Ensures.bind
  have quiet := Transcript.Quiet.write desk.transcript (text ++ "\n")
  unfold Ensures say
  dsimp only
  cases written : desk.transcript.write (text ++ "\n") with
  | mk answer transcript =>
      rw [written] at quiet
      cases answer with
      | ok _ =>
          exact
            { quiet
              buffer := fun spared => by simp at spared
              terminated
              depth := nofun }
      | error cause =>
          refine { quiet, buffer := fun spared => ?_ }
          rcases spared with isOpen | spared
          · rw [Transcript.write_of_open isOpen] at written
            cases written
          · exact absurd trivial spared

end Action

/-! ## The handlers -/

theorem Handler.Orderly.mono {edits wider : Prop} {handler : Handler}
    (orderly : Orderly edits handler) (wide : edits → wider) : Orderly wider handler := by
  intro around arguments desk
  refine (orderly around arguments desk).mono ?_ ?_
  · intro outcome after handled
    exact
      { handled with
        buffer := fun spared => handled.buffer (spared.imp_right (mt wide)) }
  · intro _ after refused
    exact
      { refused with
        buffer := fun spared => refused.buffer (spared.imp_right (mt wide)) }

/-- A way out leads to a session that is there. -/
theorem SessionStack.le_level_of_breakoutTo {stack : SessionStack} {depth found : Nat}
    (out : stack.breakoutTo depth = .ok found) : found ≤ stack.level := by
  unfold breakoutTo level? at out
  split at out
  · cases out
  next level isLevel =>
    split at isLevel
    · cases isLevel
    · cases isLevel
      split at out
      next within =>
        cases out
        exact within
      · cases out

namespace Commands

open Console.Action Desk.Frame

theorem keeps_sayAside (text : String) : (say text).Keeps .beside :=
  (keeps_say text).mono beside_of_speaking

theorem keeps_readFlagsAside (spec : Flags.Spec) (arguments : List (Option String)) :
    (readFlags spec arguments).Keeps .beside :=
  (keeps_readFlags spec arguments).mono beside_of_speaking

theorem orderly_clearBuffer : Handler.Orderly True clearBuffer :=
  fun _ _ _ => orderly_announce fun _ => Buffer.terminated_empty

theorem orderly_showInput : Handler.Orderly False showInput := by
  intro around arguments
  unfold showInput
  apply Keeps.get.then
  intro desk _
  split
  · exact (keeps_sayAside _).then fun _ _ => .next
  · exact .next

theorem orderly_amendLine : Handler.Orderly True amendLine := by
  intro around arguments
  unfold amendLine
  apply Keeps.ofExcept.then
  intro range _
  split
  · exact .throw
  · intro desk
    apply Ensures.get
    split
    · exact Orderly.throw desk
    · exact (keeps_sayAside _).then (fun _ _ => .next) desk
    next amended =>
      exact orderly_announce fun terminated => terminated.amend amended

theorem keeps_playedText (around : Surroundings) (given : Flags.Given) :
    (playedText around given).Keeps .outward := by
  unfold playedText
  split
  · split
    · exact .pure trivial
    · exact .throw
  · exact keeps_readText _ _

theorem orderly_play : Handler.Orderly False play := by
  intro around arguments
  unfold play
  apply (keeps_readFlagsAside _ _).then
  intro given _
  split
  · exact .next
  · apply ((keeps_playedText _ _).mono beside_of_outward).then
    intro text _
    have injected : ∀ text, (do inject text; pure .next : Action Outcome).Orderly False around :=
      fun text => (keeps_inject text).then fun _ _ => .next
    split
    · apply (keeps_readRange _).then
      intro range _
      exact Keeps.ofExcept.then fun text _ => injected text
    · exact injected text

theorem keeps_editFile (argument : String) (given : Flags.Given) :
    (editFile argument given).Keeps .beside := by
  unfold editFile
  apply ((keeps_openEditor _ _).mono beside_of_outward).bind
  intro _ _
  split
  · exact ((keeps_readText _ _).mono beside_of_outward).bind fun text _ => keeps_inject text
  · exact .pure trivial

/-- An edit of the buffer changes it only where it succeeds, and then to a text whose last line is
ended. -/
theorem ensures_editInput (around : Surroundings) (given : Flags.Given) (desk : Desk) :
    (editInput around given).Ensures desk
      (fun _ after => desk.transcript.Quiet after.transcript ∧
        (after.buffer = desk.buffer ∨ ∃ text, after.buffer = .ofText text))
      fun _ after => beside.Holds desk after := by
  unfold editInput
  apply Ensures.get
  cases editedText around given desk with
  | error error => exact beside.refl desk
  | ok text =>
      refine Ensures.withScratch (fun _ _ _ => ⟨.refl desk.transcript, rfl⟩) fun _ _ => ?_
      apply Ensures.bind
      refine ((keeps_openEditor _ _).mono beside_of_outward _).mono ?_ fun _ _ kept => kept
      intro _ opened ⟨_, kept⟩
      split
      · apply Ensures.bind
        have reads := (keeps_readText .scratch .io).mono beside_of_outward
        refine (reads opened).mono ?_ fun _ _ keptOn => beside.trans kept keptOn
        intro edited read ⟨_, keptOn⟩
        exact ⟨kept.1.trans keptOn.1, .inr ⟨edited, rfl⟩⟩
      · exact ⟨kept.1, .inl kept.2⟩

theorem orderly_edit : Handler.Orderly True edit := by
  intro around arguments
  unfold edit
  apply (keeps_readFlagsAside _ _).then
  intro given _
  split
  · exact .next
  · split
    · exact (keeps_editFile _ _).then fun _ _ => .next
    · intro desk
      apply Ensures.bind
      refine (ensures_editInput _ _ desk).mono ?_ fun _ _ => .of_beside
      intro _ after ⟨quiet, change⟩
      exact
        { quiet
          buffer := fun spared => by simp at spared
          terminated := fun terminated => by
            rcases change with same | ⟨text, edited⟩
            · rwa [same]
            · rw [edited]
              exact Buffer.terminated_ofText text
          depth := nofun }

theorem keeps_replayLines (around : Surroundings) (text : String) :
    (replayLines around text).Keeps .beside := by
  unfold replayLines
  apply (keeps_readRange _).bind
  intro range _
  apply Keeps.get.bind
  intro desk _
  split
  · exact keeps_inject _
  · exact .throw

theorem keeps_shownSlice {frame : Desk.Frame} (past : HistorySlice) (given : Flags.Given) :
    (shownSlice past given).Keeps frame := by
  unfold shownSlice
  split
  · exact .pure trivial
  · exact .pure trivial
  · apply (keeps_readRange _).bind
    intro range _
    split
    · exact .pure trivial
    · exact .throw
  · exact .pure trivial

theorem keeps_showHistory (around : Surroundings) (given : Flags.Given) :
    (showHistory around given).Keeps .speaking := by
  have pattern : (grepPattern given).Keeps .speaking := by
    unfold grepPattern
    split
    · exact .pure trivial
    · split
      · exact .pure trivial
      · exact .throw
  unfold showHistory
  apply pattern.bind
  intro pattern _
  apply Keeps.get.bind
  intro desk _
  apply (keeps_shownSlice _ _).bind
  intro slice _
  dsimp only
  split
  · exact keeps_say _
  · exact .pure trivial

theorem orderly_hist : Handler.Orderly False hist := by
  intro around arguments
  unfold hist
  apply (keeps_readFlagsAside _ _).then
  intro given _
  split
  · exact .next
  · split
    · have cleared : (modify fun desk => { desk with history := desk.history.clear } :
          Action PUnit).Keeps .beside := Keeps.modify fun desk => ⟨.refl desk.transcript, rfl⟩
      apply cleared.then
      intro _ _
      exact (keeps_sayAside _).then fun _ _ => .next
    · split
      · exact (keeps_replayLines _ _).then fun _ _ => .next
      · exact ((keeps_showHistory _ _).mono beside_of_speaking).then fun _ _ => .next

theorem orderly_changeSession : Handler.Orderly False changeSession := by
  intro around arguments
  unfold changeSession
  have upwards : ∀ depth, (if around.sessions.level = 0 then Outcome.next else .breakout 1) =
      .breakout depth → depth ≤ around.sessions.level := by
    intro depth left
    split at left
    · cases left
    · cases left
      omega
  split
  · exact .pure upwards
  · split
    · exact .pure upwards
    · split
      · apply Orderly.pure
        intro depth left
        cases left
        exact Nat.le_refl _
      · exact .pure nofun

theorem orderly_nesting : Handler.Orderly False nesting :=
  fun _ _ => (keeps_sayAside _).then fun _ _ => .next

theorem orderly_jumpTo : Handler.Orderly False jumpTo := by
  intro around arguments
  unfold jumpTo
  split
  · exact .throw
  · split
    · exact .throw
    · split
      · exact .throw
      next depth found =>
        dsimp only
        split
        · exact (keeps_sayAside _).then fun _ _ => .next
        next elsewhere =>
          have atMost := SessionStack.le_level_of_breakoutTo found
          apply Orderly.pure
          intro target left
          cases left
          omega

theorem orderly_exit : Handler.Orderly False exit := by
  intro around arguments
  apply Orderly.pure
  intro depth left
  cases left
  exact Nat.le_refl _

theorem orderly_exitAll : Handler.Orderly False exitAll := by
  intro around arguments
  apply Orderly.pure
  intro depth left
  cases left
  exact Nat.zero_le _

theorem orderly_help : Handler.Orderly False help := by
  intro around arguments
  unfold help
  split
  · apply Keeps.ofExcept.then
    intro signature _
    exact (keeps_sayAside _).then fun _ _ => .next
  · exact (keeps_sayAside _).then fun _ _ => .next

theorem orderly_showCommand : Handler.Orderly False showCommand := by
  intro around arguments
  unfold showCommand
  split
  · exact .throw
  · apply Keeps.ofExcept.then
    intro signature _
    exact (keeps_sayAside _).then fun _ _ => .next

theorem keeps_showSources (around : Surroundings) (first : Option Nat) (names : List String) :
    (showSources around first names).Keeps .speaking := by
  induction names with
  | nil => exact .pure trivial
  | cons name names ih =>
      have shown : (showSource around first name).Keeps .speaking := by
        unfold showSource
        split
        · exact keeps_say _
        · exact (keeps_say _).bind fun _ _ => keeps_say _
      exact shown.bind fun _ _ => ih

theorem orderly_showMethod : Handler.Orderly False showMethod := by
  intro around arguments
  unfold showMethod
  apply (keeps_readFlagsAside _ _).then
  intro given _
  split
  · exact .next
  · exact ((keeps_showSources _ _ _).mono beside_of_speaking).then fun _ _ => .next

end Commands

end Console
