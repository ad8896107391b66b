import Console.Proofs.Command.Likeness

/-!
# What commands overlook

All built-in commands do the same on desks that are alike.  In particular, whoever looks at a desk
without seeing all that its transcript and its input hold sees a command do the same whatever is
hidden.  What may be hidden is told by a view; desks that look the same are alike.
-/

namespace Console

/-! ## The handlers -/

namespace Commands

open Console.Action

variable {likeness : Desk.Likeness}

theorem indifferent_saying (text : String) :
    (do say text; pure .next : Action Outcome).Indifferent likeness :=
  (Indifferent.say text).bind fun _ => .pure

theorem indifferent_clearBuffer : Handler.Indifferent likeness clearBuffer :=
  fun _ _ => (Indifferent.changeBuffer _).bind fun _ => indifferent_saying _

theorem indifferent_showInput : Handler.Indifferent likeness showInput := by
  intro around arguments
  apply Indifferent.get
  · intro desk
    rfl
  · intro desk
    split
    · exact indifferent_saying _
    · exact .pure

theorem blameless_readLineNumber (text : String) : Blameless (readLineNumber text) := by
  unfold readLineNumber
  split
  · exact .ok
  · exact .error nofun

theorem blameless_amendedRange (start stop : Option String) :
    Blameless (amendedRange start stop) := by
  unfold amendedRange
  split
  · exact .ok
  · exact (blameless_readLineNumber _).bind fun _ => .ok
  · exact (blameless_readLineNumber _).bind fun _ => (blameless_readLineNumber _).bind fun _ => .ok

theorem indifferent_amendLine : Handler.Indifferent likeness amendLine := by
  intro around arguments
  apply (Indifferent.ofExcept (blameless_amendedRange _ _)).bind
  intro range
  split
  · exact .throw nofun
  · apply Indifferent.get
    · intro desk
      rfl
    · intro desk
      split
      · exact .throw nofun
      · exact indifferent_saying _
      · exact (Indifferent.changeBuffer _).bind fun _ => indifferent_saying _

theorem blameless_linesInRange (base : IndexBase) (range : LineRange) (text : String) :
    Blameless (linesInRange base range text) := by
  unfold linesInRange
  dsimp only
  split
  · exact .ok
  · exact .error nofun

theorem indifferent_playedText (around : Surroundings) (given : Flags.Given) :
    (playedText around given).Indifferent likeness := by
  unfold playedText
  split
  · split
    · exact .pure
    · exact .throw nofun
  · exact .readText _ fun _ => nofun

theorem indifferent_play : Handler.Indifferent likeness play := by
  intro around arguments
  apply (Indifferent.readFlags _ _).bind
  intro given
  split
  · exact .pure
  · apply (indifferent_playedText _ _).bind
    intro text
    have injected (text : String) :
        (do inject text; pure .next : Action Outcome).Indifferent likeness :=
      (Indifferent.inject text).bind fun _ => .pure
    split
    · apply (Indifferent.readRange _).bind
      intro range
      exact (Indifferent.ofExcept (blameless_linesInRange _ _ _)).bind injected
    · exact injected text

theorem indifferent_editFile (argument : String) (given : Flags.Given) :
    (editFile argument given).Indifferent likeness := by
  apply (Indifferent.openEditor _ _).bind
  intro _
  split
  · exact (Indifferent.readText _ fun _ => by nofun).bind Indifferent.inject
  · exact .pure

theorem blameless_editedText (around : Surroundings) (given : Flags.Given) (desk : Desk) :
    Blameless (editedText around given desk) := by
  unfold editedText
  split
  · exact .ok
  · split
    · split
      · exact .ok
      · exact .error nofun
    · split
      · exact .ok
      · exact .ok

theorem indifferent_editInput (around : Surroundings) (given : Flags.Given) :
    (editInput around given).Indifferent likeness := by
  apply Indifferent.get
  · intro desk
    rfl
  · intro desk
    apply (Indifferent.ofExcept (blameless_editedText _ _ _)).bind
    intro text
    apply Indifferent.withScratch
    apply (Indifferent.openEditor _ _).bind
    intro _
    split
    · exact (Indifferent.readText _ fun _ => by nofun).bind fun _ => .changeBuffer _
    · exact .pure

theorem indifferent_edit : Handler.Indifferent likeness edit := by
  intro around arguments
  apply (Indifferent.readFlags _ _).bind
  intro given
  split
  · exact .pure
  · split
    · exact (indifferent_editFile _ _).bind fun _ => .pure
    · exact (indifferent_editInput _ _).bind fun _ => .pure

theorem indifferent_replayLines (around : Surroundings) (text : String) :
    (replayLines around text).Indifferent likeness := by
  apply (Indifferent.readRange _).bind
  intro range
  apply Indifferent.get
  · intro desk
    rfl
  · intro desk
    split
    · exact .inject _
    · exact .throw nofun

theorem indifferent_grepPattern (given : Flags.Given) :
    (grepPattern given).Indifferent likeness := by
  unfold grepPattern
  split
  · exact .pure
  · split
    · exact .pure
    · exact .throw nofun

theorem indifferent_shownSlice (past : HistorySlice) (given : Flags.Given) :
    (shownSlice past given).Indifferent likeness := by
  unfold shownSlice
  split
  · exact .pure
  · exact .pure
  · apply (Indifferent.readRange _).bind
    intro range
    split
    · exact .pure
    · exact .throw nofun
  · exact .pure

theorem indifferent_showHistory (around : Surroundings) (given : Flags.Given) :
    (showHistory around given).Indifferent likeness := by
  apply (indifferent_grepPattern _).bind
  intro pattern
  apply Indifferent.get
  · intro desk
    rfl
  · intro desk
    apply (indifferent_shownSlice _ _).bind
    intro slice
    dsimp only
    split
    · exact .say _
    · exact .pure

theorem indifferent_hist : Handler.Indifferent likeness hist := by
  intro around arguments
  apply (Indifferent.readFlags _ _).bind
  intro given
  split
  · exact .pure
  · split
    · have forgotten : (modify fun desk : Desk => { desk with history := desk.history.clear } :
          Action PUnit).Indifferent likeness :=
        .modify fun _ _ holds =>
          { transcript := holds.transcript
            input := holds.input
            saved := likeness.cleared
            sight := congrArg (fun sight : Desk => { sight with history := {} }) holds.sight }
      exact forgotten.bind fun _ => indifferent_saying _
    · split
      · exact (indifferent_replayLines _ _).bind fun _ => .pure
      · exact (indifferent_showHistory _ _).bind fun _ => .pure

theorem indifferent_changeSession : Handler.Indifferent likeness changeSession := by
  intro around arguments
  unfold changeSession
  repeat' split
  all_goals exact .pure

theorem indifferent_nesting : Handler.Indifferent likeness nesting :=
  fun _ _ => indifferent_saying _

theorem indifferent_jumpTo : Handler.Indifferent likeness jumpTo := by
  intro around arguments
  unfold jumpTo
  split
  · exact .throw nofun
  · split
    · exact .throw nofun
    · split
      · exact .throw nofun
      · dsimp only
        split
        · exact indifferent_saying _
        · exact .pure

theorem indifferent_exit : Handler.Indifferent likeness exit := fun _ _ => .pure

theorem indifferent_exitAll : Handler.Indifferent likeness exitAll := fun _ _ => .pure

theorem blameless_lookup (catalogue : Catalogue) (name : String) :
    Blameless (catalogue.lookup name) := by
  unfold Catalogue.lookup
  split
  · exact .ok
  · split
    · exact .ok
    · exact .error nofun

theorem indifferent_help : Handler.Indifferent likeness help := by
  intro around arguments
  unfold help
  split
  · exact (Indifferent.ofExcept (blameless_lookup _ _)).bind fun _ => indifferent_saying _
  · exact indifferent_saying _

theorem indifferent_showCommand : Handler.Indifferent likeness showCommand := by
  intro around arguments
  unfold showCommand
  split
  · exact .throw nofun
  · exact (Indifferent.ofExcept (blameless_lookup _ _)).bind fun _ => indifferent_saying _

theorem indifferent_showSources (around : Surroundings) (first : Option Nat) (names : List String) :
    (showSources around first names).Indifferent likeness := by
  induction names with
  | nil => exact .pure
  | cons name names ih =>
      have shown : (showSource around first name).Indifferent likeness := by
        unfold showSource
        split
        · exact .say _
        · exact (Indifferent.say _).bind fun _ => .say _
      exact shown.bind fun _ => ih

theorem indifferent_showMethod : Handler.Indifferent likeness showMethod := by
  intro around arguments
  apply (Indifferent.readFlags _ _).bind
  intro given
  split
  · exact .pure
  · exact (indifferent_showSources _ _ _).bind fun _ => .pure

end Commands

namespace Registry

/-- The built-in commands do the same on desks that are alike. -/
theorem indifferent_builtin (likeness : Desk.Likeness) :
    builtin.Obeys fun _ handler => handler.Indifferent likeness :=
  obeys_builtin
    { clearBuffer := Commands.indifferent_clearBuffer
      showInput := Commands.indifferent_showInput
      amendLine := Commands.indifferent_amendLine
      play := Commands.indifferent_play
      edit := Commands.indifferent_edit
      hist := Commands.indifferent_hist
      changeSession := Commands.indifferent_changeSession
      nesting := Commands.indifferent_nesting
      jumpTo := Commands.indifferent_jumpTo
      exit := Commands.indifferent_exit
      exitAll := Commands.indifferent_exitAll
      showMethod := Commands.indifferent_showMethod
      help := Commands.indifferent_help
      showCommand := Commands.indifferent_showCommand
      amendAlias := fun _ overlooks => overlooks
      exitAlias := fun _ overlooks => overlooks
      sourceAlias := fun _ overlooks => ⟨overlooks, overlooks⟩ }

theorem blameless_arguments (signature : Signature) (captures : List (Option String)) :
    Blameless (signature.arguments captures) := by
  unfold Signature.arguments
  split
  · split
    · exact .ok
    · split
      · exact .ok
      · exact .error nofun
  · exact .ok

/-- A line does the same to desks that are alike. -/
theorem indifferent_dispatch {registry : Registry} {likeness : Desk.Likeness}
    (obeys : registry.Obeys fun _ handler => handler.Indifferent likeness) (around : Surroundings)
    (line : String) : (registry.dispatch around line).Indifferent likeness := by
  unfold dispatch
  cases found : registry.find? line with
  | none => exact .pure
  | some invoked =>
      obtain ⟨command, recognized⟩ := invoked
      have dispatching : (Event.logged .debug ("dispatching `" ++ line ++ "` to " ++
          recognized.name)).blamesHistoryFile = false :=
        Event.blamesHistoryFile_logged (by simp)
      apply (Action.Indifferent.log dispatching).bind
      intro _
      apply (Action.Indifferent.ofExcept (blameless_arguments _ _)).bind
      intro arguments
      apply (obeys command (mem_of_find?_eq_some found) around arguments).bind
      intro outcome
      exact .pure

end Registry

/-! ## Desks that look the same -/

/-- A way to look at a desk that may hide some of what its transcript and its input hold.  What is
hidden makes no difference to what shows once something is added. -/
structure Desk.View where
  transcript : Transcript → Transcript
  input : InputChain → InputChain
  attempt_transcript (before : Transcript) :
    (transcript before).attempt = (before.attempt.1, transcript before.attempt.2)
  transcript_transcript (before : Transcript) : transcript (transcript before) = transcript before
  transcript_add (before : Transcript) (event : Event) :
    transcript ((transcript before).add event) = transcript (before.add event)
  input_input (before : InputChain) : input (input before) = input before
  input_inject (before : InputChain) (text : String) :
    input ((input before).inject text) = input (before.inject text)

namespace Desk.View

variable (view : View)

/-- What shows of a desk. -/
def of (desk : Desk) : Desk :=
  { desk with transcript := view.transcript desk.transcript, input := view.input desk.input }

theorem of_of (desk : Desk) : view.of (view.of desk) = view.of desk := by
  simp only [of, view.transcript_transcript, view.input_input]

/-- Desks are alike if they look the same. -/
def likeness : Desk.Likeness where
  transcript before other := view.transcript before = view.transcript other
  input before other := view.input before = view.input other
  saved := Eq
  allows _ := True
  attempt same := by
    have attempted := congrArg Transcript.attempt same
    rw [view.attempt_transcript, view.attempt_transcript, Prod.mk.injEq] at attempted
    exact ⟨attempted.1.symm, attempted.2⟩
  add same _ := by rw [← view.transcript_add, same, view.transcript_add]
  inject text same := by rw [← view.input_inject, same, view.input_inject]
  cleared := rfl
  allows_of_blameless _ := trivial

theorem holds_iff {desk other : Desk} :
    view.likeness.Holds desk other ↔ view.of desk = view.of other := by
  constructor
  · intro holds
    obtain ⟨transcript, input, saved, rfl, told, fed, rfl⟩ := holds.exists_eq
    unfold of
    rw [show view.transcript desk.transcript = view.transcript transcript from told,
      show view.input desk.input = view.input input from fed]
  · intro same
    exact
      { transcript := (congrArg Desk.transcript same :)
        input := (congrArg Desk.input same :)
        saved := (congrArg (fun desk : Desk => desk.history.saved) same :)
        sight := (congrArg Desk.sight same.symm :) }

end Desk.View

namespace Action

variable {α β : Type} {view : Desk.View}

/-- What shows of what an action does to a desk. -/
def seen (view : Desk.View) (action : Action α) (desk : Desk) : EStateM.Result Error Desk α :=
  match action desk with
  | .ok value after => .ok value (view.of after)
  | .error error after => .error error (view.of after)

/-- An action that is seen to do the same whatever is hidden. -/
def Overlooks (view : Desk.View) (action : Action α) : Prop :=
  ∀ desk, action.seen view (view.of desk) = action.seen view desk

/-- Behind one action comes another one that does not look at what is hidden. -/
theorem seen_bind {first : Action α} {next : α → Action β}
    (overlooks : ∀ value, (next value).Overlooks view) (desk : Desk) :
    (first >>= next : Action β).seen view desk =
      match first.seen view desk with
      | .ok value after => (next value).seen view after
      | .error error after => .error error after := by
  have unfolded : (first >>= next : Action β) desk = EStateM.bind first next desk := rfl
  rw [seen, unfolded, EStateM.bind, seen]
  cases first desk with
  | ok value after => exact (overlooks value after).symm
  | error error after => rfl

/-- Nothing of what is hidden shows in what an action does just if it does the same on desks that
look the same. -/
theorem overlooks_iff {action : Action α} :
    action.Overlooks view ↔ action.Indifferent view.likeness := by
  constructor
  · intro overlooks desk other holds
    have seen : action.seen view desk = action.seen view other := by
      rw [← overlooks desk, view.holds_iff.mp holds, overlooks other]
    unfold Action.seen at seen
    generalize action desk = result at seen ⊢
    generalize action other = resultToo at seen ⊢
    cases result with
    | ok value after =>
        cases resultToo with
        | ok valueToo afterToo =>
            injection seen with sameValue sameAfter
            subst sameValue
            exact .ok value (view.holds_iff.mpr sameAfter)
        | error => cases seen
    | error error after =>
        cases resultToo with
        | ok => cases seen
        | error errorToo afterToo =>
            injection seen with sameError sameAfter
            subst sameError
            exact .error error trivial (view.holds_iff.mpr sameAfter)
  · intro indifferent desk
    have agree := indifferent _ _ (view.holds_iff.mpr (view.of_of desk))
    unfold Action.seen
    generalize action (view.of desk) = result at agree ⊢
    generalize action desk = resultToo at agree ⊢
    cases agree with
    | ok value holds => exact congrArg _ (view.holds_iff.mp holds)
    | error error allowed holds => exact congrArg _ (view.holds_iff.mp holds)

namespace Overlooks

theorem pure {value : α} : (pure value : Action α).Overlooks view := by
  intro desk
  change EStateM.Result.ok value (view.of (view.of desk)) = .ok value (view.of desk)
  rw [view.of_of]

theorem throw {error : Error} : (throw error : Action α).Overlooks view := by
  intro desk
  change EStateM.Result.error error (view.of (view.of desk)) = .error error (view.of desk)
  rw [view.of_of]

theorem ofExcept {result : Except Error α} : (ofExcept result).Overlooks view := by
  cases result with
  | ok value => exact pure
  | error error => exact throw

theorem bind {first : Action α} {next : α → Action β} (begun : first.Overlooks view)
    (continued : ∀ value, (next value).Overlooks view) :
    (first >>= next : Action β).Overlooks view := by
  intro desk
  rw [seen_bind continued, seen_bind continued, begun desk]

theorem inject (text : String) : (inject text).Overlooks view := overlooks_iff.mpr (.inject text)

end Overlooks

end Action

/-- A command that is seen to do the same whatever is hidden, whatever surrounds it and whatever it
is given. -/
def Handler.Overlooks (view : Desk.View) (handler : Handler) : Prop :=
  ∀ around arguments, (handler around arguments).Overlooks view

theorem Handler.overlooks_iff {view : Desk.View} {handler : Handler} :
    handler.Overlooks view ↔ handler.Indifferent view.likeness :=
  forall_congr' fun _ => forall_congr' fun _ => Action.overlooks_iff

theorem Commands.overlooks_exit {view : Desk.View} : Handler.Overlooks view exit :=
  Handler.overlooks_iff.mpr indifferent_exit

/-- The built-in commands overlook whatever is hidden. -/
theorem Registry.overlooks_builtin (view : Desk.View) :
    builtin.Obeys fun _ handler => handler.Overlooks view :=
  fun command member => Handler.overlooks_iff.mpr (indifferent_builtin view.likeness command member)

end Console
