import Console.Proofs.Command.Dispatch
import Console.Proofs.Input
import Console.Proofs.Storage

/-!
# What the built-in commands recall and bring in

Beside what it says and the expression buffer, a command may change the history, the input and the
files.  Only `hist` changes the history, by forgetting it, and it puts into the input only lines of
the history.  Only `play` and `edit` put other lines into the input and have to do with files, and
all that they write is what the editor writes.  All other commands leave these things alone.
-/

namespace Console

/-- Opened on a location, an editor leaves the file that a path leads to as it is. -/
def Editor.Spares (editor : Editor) (location : Location) (path : String) (names : List String)
    (file : Option Utf8.Bytes) : Prop :=
  ∀ count line storage, storage.Provides path names file →
    (editor.edit count location line storage).storage.Provides path names file

/-- What is on a desk beside what is said and what is being entered. -/
structure Holdings where
  history : History
  input : InputChain
  storage : Storage
  editor : Editor
  openings : List Opening

namespace Desk

def holdings (desk : Desk) : Holdings :=
  ⟨desk.history, desk.input, desk.storage, desk.editor, desk.openings⟩

/-- The editor is the same, and so is a file that it has spared whenever it was opened. -/
structure Reaches (before after : Desk) : Prop where
  editor : after.editor = before.editor
  openings : before.openings ⊆ after.openings
  storage : ∀ {path names file},
    (∀ opening ∈ after.openings, before.editor.Spares opening.location path names file) →
      before.storage.Provides path names file → after.storage.Provides path names file

namespace Reaches

theorem of_holdings {before after : Desk} (same : after.holdings = before.holdings) :
    before.Reaches after := by
  rw [holdings, holdings, Holdings.mk.injEq] at same
  obtain ⟨_, _, storage, editor, openings⟩ := same
  exact
    { editor
      openings := by rw [openings]; exact List.Subset.refl _
      storage := fun _ provides => by rwa [storage] }

theorem refl (desk : Desk) : desk.Reaches desk := of_holdings rfl

theorem trans {first second third : Desk} (begun : first.Reaches second)
    (continued : second.Reaches third) : first.Reaches third where
  editor := continued.editor.trans begun.editor
  openings := List.Subset.trans begun.openings continued.openings
  storage spared provides := by
    refine continued.storage ?_ (begun.storage ?_ provides)
    · rwa [begun.editor]
    · exact fun opening member => spared opening (continued.openings member)

end Reaches

namespace Frame

/-- Only the transcript and the expression buffer are changed. -/
def aloof : Desk.Frame where
  Holds before after := after.holdings = before.holdings
  refl _ := rfl
  trans begun continued := continued.trans begun

/-- The history and the base source are left alone, and files are changed by the editor only. -/
def bringing : Desk.Frame where
  Holds before after :=
    before.Reaches after ∧ after.history = before.history ∧ after.input.base = before.input.base
  refl desk := ⟨.refl desk, rfl, rfl⟩
  trans begun continued :=
    ⟨begun.1.trans continued.1, continued.2.1.trans begun.2.1, continued.2.2.trans begun.2.2⟩

theorem aloof_of_speaking {before after : Desk} (kept : speaking.Holds before after) :
    aloof.Holds before after := by
  change after.holdings = before.holdings
  rw [kept.2]
  rfl

theorem bringing_of_aloof {before after : Desk} (kept : aloof.Holds before after) :
    bringing.Holds before after :=
  ⟨.of_holdings kept, congrArg Holdings.history kept, congrArg (·.input.base) kept⟩

end Frame

end Desk

/-- A command that keeps a frame whatever surrounds it and whatever it is given. -/
def Handler.Keeps (frame : Desk.Frame) (handler : Handler) : Prop :=
  ∀ around arguments, (handler around arguments).Keeps frame

namespace Commands

open Console.Action Desk.Frame

/-! ## Commands that stand aloof -/

theorem aloof_say (text : String) : (say text).Keeps .aloof :=
  (keeps_say text).mono aloof_of_speaking

theorem aloof_readFlags (spec : Flags.Spec) (arguments : List (Option String)) :
    (readFlags spec arguments).Keeps .aloof :=
  (keeps_readFlags spec arguments).mono aloof_of_speaking

theorem aloof_changeBuffer (change : Buffer → Buffer) : (changeBuffer change).Keeps .aloof :=
  Keeps.modify fun _ => rfl

/-- Something is said, and the session goes on. -/
theorem aloof_sayNext (text : String) :
    (do say text; pure .next : Action Outcome).Keeps .aloof :=
  (aloof_say text).bind fun _ _ => .pure trivial

theorem aloof_clearBuffer : Handler.Keeps .aloof clearBuffer :=
  fun _ _ => (aloof_changeBuffer _).bind fun _ _ => aloof_sayNext _

theorem aloof_showInput : Handler.Keeps .aloof showInput := by
  intro around arguments
  unfold showInput
  apply Keeps.get.bind
  intro desk _
  split
  · exact aloof_sayNext _
  · exact .pure trivial

theorem aloof_amendLine : Handler.Keeps .aloof amendLine := by
  intro around arguments
  unfold amendLine
  apply Keeps.ofExcept.bind
  intro range _
  split
  · exact .throw
  · apply Keeps.get.bind
    intro desk _
    split
    · exact .throw
    · exact aloof_sayNext _
    · exact (aloof_changeBuffer _).bind fun _ _ => aloof_sayNext _

theorem aloof_changeSession : Handler.Keeps .aloof changeSession := by
  intro around arguments
  unfold changeSession
  dsimp only
  split
  · exact .pure trivial
  · split
    · exact .pure trivial
    · split <;> exact .pure trivial

theorem aloof_nesting : Handler.Keeps .aloof nesting := fun _ _ => aloof_sayNext _

theorem aloof_jumpTo : Handler.Keeps .aloof jumpTo := by
  intro around arguments
  unfold jumpTo
  split
  · exact .throw
  · split
    · exact .throw
    · split
      · exact .throw
      · dsimp only
        split
        · exact aloof_sayNext _
        · exact .pure trivial

theorem aloof_exit : Handler.Keeps .aloof exit := fun _ _ => .pure trivial

theorem aloof_exitAll : Handler.Keeps .aloof exitAll := fun _ _ => .pure trivial

theorem aloof_help : Handler.Keeps .aloof help := by
  intro around arguments
  unfold help
  split
  · exact Keeps.ofExcept.bind fun _ _ => aloof_sayNext _
  · exact aloof_sayNext _

theorem aloof_showCommand : Handler.Keeps .aloof showCommand := by
  intro around arguments
  unfold showCommand
  split
  · exact .throw
  · exact Keeps.ofExcept.bind fun _ _ => aloof_sayNext _

theorem aloof_showMethod : Handler.Keeps .aloof showMethod := by
  intro around arguments
  unfold showMethod
  apply (aloof_readFlags _ _).bind
  intro given _
  split
  · exact .pure trivial
  · exact ((keeps_showSources _ _ _).mono aloof_of_speaking).bind fun _ _ => .pure trivial

/-! ## Commands that bring text in -/

theorem bringing_readText (location : Location) (error : IoCause → Error) :
    (readText location error).Keeps .bringing := by
  intro desk
  have reads : bringing.Holds desk
      { desk with storage := (desk.storage.readText location).2 } :=
    ⟨⟨rfl, List.Subset.refl _, fun _ provides => provides.readText location⟩, rfl, rfl⟩
  unfold Ensures readText
  revert reads
  obtain ⟨outcome, storage⟩ := desk.storage.readText location
  intro reads
  cases outcome with
  | ok text => exact ⟨trivial, reads⟩
  | error cause => exact reads

theorem bringing_inject (text : String) : (inject text).Keeps .bringing := by
  apply Keeps.modify
  intro desk
  exact ⟨⟨rfl, List.Subset.refl _, fun _ provides => provides⟩, rfl, desk.input.base_inject text⟩

theorem bringing_play : Handler.Keeps .bringing play := by
  intro around arguments
  unfold play
  apply ((aloof_readFlags _ _).mono bringing_of_aloof).bind
  intro given _
  have played (given : Flags.Given) : (playedText around given).Keeps .bringing := by
    unfold playedText
    split
    · split
      · exact .pure trivial
      · exact .throw
    · exact bringing_readText _ _
  have injected (text : String) : (do inject text; pure .next : Action Outcome).Keeps .bringing :=
    (bringing_inject text).bind fun _ _ => .pure trivial
  split
  · exact .pure trivial
  · apply (played _).bind
    intro text _
    split
    · apply (keeps_readRange _).bind
      intro range _
      exact Keeps.ofExcept.bind fun text _ => injected text
    · exact injected text

/-- What the editor leaves behind when it is opened spares what the editor has spared. -/
theorem bringing_leaveEditor (desk : Desk) (opening : Opening) (count line : Nat) :
    (leaveEditor opening (desk.editor.edit count opening.location line desk.storage)).Ensures desk
      (fun _ after => True ∧ bringing.Holds desk after)
      fun _ after => bringing.Holds desk after := by
  have left : ∀ transcript, bringing.Holds desk
      { desk with
        openings := opening :: desk.openings
        storage := (desk.editor.edit count opening.location line desk.storage).storage
        transcript } := by
    intro transcript
    refine ⟨⟨rfl, List.subset_cons_self _ _, ?_⟩, rfl, rfl⟩
    intro path names file spared provides
    exact spared opening List.mem_cons_self count line desk.storage provides
  unfold leaveEditor
  apply Ensures.bind
  split
  · exact ⟨trivial, left _⟩
  · exact left _

theorem bringing_openEditor (location : Location) (line : Nat) :
    (openEditor location line).Keeps .bringing := by
  intro desk
  unfold openEditor
  apply Ensures.get
  have opened (transcript : Transcript) :=
    bringing_leaveEditor { desk with transcript }
      ⟨location, line, (desk.storage.content location).toOption⟩ desk.openings.length line
  split
  · apply Ensures.bind
    refine (keeps_log _ desk).mono ?_ fun _ _ kept => bringing_of_aloof (aloof_of_speaking kept)
    intro _ logged ⟨_, kept⟩
    have begun := bringing_of_aloof (aloof_of_speaking kept)
    rw [kept.2] at begun ⊢
    refine (opened logged.transcript).mono ?_ fun _ _ continued => bringing.trans begun continued
    exact fun _ _ ⟨isGood, continued⟩ => ⟨isGood, bringing.trans begun continued⟩
  · exact opened desk.transcript

theorem bringing_editFile (argument : String) (given : Flags.Given) :
    (editFile argument given).Keeps .bringing := by
  unfold editFile
  apply (bringing_openEditor _ _).bind
  intro _ _
  split
  · exact (bringing_readText _ _).bind fun text _ => bringing_inject text
  · exact .pure trivial

/-- Files do not depend on the scratch file. -/
theorem bringing_withScratch {content : Utf8.Bytes} {action : Action Unit}
    (kept : action.Keeps .bringing) : (withScratch content action).Keeps .bringing := by
  intro desk
  have provides {path : String} {names : List String} {file : Option Utf8.Bytes}
      (provides : desk.storage.Provides path names file) := provides.makeScratch content
  apply Ensures.withScratch
  · intro cause storage same
    rw [same] at provides
    exact ⟨⟨rfl, List.Subset.refl _, fun _ => provides⟩, rfl, rfl⟩
  · intro storage same
    rw [same] at provides
    have around {after : Desk} (holds : bringing.Holds { desk with storage } after) :
        bringing.Holds desk { after with storage := after.storage.withoutScratch } :=
      ⟨⟨holds.1.editor, holds.1.openings, fun spared provided =>
        (holds.1.storage spared (provides provided)).withoutScratch⟩, holds.2⟩
    exact (kept _).mono (fun _ _ ⟨isGood, holds⟩ => ⟨isGood, around holds⟩) fun _ _ => around

theorem bringing_editInput (around : Surroundings) (given : Flags.Given) :
    (editInput around given).Keeps .bringing := by
  unfold editInput
  apply Keeps.get.bind
  intro desk _
  apply Keeps.ofExcept.bind
  intro text _
  apply bringing_withScratch
  apply (bringing_openEditor _ _).bind
  intro _ _
  split
  · apply (bringing_readText _ _).bind
    intro edited _
    exact (aloof_changeBuffer _).mono bringing_of_aloof
  · exact .pure trivial

theorem bringing_edit : Handler.Keeps .bringing edit := by
  intro around arguments
  unfold edit
  apply ((aloof_readFlags _ _).mono bringing_of_aloof).bind
  intro given _
  split
  · exact .pure trivial
  · split
    · exact (bringing_editFile _ _).bind fun _ _ => .pure trivial
    · exact (bringing_editInput _ _).bind fun _ _ => .pure trivial

/-! ## Recalling -/

/-- The lines that `hist` replays with some options, as a text; `none` if it replays none. -/
def replayedText? (past : HistorySlice) (given : Flags.Given) : Option String :=
  if given.has "clear" then none
  else do
    let range ← LineRange.ofText? (← given.text? "replay")
    let slice ← past.select? range
    slice.joined

end Commands

/-- What `hist` makes of a desk with some options, if they are understood: it forgets the history,
or puts lines of it in front of the input. -/
def Holdings.recall (past : HistorySlice) (given? : Option Flags.Given) (held : Holdings) :
    Holdings :=
  { held with
    history := if given?.any (·.has "clear") then {} else held.history
    input := (given?.bind (Commands.replayedText? past)).elim held.input held.input.inject }

namespace Commands

open Console.Action Desk.Frame

/-- The options that `hist` is given. -/
def histGiven? (arguments : List (Option String)) : Option Flags.Given :=
  (histSpec.read (arguments.filterMap id)).toOption

/-- What `hist` leaves behind, whether it succeeds or fails. -/
theorem ensures_hist (around : Surroundings) (arguments : List (Option String)) (desk : Desk) :
    (hist around arguments).Ensures desk
      (fun _ after => after.holdings =
        desk.holdings.recall (around.past desk.history) (histGiven? arguments))
      fun _ after => after.holdings =
        desk.holdings.recall (around.past desk.history) (histGiven? arguments) := by
  unfold hist readFlags histGiven?
  cases histSpec.read (arguments.filterMap id) with
  | error halt =>
      cases halt with
      | failure failure => rfl
      | help | version =>
          apply Ensures.bind
          apply Ensures.bind
          exact (aloof_say _ desk).mono (fun _ _ kept => kept.2) fun _ _ kept => kept
  | ok given =>
      apply Ensures.bind
      apply Ensures.pure
      simp only [Except.toOption, Holdings.recall, replayedText?, Option.any_some, Option.bind_some]
      by_cases clear : given.has "clear"
      · simp only [clear, if_true]
        apply Ensures.bind
        exact (aloof_sayNext _ _).mono (fun _ _ kept => kept.2) fun _ _ kept => kept
      simp only [clear, Bool.false_eq_true, if_false]
      cases given.text? "replay" with
      | none =>
          apply Ensures.bind
          refine ((keeps_showHistory _ _).mono aloof_of_speaking _).mono ?_ fun _ _ kept => kept
          exact fun _ _ kept => kept.2
      | some text =>
          apply Ensures.bind
          unfold replayLines readRange
          simp only [Option.bind_eq_bind, Option.bind_some]
          cases LineRange.ofText? text with
          | none => rfl
          | some range =>
              apply Ensures.bind
              apply Ensures.pure
              apply Ensures.get
              simp only [Option.bind_some]
              cases (around.past desk.history).select? range with
              | none => rfl
              | some slice => rfl

end Commands

/-- The names of the commands that bring text in from outside the history. -/
def importing : List String := ["play", "edit"]

/-- What a command does, by its name, to the history, the input and the files. -/
structure Handler.Recalls (name : String) (handler : Handler) : Prop where
  hist : name = "hist" → handler = Commands.hist
  bringing : name ∈ importing → handler.Keeps .bringing
  aloof : name ≠ "hist" → name ∉ importing → handler.Keeps .aloof

theorem Handler.Recalls.of_aloof {name : String} {handler : Handler} (kept : handler.Keeps .aloof)
    (other : name ≠ "hist") : handler.Recalls name where
  hist same := absurd same other
  bringing _ := fun around arguments => (kept around arguments).mono Desk.Frame.bringing_of_aloof
  aloof _ _ := kept

namespace Registry

theorem recalls_builtin : builtin.Obeys fun name handler => handler.Recalls name := by
  have brings {name : String} {handler : Handler} (kept : handler.Keeps .bringing)
      (member : name ∈ importing) (other : name ≠ "hist") : handler.Recalls name :=
    ⟨fun same => absurd same other, fun _ => kept, fun _ notMember => absurd member notMember⟩
  have carried {name alias_ : String} (aloof : name ≠ "hist" ∧ name ∉ importing)
      (other : alias_ ≠ "hist") (handler : Handler) (recalls : handler.Recalls name) :
      handler.Recalls alias_ := .of_aloof (recalls.aloof aloof.1 aloof.2) other
  have obey : BuiltinObey fun name handler => handler.Recalls name :=
    { clearBuffer := .of_aloof Commands.aloof_clearBuffer (by decide)
      showInput := .of_aloof Commands.aloof_showInput (by decide)
      amendLine := .of_aloof Commands.aloof_amendLine (by decide)
      play := brings Commands.bringing_play (by decide) (by decide)
      edit := brings Commands.bringing_edit (by decide) (by decide)
      hist := ⟨fun _ => rfl, fun member => absurd member (by decide), fun other => absurd rfl other⟩
      changeSession := .of_aloof Commands.aloof_changeSession (by decide)
      nesting := .of_aloof Commands.aloof_nesting (by decide)
      jumpTo := .of_aloof Commands.aloof_jumpTo (by decide)
      exit := .of_aloof Commands.aloof_exit (by decide)
      exitAll := .of_aloof Commands.aloof_exitAll (by decide)
      showMethod := .of_aloof Commands.aloof_showMethod (by decide)
      help := .of_aloof Commands.aloof_help (by decide)
      showCommand := .of_aloof Commands.aloof_showCommand (by decide)
      amendAlias := carried (by decide) (by decide)
      exitAlias := carried (by decide) (by decide)
      sourceAlias := fun handler recalls =>
        ⟨carried (by decide) (by decide) handler recalls,
          carried (by decide) (by decide) handler recalls⟩ }
  exact obeys_builtin obey

/-- Whether a line is dispatched to a command that brings text in from outside the history. -/
def imports (registry : Registry) (line : String) : Prop :=
  ∃ command recognized, registry.find? line = some (command, recognized) ∧ command.name ∈ importing

/-- The options that a line gives to `hist`, if it is dispatched to it and they are understood. -/
def histGiven? (registry : Registry) (line : String) : Option Flags.Given :=
  match registry.find? line with
  | none => none
  | some (command, recognized) =>
      if command.name = "hist" then
        (command.arguments recognized.captures).toOption.bind Commands.histGiven?
      else none

/-- Whether a line makes `hist` forget the history. -/
def clears (registry : Registry) (line : String) : Bool :=
  (registry.histGiven? line).any (·.has "clear")

/-- The lines of the history that a line makes `hist` replay, as a text. -/
def replayedText? (registry : Registry) (past : HistorySlice) (line : String) : Option String :=
  (registry.histGiven? line).bind (Commands.replayedText? past)

end Registry

/-- What dispatching a line does to a desk, whether the command succeeds or fails. -/
structure Desk.Recalled (registry : Registry) (past : HistorySlice) (line : String)
    (before after : Desk) : Prop where
  reaches : before.Reaches after
  base : after.input.base = before.input.base
  history : after.history = if registry.clears line then {} else before.history
  input : ¬registry.imports line →
    after.input = (registry.replayedText? past line).elim before.input before.input.inject

namespace Desk.Recalled

variable {registry : Registry} {past : HistorySlice} {line : String} {before after : Desk}

/-- What `hist` does with the options of a line, or no command at all, is as it should be. -/
theorem of_recall
    (recalled : after.holdings = before.holdings.recall past (registry.histGiven? line)) :
    before.Recalled registry past line after := by
  rw [holdings, Holdings.recall, Holdings.mk.injEq] at recalled
  obtain ⟨history, input, storage, editor, openings⟩ := recalled
  refine ⟨⟨editor, ?_, fun _ provides => ?_⟩, ?_, history, fun _ => input⟩
  · rw [openings]
    exact List.Subset.refl _
  · rw [storage]
    exact provides
  · rw [input]
    cases (registry.histGiven? line).bind (Commands.replayedText? past) with
    | none => rfl
    | some text => exact InputChain.base_inject before.input text

theorem of_aloof (notHist : registry.histGiven? line = none)
    (same : after.holdings = before.holdings) : before.Recalled registry past line after := by
  apply of_recall
  rw [notHist]
  exact same

/-- What is said before a command does not matter. -/
theorem after_aloof {middle : Desk} (same : middle.holdings = before.holdings)
    (recalled : middle.Recalled registry past line after) :
    before.Recalled registry past line after := by
  have begun : before.Reaches middle := .of_holdings same
  rw [holdings, holdings, Holdings.mk.injEq] at same
  obtain ⟨history, input, _⟩ := same
  exact
    { reaches := begun.trans recalled.reaches
      base := input ▸ recalled.base
      history := history ▸ recalled.history
      input := input ▸ recalled.input }

theorem before_aloof {middle : Desk} (recalled : before.Recalled registry past line middle)
    (same : after.holdings = middle.holdings) : before.Recalled registry past line after := by
  have continued : middle.Reaches after := .of_holdings same
  rw [holdings, holdings, Holdings.mk.injEq] at same
  obtain ⟨history, input, _⟩ := same
  exact
    { reaches := recalled.reaches.trans continued
      base := input ▸ recalled.base
      history := history ▸ recalled.history
      input := input ▸ recalled.input }

end Desk.Recalled

namespace Registry

variable {registry : Registry} {line : String}

theorem histGiven?_of_find?_eq_none (unknown : registry.find? line = none) :
    registry.histGiven? line = none := by
  unfold histGiven?
  rw [unknown]

/-- A command does with the arguments of its line what its name says. -/
theorem ensures_handler {command : Command} {recognized : Recognized}
    {arguments : List (Option String)} (recalls : command.handler.Recalls command.name)
    (found : registry.find? line = some (command, recognized))
    (given : command.arguments recognized.captures = .ok arguments) (around : Surroundings)
    (desk : Desk) :
    (command.handler around arguments).Ensures desk
      (fun _ after => desk.Recalled registry (around.past desk.history) line after)
      fun _ after => desk.Recalled registry (around.past desk.history) line after := by
  by_cases isHist : command.name = "hist"
  · have options : registry.histGiven? line = Commands.histGiven? arguments := by
      simp only [histGiven?, found, isHist, given, if_true]
      rfl
    rw [recalls.hist isHist]
    have recalled {after : Desk} (left : after.holdings =
        desk.holdings.recall (around.past desk.history) (Commands.histGiven? arguments)) :
        desk.Recalled registry (around.past desk.history) line after :=
      .of_recall (options ▸ left)
    exact (Commands.ensures_hist around arguments desk).mono (fun _ _ => recalled)
      fun _ _ => recalled
  · have notHist : registry.histGiven? line = none := by
      simp only [histGiven?, found, isHist, if_false]
    by_cases isImporting : command.name ∈ importing
    · have imports : registry.imports line := ⟨command, recognized, found, isImporting⟩
      have brought {after : Desk} (kept : Desk.Frame.bringing.Holds desk after) :
          desk.Recalled registry (around.past desk.history) line after := by
        refine ⟨kept.1, kept.2.2, ?_, fun none => absurd imports none⟩
        rw [clears, notHist]
        exact kept.2.1
      exact (recalls.bringing isImporting around arguments desk).mono
        (fun _ _ kept => brought kept.2) fun _ _ => brought
    · exact (recalls.aloof isHist isImporting around arguments desk).mono
        (fun _ _ kept => .of_aloof notHist kept.2) fun _ _ => .of_aloof notHist

/-- A line that is dispatched does to the history, the input and the files what its command
should. -/
theorem ensures_dispatch
    (recalls : registry.Obeys fun name handler => handler.Recalls name) (around : Surroundings)
    (line : String) (desk : Desk) :
    (registry.dispatch around line).Ensures desk
      (fun _ after => desk.Recalled registry (around.past desk.history) line after)
      fun _ after => desk.Recalled registry (around.past desk.history) line after := by
  cases found : registry.find? line with
  | none =>
      have unchanged : desk.Recalled registry (around.past desk.history) line desk :=
        .of_aloof (histGiven?_of_find?_eq_none found) rfl
      unfold dispatch
      rw [found]
      exact unchanged
  | some invoked =>
      obtain ⟨command, recognized⟩ := invoked
      have handled (transcript : Transcript) :
          (do let arguments ← Action.ofExcept (command.arguments recognized.captures)
              let outcome ← command.handler around arguments
              pure (.handled outcome) : Action Dispatched).Ensures { desk with transcript }
            (fun _ after => desk.Recalled registry (around.past desk.history) line after)
            fun _ after => desk.Recalled registry (around.past desk.history) line after := by
        apply Action.Ensures.bind
        cases given : command.arguments recognized.captures with
        | error error =>
            have notHist : registry.histGiven? line = none := by
              simp only [histGiven?, found, given]
              exact ite_self none
            exact .of_aloof notHist rfl
        | ok arguments =>
            apply Action.Ensures.pure
            apply Action.Ensures.bind
            have recalled := ensures_handler (recalls command (mem_of_find?_eq_some found)) found
              given around { desk with transcript }
            exact recalled.mono (fun _ _ => .after_aloof rfl) fun _ _ => .after_aloof rfl
      unfold dispatch
      rw [found]
      apply Action.Ensures.bind
      exact handled _

end Registry

end Console
