import Console.Proofs.Command.Recalling

/-!
# Commands that only look

Some commands show something and do nothing else: whether they succeed or fail, the transcript goes
on with plain events and the rest of the desk is as it was, and if they succeed the session goes on.
The history command is one of them as long as it neither forgets nor replays anything.
-/

namespace Console

/-- An action that only says something, after which the session goes on. -/
def Action.Looks (action : Action Outcome) : Prop := action.Keeps .speaking (· = .next)

/-- A command that only says something, whatever surrounds it and whatever it is given. -/
def Handler.Looks (handler : Handler) : Prop :=
  ∀ around arguments, (handler around arguments).Looks

namespace Action.Looks

open Console.Action

theorem next : (pure .next : Action Outcome).Looks := Keeps.pure rfl

theorem throw {error : Error} : (throw error : Action Outcome).Looks := Keeps.throw

theorem after {α : Type} {first : Action α} {next : α → Action Outcome}
    (kept : first.Keeps .speaking) (looks : ∀ value, (next value).Looks) :
    (first >>= next : Action Outcome).Looks := kept.bind fun value _ => looks value

theorem say (text : String) : (do say text; pure .next : Action Outcome).Looks :=
  after (keeps_say text) fun _ => next

end Action.Looks

namespace Commands

open Console.Action

theorem looks_showInput : Handler.Looks showInput := by
  intro around arguments
  apply Looks.after Keeps.get
  intro desk
  split
  · exact .say _
  · exact .next

theorem looks_nesting : Handler.Looks nesting := fun _ _ => .say _

theorem looks_help : Handler.Looks help := by
  intro around arguments
  unfold help
  split
  · exact .after .ofExcept fun _ => .say _
  · exact .say _

theorem looks_showCommand : Handler.Looks showCommand := by
  intro around arguments
  unfold showCommand
  split
  · exact .throw
  · exact .after .ofExcept fun _ => .say _

theorem looks_showMethod : Handler.Looks showMethod := by
  intro around arguments
  apply Looks.after (keeps_readFlags _ _)
  intro given
  cases given with
  | none => exact .next
  | some given => exact .after (keeps_showSources _ _ _) fun _ => .next

/-- The options of `hist`, if they are understood, want neither that the history is forgotten nor
that lines of it are replayed. -/
def OnlyShown (given? : Option Flags.Given) : Prop :=
  ∀ given ∈ given?, given.has "clear" = false ∧ given.text? "replay" = none

theorem looks_hist {arguments : List (Option String)} (shown : OnlyShown (histGiven? arguments))
    (around : Surroundings) : (hist around arguments).Looks := by
  unfold hist
  unfold histGiven? at shown
  cases read : histSpec.read (arguments.filterMap id) with
  | error halt =>
      have halted : (readFlags histSpec arguments).Keeps .speaking (· = none) := by
        unfold readFlags
        rw [read]
        cases halt with
        | failure => exact .throw
        | help | version => exact (keeps_say _).bind fun _ _ => .pure rfl
      apply halted.bind
      rintro _ rfl
      exact Looks.next
  | ok given =>
      rw [read] at shown
      obtain ⟨noClear, noReplay⟩ := shown given rfl
      have understood : (readFlags histSpec arguments).Keeps .speaking (· = some given) := by
        unfold readFlags
        rw [read]
        exact .pure rfl
      apply understood.bind
      rintro _ rfl
      simp only [noClear, noReplay, Bool.false_eq_true, if_false]
      exact Looks.after (keeps_showHistory _ _) fun _ => .next

end Commands

/-- The names of the commands that only look, whatever they are given. -/
def showing : List String :=
  ["show-input", "nesting", "help", "show-command", "show-method", "show-source", "$"]

/-- What a command that looks does, by its name. -/
structure Handler.Shows (name : String) (handler : Handler) : Prop where
  hist : name = "hist" → handler = Commands.hist
  looks : name ∈ showing → handler.Looks

namespace Registry

theorem shows_builtin : builtin.Obeys fun name handler => handler.Shows name := by
  have looks {name : String} {handler : Handler} (looks : handler.Looks)
      (other : name ≠ "hist") : handler.Shows name :=
    ⟨fun same => absurd same other, fun _ => looks⟩
  have other {name : String} {handler : Handler} (other : name ∉ "hist" :: showing) :
      handler.Shows name := by
    rw [List.mem_cons, not_or] at other
    exact ⟨fun same => absurd same other.1, fun member => absurd member other.2⟩
  have carried {name : String} {handler : Handler} (shows : handler.Shows "show-method")
      (notHist : name ≠ "hist") : handler.Shows name :=
    looks (shows.looks (by simp [showing])) notHist
  have obey : BuiltinObey fun name handler => handler.Shows name :=
    { clearBuffer := other (by decide)
      showInput := looks Commands.looks_showInput (by decide)
      amendLine := other (by decide)
      play := other (by decide)
      edit := other (by decide)
      hist := ⟨fun _ => rfl, fun member => absurd member (by decide)⟩
      changeSession := other (by decide)
      nesting := looks Commands.looks_nesting (by decide)
      jumpTo := other (by decide)
      exit := other (by decide)
      exitAll := other (by decide)
      showMethod := looks Commands.looks_showMethod (by decide)
      help := looks Commands.looks_help (by decide)
      showCommand := looks Commands.looks_showCommand (by decide)
      amendAlias := fun _ _ => other (by decide)
      exitAlias := fun _ _ => other (by decide)
      sourceAlias := fun _ shows => ⟨carried shows (by decide), carried shows (by decide)⟩ }
  exact obeys_builtin obey

/-- A line is dispatched to a command that only looks, or to the history command with options that
do not keep it from only looking. -/
def Looks (registry : Registry) (line : String) : Prop :=
  ∃ command recognized, registry.find? line = some (command, recognized) ∧
    (command.name ∈ showing ∨
      command.name = "hist" ∧ Commands.OnlyShown (registry.histGiven? line))

/-- A line for a command that only looks is dispatched without changing anything but the
transcript. -/
theorem Looks.dispatch {registry : Registry} {line : String} (looks : registry.Looks line)
    (shows : registry.Obeys fun name handler => handler.Shows name) (around : Surroundings) :
    (registry.dispatch around line).Keeps .speaking (· = .handled .next) := by
  obtain ⟨command, recognized, found, named⟩ := looks
  have commandShows := shows command (mem_of_find?_eq_some found)
  unfold Registry.dispatch
  rw [found]
  apply (Action.keeps_log _).bind
  intro _ _
  cases given : command.arguments recognized.captures with
  | error error =>
      have refused : (Action.ofExcept (.error error) : Action (List (Option String))).Keeps
          .speaking (fun _ => False) := .throw
      exact refused.bind fun _ => False.elim
  | ok arguments =>
      have handled : (command.handler around arguments).Looks := by
        rcases named with named | ⟨named, shown⟩
        · exact commandShows.looks named around arguments
        · rw [commandShows.hist named]
          apply Commands.looks_hist
          simpa [histGiven?, found, named, given, Except.toOption] using shown
      have passed : (Action.ofExcept (.ok arguments)).Keeps .speaking (· = arguments) := .pure rfl
      apply passed.bind
      rintro _ rfl
      apply handled.bind
      rintro _ rfl
      exact .pure rfl

end Registry

end Console
