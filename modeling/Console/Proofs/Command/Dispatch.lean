import Console.Proofs.Command.Builtin

/-!
# Dispatching to a built-in command

Registration carries a law of the handlers over to the commands of the registry, aliases included:
whatever command a line is dispatched to, it is orderly, and it spares the expression buffer unless
its name is one of four.
-/

namespace Console

/-- The names of the commands that may change the expression buffer. -/
def editing : List String := ["!", "amend-line", "%", "edit"]

/-- A command that is orderly and edits only if its name says so. -/
def Command.Orderly (command : Command) : Prop := command.handler.Orderly (command.name ∈ editing)

namespace Registry

/-- All commands of a registry are orderly. -/
def Orderly (registry : Registry) : Prop := ∀ command ∈ registry.commands, command.Orderly

theorem mem_insert {command other : Command} {commands : List Command}
    (member : other ∈ insert command commands) : other = command ∨ other ∈ commands := by
  induction commands with
  | nil => exact .inl (List.mem_singleton.mp member)
  | cons first rest ih =>
      unfold insert at member
      split at member
      · rcases List.mem_cons.mp member with same | inRest
        · exact .inl same
        · exact .inr (List.mem_cons_of_mem _ inRest)
      · rcases List.mem_cons.mp member with same | inRest
        · exact .inr (same ▸ List.mem_cons_self)
        · exact (ih inRest).imp_right (List.mem_cons_of_mem _)

/-- All commands of a registry obey a law of their names and handlers. -/
def Obeys (law : String → Handler → Prop) (registry : Registry) : Prop :=
  ∀ command ∈ registry.commands, law command.name command.handler

namespace Obeys

variable {law : String → Handler → Prop} {registry : Registry}

theorem register {command : Command} (obeys : registry.Obeys law)
    (added : law command.name command.handler) : (registry.register command).Obeys law := by
  intro other member
  rcases mem_insert member with rfl | member
  · exact added
  · exact obeys other member

theorem registerNamed {name help : String} {arity : Arity} {handler : Handler}
    (obeys : registry.Obeys law) (added : law name handler) :
    (registry.register (.named name help arity handler)).Obeys law := obeys.register added

theorem registerPattern {name help source : String} {arity : Arity} {handler : Handler}
    (obeys : registry.Obeys law) (added : law name handler) :
    (Commands.registerPattern registry (.named name help arity handler) source).Obeys law := by
  unfold Commands.registerPattern Matcher.ofSimplePattern
  split
  next read =>
    split at read
    · cases read
      exact obeys.register added
    · cases read
  · exact obeys

/-- An alias does what its target does, so the law has to allow that under its own name. -/
theorem registerAlias {matcher : Except Error Matcher} {target : String}
    (obeys : registry.Obeys law)
    (allowed : ∀ found handler, matcher = .ok found → law target handler → law found.name handler) :
    (Commands.registerAlias registry matcher target).Obeys law := by
  unfold Commands.registerAlias addAlias
  split
  · exact obeys
  next found =>
    split
    next added =>
      split at added
      next command isTarget =>
        cases added
        have sameName : command.name = target := by simpa using List.find?_some isTarget
        have obeyed := obeys command (List.mem_of_find?_eq_some isTarget)
        rw [sameName] at obeyed
        exact obeys.register (allowed found command.handler rfl obeyed)
      · cases added
    · exact obeys

end Obeys

/-- The built-in commands obey a law, and it allows their other names. -/
structure BuiltinObey (law : String → Handler → Prop) : Prop where
  clearBuffer : law "!" Commands.clearBuffer
  showInput : law "show-input" Commands.showInput
  amendLine : law "amend-line" Commands.amendLine
  play : law "play" Commands.play
  edit : law "edit" Commands.edit
  hist : law "hist" Commands.hist
  changeSession : law "cd" Commands.changeSession
  nesting : law "nesting" Commands.nesting
  jumpTo : law "jump-to" Commands.jumpTo
  exit : law "exit" Commands.exit
  exitAll : law "exit-all" Commands.exitAll
  showMethod : law "show-method" Commands.showMethod
  help : law "help" Commands.help
  showCommand : law "show-command" Commands.showCommand
  amendAlias : ∀ handler, law "amend-line" handler → law "%" handler
  exitAlias : ∀ handler, law "exit-all" handler → law "!!!" handler
  sourceAlias : ∀ handler, law "show-method" handler → law "show-source" handler ∧ law "$" handler

namespace BuiltinObey

variable {law : String → Handler → Prop} {registry : Registry}

theorem registerBuffering (obey : BuiltinObey law) (obeys : registry.Obeys law) :
    (Commands.registerBuffering registry).Obeys law := by
  refine .registerAlias (.registerPattern (.registerNamed (.registerNamed obeys
    obey.clearBuffer) obey.showInput) obey.amendLine) ?_
  intro found handler read obeyed
  unfold Matcher.ofSimplePattern at read
  split at read
  · cases read
    exact obey.amendAlias handler obeyed
  · cases read

theorem registerPlaying (obey : BuiltinObey law) (obeys : registry.Obeys law) :
    (Commands.registerPlaying registry).Obeys law :=
  .registerNamed (.registerNamed obeys obey.play) obey.edit

theorem registerRecalling (obey : BuiltinObey law) (obeys : registry.Obeys law) :
    (Commands.registerRecalling registry).Obeys law := .registerNamed obeys obey.hist

theorem registerNesting (obey : BuiltinObey law) (obeys : registry.Obeys law) :
    (Commands.registerNesting registry).Obeys law := by
  refine .registerAlias (.registerNamed (.registerNamed (.registerNamed (.registerNamed
    (.registerPattern obeys obey.changeSession) obey.nesting) obey.jumpTo) obey.exit)
    obey.exitAll) ?_
  intro found handler read obeyed
  cases read
  exact obey.exitAlias handler obeyed

theorem registerHelp (obey : BuiltinObey law) (obeys : registry.Obeys law) :
    (Commands.registerHelp registry).Obeys law := by
  refine .registerNamed (.registerNamed (.registerAlias (.registerAlias (.registerNamed obeys
    obey.showMethod) ?_) ?_) obey.help) obey.showCommand
  · intro found handler read obeyed
    cases read
    exact (obey.sourceAlias handler obeyed).1
  · intro found handler read obeyed
    cases read
    exact (obey.sourceAlias handler obeyed).2

end BuiltinObey

/-- A law of the built-in commands is a law of the registry they are in. -/
theorem obeys_builtin {law : String → Handler → Prop} (obey : BuiltinObey law) :
    builtin.Obeys law := by
  have nothing : empty.Obeys law := nofun
  have entered := obey.registerPlaying (obey.registerBuffering nothing)
  exact obey.registerHelp (obey.registerNesting (obey.registerRecalling entered))

/-- The built-in commands are orderly. -/
theorem orderly_builtin : builtin.Orderly := by
  have spared {handler : Handler} (name : String) (orderly : handler.Orderly False) :
      handler.Orderly (name ∈ editing) := orderly.mono False.elim
  have edits {handler : Handler} {name : String} (orderly : handler.Orderly True)
      (named : name ∈ editing) : handler.Orderly (name ∈ editing) := orderly.mono fun _ => named
  have obey : BuiltinObey fun name handler => handler.Orderly (name ∈ editing) :=
    { clearBuffer := edits Commands.orderly_clearBuffer (by simp [editing])
      showInput := spared _ Commands.orderly_showInput
      amendLine := edits Commands.orderly_amendLine (by simp [editing])
      play := spared _ Commands.orderly_play
      edit := edits Commands.orderly_edit (by simp [editing])
      hist := spared _ Commands.orderly_hist
      changeSession := spared _ Commands.orderly_changeSession
      nesting := spared _ Commands.orderly_nesting
      jumpTo := spared _ Commands.orderly_jumpTo
      exit := spared _ Commands.orderly_exit
      exitAll := spared _ Commands.orderly_exitAll
      showMethod := spared _ Commands.orderly_showMethod
      help := spared _ Commands.orderly_help
      showCommand := spared _ Commands.orderly_showCommand
      amendAlias := fun _ orderly => orderly.mono (by simp [editing])
      exitAlias := fun _ orderly => orderly.mono (by simp [editing])
      sourceAlias := fun _ orderly =>
        ⟨orderly.mono (by simp [editing]), orderly.mono (by simp [editing])⟩ }
  exact obeys_builtin obey

/-- Whether a line is dispatched to a command that may change the expression buffer. -/
def edits (registry : Registry) (line : String) : Prop :=
  ∃ command recognized, registry.find? line = some (command, recognized) ∧ command.name ∈ editing

/-- A line that no command recognises leaves the desk alone. -/
theorem dispatch_of_find?_eq_none {registry : Registry} {line : String}
    (unknown : registry.find? line = none) (around : Surroundings) (desk : Desk) :
    registry.dispatch around line desk = .ok .noCommand desk := by
  unfold dispatch
  rw [unknown]
  rfl

theorem mem_of_find?_eq_some {registry : Registry} {line : String} {command : Command}
    {recognized : Recognized} (found : registry.find? line = some (command, recognized)) :
    command ∈ registry.commands := by
  obtain ⟨other, member, isFound⟩ := List.exists_of_findSome?_eq_some found
  obtain ⟨_, _, same⟩ := Option.map_eq_some_iff.mp isFound
  cases same
  exact member

/-- A line that a command recognises is dispatched in an orderly way. -/
theorem Orderly.dispatch {registry : Registry} {line : String} {found : Command × Recognized}
    (orderly : registry.Orderly) (recognized : registry.find? line = some found)
    (around : Surroundings) (desk : Desk) :
    (registry.dispatch around line).Ensures desk
      (fun dispatched after => ∃ outcome, dispatched = .handled outcome ∧
        Handled (registry.edits line) around desk outcome after)
      fun _ after => Refused (registry.edits line) desk after := by
  obtain ⟨command, captured⟩ := found
  have commandOrderly : command.handler.Orderly (registry.edits line) :=
    (orderly command (mem_of_find?_eq_some recognized)).mono fun named =>
      ⟨command, captured, recognized, named⟩
  unfold Registry.dispatch
  rw [recognized]
  apply Action.Ensures.bind
  refine ((Action.keeps_log _).mono Desk.Frame.beside_of_speaking desk).mono ?_
    fun _ _ => .of_beside
  intro _ logged ⟨_, kept⟩
  apply Action.Ensures.bind
  have splits : (Action.ofExcept (command.arguments captured.captures)).Keeps .beside := .ofExcept
  refine (splits logged).mono ?_ fun _ _ keptOn => .of_beside (Desk.Frame.beside.trans kept keptOn)
  intro arguments split ⟨_, keptOn⟩
  apply Action.Ensures.bind
  refine (commandOrderly around arguments split).mono ?_ fun _ _ refused => .after_beside
    (Desk.Frame.beside.trans kept keptOn) refused
  intro outcome after handled
  exact ⟨outcome, rfl, .after_beside (Desk.Frame.beside.trans kept keptOn) handled⟩

/-- Dispatching a line is quiet, whatever becomes of it. -/
theorem Orderly.quiet_dispatch {registry : Registry} (orderly : registry.Orderly)
    (around : Surroundings) (line : String) (desk : Desk) :
    (registry.dispatch around line).Ensures desk
      (fun _ after => desk.transcript.Quiet after.transcript)
      fun _ after => desk.transcript.Quiet after.transcript := by
  cases found : registry.find? line with
  | none =>
      unfold Action.Ensures
      rw [dispatch_of_find?_eq_none found]
      exact .refl desk.transcript
  | some invoked =>
      refine (orderly.dispatch found around desk).mono ?_ fun _ _ refused => refused.quiet
      intro _ after ⟨outcome, _, handled⟩
      exact handled.quiet

end Registry

end Console
