import Console.Proofs.Command.Addressing
import Console.Proofs.Engine.Hearing
import Console.Proofs.Engine.Looking
import Console.Proofs.Engine.Recording
import Console.Proofs.Engine.SingleLines

/-!
# Numbers as addresses

Whatever a run does after it has listed a line of the history with its number, the line can be
found by this number until the history is forgotten.
-/

namespace Console

/-- A single line is read back when a newline is written behind it. -/
theorem InputChain.read_inject (chain : InputChain) {line : String}
    (plain : Text.Plain line.toList) :
    (chain.inject (line ++ "\n")).read =
      (.line line, .injected, { chain with injected := [] :: chain.injected }) := by
  unfold inject
  rw [linesOf_line plain]
  rfl

namespace Engine

namespace Records

variable {start now : Engine} {lines : List (Origin × String)} {line : String}

theorem mem_of_mem_recorded {registry : Registry} {taken : List (Origin × String)}
    (member : line ∈ registry.recorded taken) : line ∈ taken.filterMap typed? := by
  have typed := (List.mem_filter.mp member).1
  exact (List.rtakeWhile_suffix _ taken).sublist.filterMap typed? |>.mem typed

/-- The lines of the history stay single ones. -/
theorem not_mem_of_lined (records : start.Records lines now) (lined : start.Lined)
    (member : line ∈ now.desk.history.entries) : '\n' ∉ line.toList := by
  rw [records.entries, List.mem_append] at member
  rcases member with earlier | recorded
  · split at earlier
    · cases earlier
    · exact lined.history line earlier
  · obtain ⟨consumed, split, typed⟩ := records.base
    have isTyped := mem_of_mem_recorded recorded
    rw [typed] at isTyped
    obtain ⟨answer, isConsumed, takes⟩ := List.mem_filterMap.mp isTyped
    exact lined.base answer (split ▸ List.mem_append_left _ isConsumed) line takes

/-- A line of the history keeps its number as long as nothing is forgotten. -/
theorem get?_of_kept {number : Nat} (records : start.Records lines now)
    (kept : start.registry.cleared lines = false)
    (found : start.desk.history.get? number = some line) :
    now.desk.history.get? number = some line := by
  obtain ⟨within, _⟩ := List.getElem?_eq_some_iff.mp found
  unfold History.get?
  rw [records.entries, kept, if_neg Bool.false_ne_true, List.getElem?_append_left within]
  exact found

end Records

end Engine

/-! ## What a step does with an address -/

namespace Run

open Engine

variable {run : Run} {number : Nat} {line : String}

/-- The lines of the history that the next step lists, with their numbers. -/
def listed? (run : Run) : Option (List (Nat × String)) :=
  run.line?.bind (run.engine.registry.listed? run.engine.desk.history.all)

/-- What is to be listed is written. -/
theorem output_of_listed? {entries : List (Nat × String)} (tidy : run.Tidy)
    (builtin : run.engine.registry = .builtin) (listed : run.listed? = some entries)
    (some : entries ≠ []) :
    run.step.engine.desk.transcript.output = run.engine.desk.transcript.output ++
      (numberedLines run.engine.settings.colours entries ++ "\n") := by
  obtain ⟨line, takes, lists⟩ := Option.bind_eq_some_iff.mp listed
  obtain ⟨_, _, _, reading, _⟩ := line?_eq_some_iff.mp takes
  obtain ⟨heard, around, dispatches⟩ := exists_dispatches takes
  have isOpen := dispatches.isOpen tidy.isOpen
  have catalogue := dispatches.catalogue
  have step := dispatches.step
  rw [builtin] at lists catalogue step
  rw [← dispatches.past] at lists
  have ensured := Registry.ensures_dispatch_of_listed? catalogue isOpen lists some
  unfold Action.Ensures at ensured
  cases ran : Registry.builtin.dispatch around line heard.desk with
  | error error desk =>
      rw [ran] at ensured
      exact ensured.elim
  | ok dispatched desk =>
      rw [ran] at ensured step
      obtain ⟨rfl, message, shown⟩ := ensured
      have ready : desk.buffer.Ready := by
        rw [shown]
        exact dispatches.buffer ▸ tidy.current reading
      have settled : ({ heard with desk } : Engine).settle = { heard with desk } :=
        settle_of_ready ready
      rw [step, afterDispatch, settled, shown, Transcript.output_wrote, Transcript.output_log,
        dispatches.output, dispatches.settings]

theorem listed?_of_show (builtin : run.engine.registry = .builtin)
    (found : run.engine.desk.history.get? number = some line) (small : number < Text.largestInteger)
    (takes : run.line? = some ("hist --show " ++ natText number)) :
    run.listed? = some [(number, line)] := by
  rw [← History.getElem?_lines_all] at found
  rw [listed?, takes, Option.bind_some, builtin]
  exact Registry.listed?_show found rfl small

/-- A line that is edited by its number is what the editor is opened on, unless the scratch file
cannot be made. -/
theorem edits_of_edit (builtin : run.engine.registry = .builtin)
    (found : run.engine.desk.history.get? number = some line) (small : number < Text.largestInteger)
    (takes : run.line? = some ("edit --in " ++ natText number))
    (makes : (run.engine.desk.storage.attempts 3).1 = none) :
    Commands.Edits (line ++ "\n") run.engine.desk run.step.engine.desk := by
  obtain ⟨heard, around, dispatches⟩ := exists_dispatches takes
  have inPast : (around.past heard.desk.history).lines[number]? = some line := by
    rw [dispatches.past, History.getElem?_lines_all]
    exact found
  have makesStill : (heard.desk.storage.attempts 3).1 = none := by rwa [dispatches.storage]
  have ensured := Registry.edits_dispatch around heard.desk inPast small makesStill
  have step := dispatches.step
  rw [builtin] at step
  have finished {desk : Desk} {result : EStateM.Result Error Desk Dispatched}
      (left : (∃ error, result = .error error desk) ∨ ∃ dispatched, result = .ok dispatched desk)
      (edits : Commands.Edits (line ++ "\n") heard.desk desk) :
      Commands.Edits (line ++ "\n") run.engine.desk
        (afterDispatch ("edit --in " ++ natText number) heard result).engine.desk := by
    have after := (aside_afterDispatch ("edit --in " ++ natText number) heard left).1
    have same := congrArg Holdings.openings after.holdings
    obtain ⟨shown, opened⟩ := edits
    rw [dispatches.openings] at opened
    exact ⟨shown, same.trans opened⟩
  rw [step]
  change (Registry.builtin.dispatch around ("edit --in " ++ natText number)).Ensures _ _ _
    at ensured
  unfold Action.Ensures at ensured
  cases ran : Registry.builtin.dispatch around _ heard.desk with
  | error error desk =>
      rw [ran] at ensured
      exact finished (.inl ⟨error, rfl⟩) ensured
  | ok dispatched desk =>
      rw [ran] at ensured
      exact finished (.inr ⟨dispatched, rfl⟩) ensured

/-- A line that is replayed by its number is the next one to be read. -/
theorem read_of_replay (builtin : run.engine.registry = .builtin)
    (found : run.engine.desk.history.get? number = some line) (small : number < Text.largestInteger)
    (plain : Text.Plain line.toList)
    (takes : run.line? = some ("hist --replay " ++ natText number)) :
    run.step.phase = .reading ∧
      ∃ input, run.step.engine.desk.input.read = (.line line, .injected, input) := by
  rw [← History.getElem?_lines_all] at found
  have replayed := Registry.replayedText?_replay found small
  change Registry.builtin.replayedText? _ ("hist --replay " ++ natText number) = _ at replayed
  have invokes := Registry.invokesHist_of_replayedText? replayed
  refine ⟨reading_of_invokesHist builtin takes invokes, ?_⟩
  obtain ⟨text, origin, input, reading, read, same⟩ := line?_eq_some_iff.mp takes
  obtain ⟨engine, phase⟩ := run
  obtain rfl : phase = .reading := reading
  have answered := answered_readLine builtin read
  change ∃ input, (readLine engine).engine.desk.input.read = _
  generalize readLine engine = next at answered ⊢
  cases answered with
  | ended noLine => cases noLine
  | line took =>
      have fed := took.recalled.input
      rw [same, builtin, replayed] at fed
      rw [fed (Registry.not_imports_of_invokesHist invokes)]
      exact ⟨_, InputChain.read_inject input plain⟩

end Run

namespace Engine

/-- Numbers of the history are addresses.  Whatever options have made `hist` list a line behind a
number, and whatever lines have been taken since, typed or injected, in whatever sessions, none of
which has made `hist` forget the history: by this number the line is listed, the editor is opened on
it unless the file for that cannot be made, and it is replayed as the next line to be read if the
console is given single lines.  The history is no longer than the largest word. -/
theorem history_numbers_are_addresses (engine : Engine) (idle : engine.Idle)
    (isOpen : engine.desk.transcript.Open) (target : Value) (first count : Nat)
    {entries : List (Nat × String)} {number : Nat} {line : String}
    {taken : List (Origin × String)}
    (lists : ((engine.begin target).after first).listed? = some entries)
    (member : (number, line) ∈ entries)
    (small : ((engine.begin target).after first).engine.desk.history.size ≤ Text.largestInteger)
    (takes : ((engine.begin target).after (first + count)).engine.desk.transcript.taken =
      ((engine.begin target).after first).engine.desk.transcript.taken ++ taken)
    (kept : Registry.builtin.cleared taken = false) :
    let listing := (engine.begin target).after first
    let later := (engine.begin target).after (first + count)
    (listing.step.engine.desk.transcript.output = listing.engine.desk.transcript.output ++
      (numberedLines listing.engine.settings.colours entries ++ "\n")) ∧
    (later.line? = some ("hist --show " ++ natText number) →
      later.step.engine.desk.transcript.output = later.engine.desk.transcript.output ++
        (Colour.blue.paintIf later.engine.settings.colours (natText number) ++ ": " ++ line ++
          "\n")) ∧
    (later.line? = some ("edit --in " ++ natText number) →
      (later.engine.desk.storage.attempts 3).1 = none →
      Commands.Edits (line ++ "\n") later.engine.desk later.step.engine.desk) ∧
    (later.line? = some ("hist --replay " ++ natText number) → engine.Lined →
      line.toList.getLast? ≠ some '\r' →
      later.step.phase = .reading ∧
        ∃ input, later.step.engine.desk.input.read = (.line line, .injected, input)) := by
  intro listing later
  have begun := Run.sound_begin idle.orderly idle.wellNested target
  have tidy (count : Nat) := (Run.tidy_begin idle.sessions isOpen target).after begun count
  have builtin (count : Nat) : ((engine.begin target).after count).engine.registry = .builtin :=
    (begun.registry_after count).trans idle.builtin
  have found : listing.engine.desk.history.get? number = some line := by
    obtain ⟨_, _, lists⟩ := Option.bind_eq_some_iff.mp lists
    rw [builtin] at lists
    obtain ⟨_, _, lists⟩ := Option.bind_eq_some_iff.mp lists
    exact History.mem_entries_all.mp (Commands.mem_entries_of_mem_listed? lists member)
  have below : number < Text.largestInteger :=
    Nat.lt_of_lt_of_le (List.getElem?_eq_some_iff.mp found).1 small
  have some : entries ≠ [] := List.ne_nil_of_mem member
  obtain ⟨lines, sinceListing⟩ :=
    (Records.refl listing.engine).after_steps (builtin first) count
  rw [← Run.after_add, List.nil_append] at sinceListing
  have same : lines = taken := List.append_cancel_left (sinceListing.taken.symm.trans takes)
  rw [same] at sinceListing
  have stillFound : later.engine.desk.history.get? number = .some line :=
    sinceListing.get?_of_kept (by rw [builtin]; exact kept) found
  have whole (lined : engine.Lined) : '\n' ∉ line.toList := by
    have start : engine.Records [] (engine.begin target).engine :=
      (Records.refl engine).aside (Aside.enter engine target)
    obtain ⟨_, sinceStart⟩ := start.after_steps idle.builtin (first + count)
    exact sinceStart.not_mem_of_lined lined (List.mem_of_getElem? stillFound)
  refine ⟨Run.output_of_listed? (tidy first) (builtin first) lists some, ?_, ?_, ?_⟩
  · intro shows
    have listed := Run.listed?_of_show (builtin _) stillFound below shows
    have output := Run.output_of_listed? (tidy _) (builtin _) listed (List.cons_ne_nil _ _)
    rwa [numberedLines_singleton] at output
  · exact Run.edits_of_edit (builtin _) stillFound below
  · intro replays lined noReturn
    exact Run.read_of_replay (builtin _) stillFound below ⟨whole lined, noReturn⟩ replays

/-- A console that is given an expression, lists it as the last line of the history and then comes
back to it by its number. -/
def recalling : Engine :=
  onScript ["1 + 1", "hist --tail 1", "2", "hist --show 0", "edit --in 0", "hist --replay 0"]

/-- The lines that it takes behind the expression, up to the last one. -/
def meanwhile : List (Origin × String) :=
  [(.interactive, "hist --tail 1"), (.interactive, "2"), (.interactive, "hist --show 0"),
    (.interactive, "edit --in 0")]

/-- None of the lines is for a command with a pattern, so the run can be computed. -/
theorem told_recalling :
    let run := recalling.begin .main
    (run.after 1).listed? = some [(0, "1 + 1")] ∧ (run.after 1).engine.desk.history.size = 1 ∧
      (∀ count ∈ [2, 3, 4], (run.after (1 + count)).engine.desk.transcript.taken =
        (run.after 1).engine.desk.transcript.taken ++ meanwhile.take count) ∧
      (∀ count ∈ [2, 3, 4], Registry.builtin.cleared (meanwhile.take count) = false) ∧
      (run.after 3).line? = some "hist --show 0" ∧ (run.after 4).line? = some "edit --in 0" ∧
      (run.after 5).line? = some "hist --replay 0" ∧
      ((run.after 4).engine.desk.storage.attempts 3).1 = none ∧
      (run.after 3).engine.settings.colours = false := by
  simp only [recalling, onScript, Registry.builtin, Commands.registerBuffering,
    Commands.registerNesting, Commands.registerPattern_amend, Commands.ofSimplePattern_percent,
    Commands.registerPattern_cd]
  decide +kernel

theorem history_numbers_are_addresses_of_an_expression :
    let run := recalling.begin .main
    (run.after 3).step.engine.desk.transcript.output =
        (run.after 3).engine.desk.transcript.output ++ "0: 1 + 1\n" ∧
      Commands.Edits "1 + 1\n" (run.after 4).engine.desk (run.after 4).step.engine.desk ∧
      ∃ input, (run.after 5).step.engine.desk.input.read = (.line "1 + 1", .injected, input) := by
  obtain ⟨lists, size, takes, kept, shows, edits, replays, makes, plain⟩ := told_recalling
  have small : ((recalling.begin .main).after 1).engine.desk.history.size ≤
      Text.largestInteger := by
    rw [size]
    decide
  have lined : recalling.Lined := lined_onScript (by decide)
  have addressed (count : Nat) (among : count ∈ [2, 3, 4]) :=
    history_numbers_are_addresses recalling (idle_onScript _) (isOpen_onScript _) .main 1 count
      lists List.mem_cons_self small (takes count among) (kept count among)
  obtain ⟨_, shown, _⟩ := addressed 2 (by decide)
  obtain ⟨_, _, edited, _⟩ := addressed 3 (by decide)
  obtain ⟨_, _, _, replayed⟩ := addressed 4 (by decide)
  have output := shown shows
  rw [plain] at output
  exact ⟨output, edited edits makes, (replayed replays lined (by decide)).2⟩

end Engine

end Console
