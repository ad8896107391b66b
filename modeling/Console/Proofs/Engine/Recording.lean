import Console.Proofs.Command.Patterns
import Console.Proofs.Engine.Taking
import Console.Proofs.Engine.Unwinding
import Console.Proofs.SharedHistory
import Mathlib.Data.List.DropRight

/-!
# What a run records

The history at the end of a run is told from the lines that were taken, without a look at cursors or
indices: the lines that were typed since the history was last forgotten, whoever made it so.  Saving
appends just these to the history file.
-/

namespace Console

/-- A line that was typed; `none` if a command had put it into the input. -/
def typed? : Origin × String → Option String
  | (.interactive, line) => some line
  | (.injected, _) => none

namespace Registry

variable (registry : Registry)

/-- The lines that were taken since the last one that made `hist` forget the history. -/
def sinceClear (taken : List (Origin × String)) : List (Origin × String) :=
  taken.rtakeWhile fun entry => !registry.clears entry.2

/-- The lines to be recorded: those typed since the history was last forgotten, but blank ones. -/
def recorded (taken : List (Origin × String)) : List String :=
  ((registry.sinceClear taken).filterMap typed?).filter fun line => !isBlankText line

/-- Whether a line made `hist` forget the history. -/
def cleared (taken : List (Origin × String)) : Bool :=
  taken.any fun entry => registry.clears entry.2

theorem recorded_concat (taken : List (Origin × String)) (origin : Origin) (line : String) :
    registry.recorded (taken ++ [(origin, line)]) =
      if registry.clears line then []
      else registry.recorded taken ++
        if origin = .interactive ∧ !isBlankText line then [line] else [] := by
  unfold recorded sinceClear
  rw [List.rtakeWhile_concat]
  by_cases clears : registry.clears line
  · simp [clears]
  · cases origin with
    | injected => simp [clears, typed?]
    | interactive =>
        by_cases blank : isBlankText line <;> simp [clears, typed?, blank]

theorem cleared_concat (taken : List (Origin × String)) (origin : Origin) (line : String) :
    registry.cleared (taken ++ [(origin, line)]) =
      (registry.cleared taken || registry.clears line) := by
  simp [cleared]

end Registry

/-- An answer that is read is the next one of the base source or puts it off. -/
theorem InputChain.base_of_read {chain input : InputChain} {answer : Answer} {origin : Origin}
    (read : chain.read = (answer, origin, input)) :
    ∃ consumed, chain.base = consumed ++ input.base ∧
      consumed.filterMap Answer.line? =
        (answer.line?.toList.map (Prod.mk origin)).filterMap typed? := by
  cases gives_of_read read with
  | injected => exact ⟨[], rfl, rfl⟩
  | ended next => exact ⟨[], next, rfl⟩
  | base next =>
      refine ⟨[answer], next, ?_⟩
      cases answer <;> rfl

namespace Engine

theorem entries_remembered (origin : Origin) (line : String) (history : History) :
    (remembered origin line history).entries =
      history.entries ++ if origin = .interactive ∧ !isBlankText line then [line] else [] := by
  unfold remembered
  split
  · rfl
  · exact (List.append_nil _).symm

theorem saved_remembered (origin : Origin) (line : String) (history : History) :
    (remembered origin line history).saved = history.saved := by
  unfold remembered
  split <;> rfl

/-- What an engine has come to since it started, if some lines were taken meanwhile. -/
structure Records (start : Engine) (lines : List (Origin × String)) (now : Engine) : Prop where
  registry : now.registry = start.registry
  historyFile : now.historyFile = start.historyFile
  saveOnExit : now.saveOnExit = start.saveOnExit
  reaches : start.desk.Reaches now.desk
  taken : now.desk.transcript.taken = start.desk.transcript.taken ++ lines
  base : ∃ consumed, start.desk.input.base = consumed ++ now.desk.input.base ∧
    lines.filterMap typed? = consumed.filterMap Answer.line?
  entries : now.desk.history.entries =
    (if start.registry.cleared lines then [] else start.desk.history.entries) ++
      start.registry.recorded lines
  saved : now.desk.history.saved =
    if start.registry.cleared lines then 0 else start.desk.history.saved

namespace Records

variable {start now after : Engine} {lines : List (Origin × String)}

theorem refl (engine : Engine) : engine.Records [] engine where
  registry := rfl
  historyFile := rfl
  saveOnExit := rfl
  reaches := .refl engine.desk
  taken := (List.append_nil _).symm
  base := ⟨[], rfl, rfl⟩
  entries := (List.append_nil _).symm
  saved := rfl

theorem aside (records : start.Records lines now) (aside : now.Aside after) :
    start.Records lines after := by
  exact
    { registry := aside.registry.trans records.registry
      historyFile := aside.historyFile.trans records.historyFile
      saveOnExit := aside.saveOnExit.trans records.saveOnExit
      reaches := records.reaches.trans (.of_holdings aside.holdings)
      taken := aside.taken.trans records.taken
      base := aside.input ▸ records.base
      entries := aside.history ▸ records.entries
      saved := aside.history ▸ records.saved }

/-- An answer has been read that is no line. -/
theorem fed {input : InputChain} {answer : Answer} {origin : Origin}
    (records : start.Records lines now) (read : now.desk.input.read = (answer, origin, input))
    (noLine : answer.line? = none) :
    start.Records lines { now with desk := { now.desk with input } } := by
  obtain ⟨consumed, split, typed⟩ := records.base
  obtain ⟨more, splitOn, none⟩ := InputChain.base_of_read read
  rw [noLine] at none
  refine
    { records with
      reaches := records.reaches.trans ⟨rfl, List.Subset.refl _, fun _ provides => provides⟩
      base := ⟨consumed ++ more, ?_, ?_⟩ }
  · rw [split, splitOn, List.append_assoc]
  · rw [typed, List.filterMap_append, none]
    exact (List.append_nil _).symm

/-- A line has been taken. -/
theorem took {input : InputChain} {text : String} {origin : Origin}
    (records : start.Records lines now)
    (read : now.desk.input.read = (.line text, origin, input))
    (took : now.Took origin (withoutFinalBreaks text) input after) :
    start.Records (lines ++ [(origin, withoutFinalBreaks text)]) after := by
  obtain ⟨consumed, split, typed⟩ := records.base
  obtain ⟨more, splitOn, line⟩ := InputChain.base_of_read read
  have heard : now.desk.Reaches
      { now.desk with
        input
        history := remembered origin (withoutFinalBreaks text) now.desk.history } :=
    ⟨rfl, List.Subset.refl _, fun _ provides => provides⟩
  have history := took.recalled.history
  rw [records.registry] at history
  refine
    { registry := took.registry.trans records.registry
      historyFile := took.historyFile.trans records.historyFile
      saveOnExit := took.saveOnExit.trans records.saveOnExit
      reaches := records.reaches.trans (heard.trans took.recalled.reaches)
      taken := ?_
      base := ⟨consumed ++ more, ?_, ?_⟩
      entries := ?_
      saved := ?_ }
  · rw [took.taken, records.taken, List.append_assoc]
  · rw [split, splitOn, List.append_assoc, took.recalled.base]
  · rw [List.filterMap_append, List.filterMap_append, typed, line]
    rfl
  · rw [history, Registry.recorded_concat, Registry.cleared_concat]
    by_cases clears : start.registry.clears (withoutFinalBreaks text)
    · simp [clears]
    · simp only [clears, Bool.false_eq_true, if_false, Bool.or_false, entries_remembered,
        records.entries, List.append_assoc]
  · rw [history, Registry.cleared_concat]
    by_cases clears : start.registry.clears (withoutFinalBreaks text)
    · simp [clears]
    · simp only [clears, Bool.false_eq_true, if_false, Bool.or_false, saved_remembered,
        records.saved]

theorem answered {input : InputChain} {answer : Answer} {origin : Origin} {run : Run}
    (records : start.Records lines now) (read : now.desk.input.read = (answer, origin, input))
    (answered : Answered now input origin answer run) :
    start.Records (lines ++ answer.line?.toList.map (Prod.mk origin)) run.engine := by
  cases answered with
  | line took => exact records.took read took
  | interrupted aside =>
      have fed := (records.fed read rfl).aside aside
      exact (List.append_nil lines).symm ▸ fed
  | ended noLine aside =>
      have fed := (records.fed read noLine).aside aside
      rw [noLine]
      exact (List.append_nil lines).symm ▸ fed

theorem step {phase : Phase} (builtin : start.registry = .builtin)
    (records : start.Records lines now) :
    ∃ more, start.Records (lines ++ more) (Run.step ⟨now, phase⟩).engine := by
  cases phase with
  | finished result => exact ⟨[], (List.append_nil lines).symm ▸ records⟩
  | unwinding depth =>
      refine ⟨[], (List.append_nil lines).symm ▸ ?_⟩
      exact records.aside (Aside.unwind now depth)
  | reading =>
      cases read : now.desk.input.read with
      | mk answer rest =>
          have builtin := records.registry.trans builtin
          exact ⟨_, records.answered read (Run.answered_readLine builtin read)⟩

/-- What a run records is told from the lines it takes. -/
theorem after_steps {run : Run} (builtin : start.registry = .builtin)
    (records : start.Records lines run.engine) (count : Nat) :
    ∃ more, start.Records (lines ++ more) (run.after count).engine := by
  induction count with
  | zero => exact ⟨[], (List.append_nil lines).symm ▸ records⟩
  | succ count ih =>
      obtain ⟨early, records⟩ := ih
      obtain ⟨late, records⟩ := records.step builtin
      exact ⟨early ++ late, List.append_assoc .. ▸ records⟩

end Records

/-! ## Loading and saving -/

variable {engine : Engine} {path : String} {names : List String} {file : Option Utf8.Bytes}

/-- Loading puts the lines of the file behind those that are there. -/
theorem aside_loadHistory (configured : engine.historyFile = some path)
    (provides : engine.desk.storage.Provides path names file)
    (saved : engine.desk.history.saved = engine.desk.history.size) :
    ∃ history storage, (engine.withHistory history storage).Aside engine.loadHistory ∧
      storage.Provides path names file ∧ history.saved = history.size ∧
        history.entries = engine.desk.history.entries ++
          if engine.loadOnStart then History.linesOfFile (file.getD []) else [] := by
  cases wanted : engine.loadOnStart with
  | false =>
      refine ⟨engine.desk.history, engine.desk.storage, ?_, provides, saved, ?_⟩
      · unfold loadHistory
        rw [wanted]
        exact .refl engine
      · exact (List.append_nil _).symm
  | true =>
      obtain ⟨storage, loaded, becomes⟩ := engine.desk.history.load_spec provides
      rw [engine.desk.history.loaded_of_saved saved] at loaded
      let entries := engine.desk.history.entries ++ History.linesOfFile (file.getD [])
      refine ⟨History.flushed ⟨entries, 0⟩, storage, ?_, becomes.provides provides, rfl, rfl⟩
      unfold loadHistory
      rw [wanted, configured]
      dsimp only
      rw [loaded]
      cases file with
      | none => exact Aside.log _ _ _
      | some bytes => exact (Aside.log _ _ _).trans (Aside.log _ _ _)

/-- Saving appends the lines that have been added, and changes nothing else. -/
theorem aside_saveHistory (configured : engine.historyFile = some path)
    (provides : engine.desk.storage.Provides path names file) (wanted : engine.saveOnExit = true) :
    ∃ history storage, (engine.withHistory history storage).Aside engine.saveHistory ∧
      history.entries = engine.desk.history.entries ∧
        storage.bytesAt path = file.getD [] ++ History.bytesOf engine.desk.history.pending := by
  obtain ⟨storage, saved, becomes⟩ := engine.desk.history.save_spec provides
  refine ⟨engine.desk.history.flushed, storage, ?_, rfl,
    (becomes.leads path provides.leads).bytesAt⟩
  unfold saveHistory
  rw [wanted, configured]
  dsimp only
  rw [saved]
  exact (Aside.log _ _ _).trans (Aside.log _ _ _)

/-- What a run has recorded is what it has to save. -/
theorem Records.pending {start now : Engine} {lines : List (Origin × String)}
    (records : start.Records lines now)
    (saved : start.desk.history.saved = start.desk.history.size) :
    now.desk.history.pending = start.registry.recorded lines := by
  unfold History.pending
  rw [records.entries, records.saved, saved]
  cases start.registry.cleared lines with
  | true => rfl
  | false => exact List.drop_left

theorem saveHistory_of_disabled (disabled : engine.saveOnExit = false) :
    engine.saveHistory = engine := by
  unfold saveHistory
  rw [disabled]

theorem openings_saveHistory (engine : Engine) :
    engine.saveHistory.desk.openings = engine.desk.openings := by
  unfold saveHistory
  split
  · dsimp only
    split <;> rfl
  · rfl

/-- What is saved at the end of a run is what has been recorded since the history was loaded. -/
theorem records_of_start {start last : Engine} {fuel : Nat} {target value : Value}
    (builtin : start.registry = .builtin) (loaded : start.Aside engine.loadHistory)
    (done : engine.start fuel target = some (value, last)) :
    ∃ lines final, start.Records lines final ∧ last = final.saveHistory := by
  obtain ⟨⟨result, final⟩, found, concluded⟩ := Option.map_eq_some_iff.mp done
  obtain ⟨count, reached⟩ := Run.finish_eq_some found
  have begun : start.Records [] (engine.loadHistory.begin target).engine :=
    (Records.refl start).aside (loaded.trans (Aside.enter _ target))
  obtain ⟨lines, records⟩ := begun.after_steps builtin count
  rw [reached] at records
  cases result with
  | ok returned =>
      cases concluded
      exact ⟨_, final, records, rfl⟩
  | error depth =>
      cases concluded
      exact ⟨_, _, records.aside (Aside.log final _ _), rfl⟩

/-- A whole run records the lines that were typed, as the base source has given them, since the
history was last forgotten.  They are the end of the history, behind what had been loaded if nothing
was forgotten, and they are all that is appended to the file; without saving it stays as it is. -/
theorem run_records_typed_lines {last : Engine} {fuel : Nat} {target value : Value}
    (builtin : engine.registry = .builtin) (configured : engine.historyFile = some path)
    (provides : engine.desk.storage.Provides path names file)
    (saved : engine.desk.history.saved = engine.desk.history.size)
    (done : engine.start fuel target = some (value, last))
    (spared : ∀ opening ∈ last.desk.openings,
      engine.desk.editor.Spares opening.location path names file) :
    ∃ lines consumed,
      last.desk.transcript.taken = engine.desk.transcript.taken ++ lines ∧
      engine.desk.input.base = consumed ++ last.desk.input.base ∧
      lines.filterMap typed? = consumed.filterMap Answer.line? ∧
      last.desk.history.entries =
        (if engine.registry.cleared lines then []
          else engine.desk.history.entries ++
            if engine.loadOnStart then History.linesOfFile (file.getD []) else []) ++
        engine.registry.recorded lines ∧
      (engine.saveOnExit = true → last.desk.storage.bytesAt path =
        file.getD [] ++ History.bytesOf (engine.registry.recorded lines)) ∧
      (engine.saveOnExit = false → last.desk.storage.LeadsTo path names file) := by
  obtain ⟨history, storage, loaded, provided, allSaved, entries⟩ :=
    aside_loadHistory configured provides saved
  have loadedBuiltin : (engine.withHistory history storage).registry = .builtin := builtin
  obtain ⟨lines, final, records, rfl⟩ := records_of_start loadedBuiltin loaded done
  rw [openings_saveHistory] at spared
  have still : final.desk.storage.Provides path names file :=
    records.reaches.storage spared provided
  obtain ⟨consumed, split, typed⟩ := records.base
  have recorded := records.entries
  change final.desk.history.entries =
    (if engine.registry.cleared lines then [] else history.entries) ++
      engine.registry.recorded lines at recorded
  rw [entries] at recorded
  refine ⟨lines, consumed, ?_⟩
  cases wanted : engine.saveOnExit with
  | false =>
      rw [saveHistory_of_disabled (records.saveOnExit.trans wanted)]
      exact ⟨records.taken, split, typed, recorded, nofun, fun _ => still.leads⟩
  | true =>
      obtain ⟨lastHistory, lastStorage, aside, same, content⟩ := aside_saveHistory
        (records.historyFile.trans configured) still (records.saveOnExit.trans wanted)
      rw [records.pending allSaved] at content
      rw [aside.history, aside.input, aside.storage]
      refine ⟨aside.taken.trans records.taken, split, typed, same.trans recorded, ?_, nofun⟩
      exact fun _ => content

/-- A console with a history file that is given a line, forgets it and is given another one. -/
def forgetful : Engine :=
  let engine := onScript ["1\r\n", "hist --clear", "2"]
  { engine with
    desk := { engine.desk with storage := SharedHistory.oldFile }
    historyFile := some "history" }

/-- None of the lines is for a command with a pattern, so the run can be computed. -/
theorem start_forgetful :
    ((forgetful.start 10 .main).map fun ended =>
      let taken := ended.2.desk.transcript.taken
      (taken, forgetful.registry.cleared taken, forgetful.registry.recorded taken,
        ended.2.desk.openings.length)) =
      some ([(.interactive, "1"), (.interactive, "hist --clear"), (.interactive, "2")], true,
        ["2"], 0) := by
  simp only [forgetful, onScript, Registry.builtin, Commands.registerBuffering,
    Commands.registerNesting, Commands.registerPattern_amend, Commands.ofSimplePattern_percent,
    Commands.registerPattern_cd]
  decide +kernel

theorem run_records_typed_lines_after_clearing :
    ∃ value last, forgetful.start 10 .main = some (value, last) ∧
      last.desk.history.entries = ["2"] ∧
        last.desk.storage.bytesAt "history" = Utf8.ofText "old\n2\n" := by
  obtain ⟨⟨value, last⟩, done, told⟩ := Option.map_eq_some_iff.mp start_forgetful
  simp only [Prod.mk.injEq] at told
  obtain ⟨taken, cleared, recorded, unopened⟩ := told
  have provides : forgetful.desk.storage.Provides "history" ["history"]
      (some (Utf8.ofText "old\n")) :=
    ⟨by simp [Storage.Calm, forgetful, SharedHistory.oldFile, Storage.put],
      (rfl : SharedHistory.oldFile.find "history" = _)⟩
  have spared : ∀ opening ∈ last.desk.openings, forgetful.desk.editor.Spares opening.location
      "history" ["history"] (some (Utf8.ofText "old\n")) := by
    rw [List.eq_nil_of_length_eq_zero unopened]
    exact fun opening member => absurd member List.not_mem_nil
  have builtin : forgetful.registry = .builtin := rfl
  obtain ⟨lines, _, same, _, _, entries, saved, _⟩ :=
    run_records_typed_lines builtin rfl provides rfl done spared
  rw [← same.trans (List.nil_append lines)] at entries saved
  rw [cleared, recorded] at entries
  rw [recorded] at saved
  exact ⟨value, last, done, entries, saved rfl⟩

end Engine

end Console
