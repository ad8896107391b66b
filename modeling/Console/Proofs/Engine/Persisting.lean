import Console.Proofs.Engine.Hearing
import Console.Proofs.Engine.Resembling
import Console.Proofs.Engine.Unwinding

/-!
# A history file that does not work

At the first failure to load or to save the history, the history file is given up: the failure is
reported, and from then on the history is kept in memory only.  Reports of a history file are
counted in the transcript, and none is added without giving up the file.  A session neither knows
nor changes what becomes of the history file, so it does what it does without one.
-/

namespace Console

/-! ## Failures -/

namespace History

variable {history : History} {path : String} {storage : Storage}

/-- What could not be loaded leaves the history as it was. -/
theorem load_of_error {cause : IoCause} (failed : (history.load path storage).1 = .error cause) :
    (history.load path storage).2.1 = history := by
  unfold load at failed ⊢
  generalize storage.read (.path path) = read at failed ⊢
  obtain ⟨outcome, after⟩ := read
  cases outcome with
  | ok bytes => cases failed
  | error cause => cases cause <;> rfl

/-- What could not be saved leaves the history as it was. -/
theorem save_of_error {error : SaveError} (failed : (history.save path storage).1 = .error error) :
    (history.save path storage).2.1 = history := by
  unfold save at failed ⊢
  generalize linesOnDisk path storage = read at failed ⊢
  obtain ⟨outcome, after⟩ := read
  cases outcome with
  | error cause => rfl
  | ok onDisk =>
      dsimp only at failed ⊢
      generalize history.appendPending path after = appended at failed ⊢
      obtain ⟨outcome, last⟩ := appended
      cases outcome with
      | error cause => rfl
      | ok done => cases failed

end History

namespace Transcript

theorem output_writeOr (transcript : Transcript) (complaint text : String) :
    (transcript.writeOr complaint text).output = transcript.output ++
      match transcript.attempt.1 with
      | some _ => ""
      | none => text := by
  have attempted := transcript.extends_attempt.output_of_none nofun
  unfold writeOr write
  generalize transcript.attempt = outcome at attempted ⊢
  obtain ⟨fault, after⟩ := outcome
  cases fault with
  | none =>
      dsimp only at attempted ⊢
      rw [output_add_wrote, attempted]
  | some cause =>
      dsimp only at attempted ⊢
      have unwritten := (Extends.add after (.unwritten text cause)).output_of_none
        (List.forall_mem_singleton.mpr rfl)
      rw [output_log, unwritten, attempted, String.append_empty]

/-- What is written, or what becomes of that, blames no history file. -/
theorem extends_writeOr (transcript : Transcript) (complaint text : String) :
    ∃ events, transcript.Extends (transcript.writeOr complaint text) events ∧
      ∀ event ∈ events, event.blamesHistoryFile = false := by
  unfold writeOr
  obtain ⟨after, ⟨written, extended⟩ | ⟨cause, written, extended⟩⟩ := transcript.write_cases text
  · rw [written]
    exact ⟨_, extended, List.forall_mem_singleton.mpr rfl⟩
  · rw [written]
    refine ⟨_, extended.trans (.add after _), ?_⟩
    exact List.forall_mem_cons.mpr ⟨rfl, List.forall_mem_singleton.mpr rfl⟩

end Transcript

namespace Engine

/-- Why the history file cannot be loaded, if it is to be loaded and cannot. -/
def loadFailure? (engine : Engine) : Option (String × IoCause) :=
  match engine.loadOnStart, engine.historyFile with
  | true, some path =>
      match (engine.desk.history.load path engine.desk.storage).1 with
      | .ok _ => none
      | .error cause => some (path, cause)
  | _, _ => none

/-- Why the history cannot be saved, if it is to be saved and cannot. -/
def saveFailure? (engine : Engine) : Option (String × IoCause) :=
  match engine.saveOnExit, engine.historyFile with
  | true, some path =>
      match (engine.desk.history.save path engine.desk.storage).1 with
      | .ok _ => none
      | .error error => some (path, error.cause)
  | _, _ => none

/-- An engine that has logged some messages. -/
def noting (engine : Engine) (messages : List String) : Engine :=
  engine.record fun transcript => messages.foldl (·.log .debug ·) transcript

/-- What comes of loading or saving the history: nothing has failed, or the history is as it was and
the file is given up. -/
inductive Minds (engine : Engine) : Option (String × IoCause) → Engine → Prop where
  | worked {history : History} {storage : Storage} {messages : List String}
      (blameless : ∀ message ∈ messages, (Event.logged .debug message).blamesHistoryFile = false) :
      Minds engine none ((engine.withHistory history storage).noting messages)
  | failed {path : String} {cause : IoCause} {storage : Storage} {messages : List String}
      (used : engine.historyFile = some path)
      (blameless : ∀ message ∈ messages, (Event.logged .debug message).blamesHistoryFile = false) :
      Minds engine (some (path, cause))
        (((engine.withHistory engine.desk.history storage).noting messages).giveUpHistoryFile path
          cause)

namespace Minds

variable {engine : Engine} {history : History} {storage : Storage} {path : String} {cause : IoCause}

theorem idle (engine : Engine) : engine.Minds none engine :=
  @worked engine engine.desk.history engine.desk.storage [] nofun

theorem failed_at_once (used : engine.historyFile = some path)
    (same : history = engine.desk.history) :
    engine.Minds (some (path, cause))
      ((engine.withHistory history storage).giveUpHistoryFile path cause) := by
  subst same
  exact @failed engine path cause storage [] used nofun

end Minds

theorem minds_loadHistory (engine : Engine) :
    engine.Minds engine.loadFailure? engine.loadHistory := by
  have loaded (path : String) (count : Nat) : (Event.logged .debug ("loaded " ++ natText count ++
      " history lines from " ++ path)).blamesHistoryFile = false :=
    Event.blamesHistoryFile_logged (by simp)
  have added (path : String) (count : Nat) : (Event.logged .debug ("history: " ++ natText count ++
      " lines from " ++ path)).blamesHistoryFile = false :=
    Event.blamesHistoryFile_logged (by simp)
  unfold loadFailure? loadHistory
  cases engine.loadOnStart with
  | false => exact .idle engine
  | true =>
      cases used : engine.historyFile with
      | none => exact .idle engine
      | some path =>
          dsimp only
          have kept (cause : IoCause) :=
            @History.load_of_error engine.desk.history path engine.desk.storage cause
          generalize engine.desk.history.load path engine.desk.storage = outcome at kept ⊢
          obtain ⟨outcome, history, storage⟩ := outcome
          cases outcome with
          | error cause => exact .failed_at_once used (kept cause rfl)
          | ok found =>
              cases found with
              | none => exact .worked (List.forall_mem_singleton.mpr (added path 0))
              | some count =>
                  exact .worked (List.forall_mem_cons.mpr
                    ⟨loaded path count, List.forall_mem_singleton.mpr (added path count)⟩)

theorem minds_saveHistory (engine : Engine) :
    engine.Minds engine.saveFailure? engine.saveHistory := by
  have saving (path : String) (onDisk pending : Nat) :
      (Event.logged .debug (savingMessage path onDisk pending)).blamesHistoryFile = false := by
    unfold savingMessage
    apply Event.blamesHistoryFile_logged
    simp
  have saved (path : String) (count : Nat) : (Event.logged .debug ("history: " ++ natText count ++
      " lines saved to " ++ path)).blamesHistoryFile = false :=
    Event.blamesHistoryFile_logged (by simp)
  unfold saveFailure? saveHistory
  cases engine.saveOnExit with
  | false => exact .idle engine
  | true =>
      cases used : engine.historyFile with
      | none => exact .idle engine
      | some path =>
          dsimp only
          have kept (error : SaveError) :=
            @History.save_of_error engine.desk.history path engine.desk.storage error
          generalize engine.desk.history.save path engine.desk.storage = outcome at kept ⊢
          obtain ⟨outcome, history, storage⟩ := outcome
          cases outcome with
          | ok counts =>
              exact .worked (List.forall_mem_cons.mpr
                ⟨saving path counts.onDisk _,
                  List.forall_mem_singleton.mpr (saved path counts.written)⟩)
          | error error =>
              have same := kept error rfl
              cases error with
              | unread cause => exact .failed_at_once used same
              | unwritten onDisk cause =>
                  dsimp only at same ⊢
                  subst same
                  let message := savingMessage path onDisk engine.desk.history.pending.length
                  have noted : ∀ other ∈ [message],
                      (Event.logged .debug other).blamesHistoryFile = false :=
                    List.forall_mem_singleton.mpr (saving path onDisk _)
                  exact @Minds.failed engine path cause storage [message] used noted

/-! ## What is written -/

/-- What is written of an error that is reported. -/
def reportText (engine : Engine) (error : Error) : String :=
  match engine.desk.transcript.attempt.1 with
  | some _ => ""
  | none => Colour.red.paintIf engine.settings.colours "Error:" ++ " " ++ error.message ++ "\n"

theorem reportText_of_failsLike {engine other : Engine}
    (alike : engine.desk.transcript.FailsLike other.desk.transcript)
    (settings : other.settings = engine.settings) (error : Error) :
    other.reportText error = engine.reportText error := by
  unfold reportText
  rw [alike.attempt.1, settings]

theorem reportText_log (engine : Engine) (level : LogLevel) (message : String) (error : Error) :
    (engine.log level message).reportText error = engine.reportText error := by
  have alike : engine.desk.transcript.FailsLike (engine.log level message).desk.transcript :=
    .add ..
  exact reportText_of_failsLike alike rfl error

/-- What an engine makes of a failure of its history file, or of none: a failure is written about
and the file is given up, while the history is as it was. -/
inductive Copes (before : Engine) : Option (String × IoCause) → Engine → Prop where
  | well {after : Engine} (historyFile : after.historyFile = before.historyFile)
      (output : after.desk.transcript.output = before.desk.transcript.output) :
      Copes before none after
  | badly {path : String} {cause : IoCause} {after : Engine}
      (used : before.historyFile = some path) (historyFile : after.historyFile = none)
      (history : after.desk.history = before.desk.history)
      (output : after.desk.transcript.output =
        before.desk.transcript.output ++ before.reportText (.persistence path cause)) :
      Copes before (some (path, cause)) after

theorem output_report (engine : Engine) (error : Error) :
    (engine.report error).desk.transcript.output =
      engine.desk.transcript.output ++ engine.reportText error := by
  let message := "reporting " ++ error.debugText
  have logged :
      (engine.desk.transcript.log .debug message).output = engine.desk.transcript.output :=
    Transcript.output_log ..
  rw [← reportText_log engine .debug message, ← logged]
  exact Transcript.output_writeOr ..

theorem extends_noting (engine : Engine) (messages : List String) :
    engine.desk.transcript.Extends (engine.noting messages).desk.transcript
      (messages.map (.logged .debug)) := by
  unfold noting record
  dsimp only
  generalize engine.desk.transcript = transcript
  induction messages generalizing transcript with
  | nil => exact .refl transcript
  | cons message messages ih =>
      exact (Transcript.Extends.add transcript (.logged .debug message)).trans (ih _)

theorem output_noting (engine : Engine) (messages : List String) :
    (engine.noting messages).desk.transcript.output = engine.desk.transcript.output := by
  apply (engine.extends_noting messages).output_of_none
  intro event member
  obtain ⟨message, _, rfl⟩ := List.mem_map.mp member
  rfl

theorem output_giveUpHistoryFile (engine : Engine) (path : String) (cause : IoCause) :
    (engine.giveUpHistoryFile path cause).desk.transcript.output =
      engine.desk.transcript.output ++ engine.reportText (.persistence path cause) := by
  have warned (message : String) :
      (engine.log .warn message).desk.transcript.output = engine.desk.transcript.output :=
    Transcript.output_log ..
  unfold giveUpHistoryFile
  dsimp only
  rw [output_report, warned, reportText_log]

theorem failsLike_noting (engine : Engine) (messages : List String) :
    engine.desk.transcript.FailsLike (engine.noting messages).desk.transcript := by
  unfold noting record
  dsimp only
  generalize engine.desk.transcript = transcript
  induction messages generalizing transcript with
  | nil => exact ⟨rfl, rfl⟩
  | cons message messages ih => exact (Transcript.FailsLike.add transcript _).trans (ih _)

theorem reportText_noting (engine : Engine) (messages : List String) (error : Error) :
    (engine.noting messages).reportText error = engine.reportText error :=
  reportText_of_failsLike (engine.failsLike_noting messages) rfl error

theorem Minds.copes {before after : Engine} {failure? : Option (String × IoCause)}
    (minds : before.Minds failure? after) : before.Copes failure? after := by
  cases minds with
  | worked => exact .well rfl (output_noting ..)
  | failed used =>
      refine .badly used rfl rfl ?_
      rw [output_giveUpHistoryFile, output_noting, reportText_noting]
      rfl

/-! ## What is reported -/

/-- The number of history files that an engine has. -/
def files (engine : Engine) : Nat := engine.historyFile.toList.length

theorem files_le_one (engine : Engine) : engine.files ≤ 1 := by
  unfold files
  cases engine.historyFile <;> simp

theorem files_eq_zero_iff {engine : Engine} : engine.files = 0 ↔ engine.historyFile = none := by
  unfold files
  cases engine.historyFile <;> simp

/-- An engine has gone on with the same commands, and with events of which no more blame a history
file than files have been given up. -/
structure Spends (before after : Engine) : Prop where
  registry : after.registry = before.registry
  told : ∃ added, before.desk.transcript.Extends after.desk.transcript added ∧
    added.countP Event.blamesHistoryFile + after.files ≤ before.files

namespace Spends

theorem refl (engine : Engine) : engine.Spends engine := ⟨rfl, [], .refl _, by simp⟩

theorem trans {first second third : Engine} (begun : first.Spends second)
    (continued : second.Spends third) : first.Spends third := by
  obtain ⟨sameRegistry, early, extended, fewer⟩ := begun
  obtain ⟨sameRegistryToo, late, extendedOn, fewerYet⟩ := continued
  refine ⟨sameRegistryToo.trans sameRegistry, early ++ late, extended.trans extendedOn, ?_⟩
  rw [List.countP_append]
  omega

end Spends

theorem countP_eq_zero {added : List Event}
    (blameless : ∀ event ∈ added, event.blamesHistoryFile = false) :
    added.countP Event.blamesHistoryFile = 0 := by
  rw [List.countP_eq_zero]
  intro event member
  rw [blameless event member]
  exact Bool.false_ne_true

theorem countP_noting {messages : List String}
    (blameless : ∀ message ∈ messages, (Event.logged .debug message).blamesHistoryFile = false) :
    (messages.map (.logged .debug)).countP Event.blamesHistoryFile = 0 := by
  apply countP_eq_zero
  intro event member
  obtain ⟨message, isNoted, rfl⟩ := List.mem_map.mp member
  exact blameless message isNoted

/-- A report adds its record, and what is written or what becomes of that. -/
theorem extends_report (engine : Engine) (error : Error) :
    ∃ events, engine.desk.transcript.Extends (engine.report error).desk.transcript
        (.reporting error :: events) ∧
      ∀ event ∈ events, event.blamesHistoryFile = false := by
  let text := Colour.red.paintIf engine.settings.colours "Error:" ++ " " ++ error.message ++ "\n"
  have begun := Transcript.Extends.add engine.desk.transcript (.reporting error)
  obtain ⟨events, extended, blameless⟩ :=
    (engine.desk.transcript.add (.reporting error)).extends_writeOr "Failed to report error" text
  exact ⟨events, begun.trans extended, blameless⟩

theorem Minds.spends {before after : Engine} {failure? : Option (String × IoCause)}
    (minds : before.Minds failure? after) : before.Spends after := by
  cases minds with
  | worked blameless =>
      refine ⟨rfl, _, extends_noting .., ?_⟩
      rw [countP_noting blameless]
      exact Nat.le_of_eq (Nat.zero_add _)
  | @failed path cause storage messages used blameless =>
      let noted := (before.withHistory before.desk.history storage).noting messages
      let error : Error := .persistence path cause
      let warning := error.message ++ "; history is kept in memory only"
      obtain ⟨events, reported, harmless⟩ := extends_report (noted.log .warn warning) error
      have warned :=
        (extends_noting (before.withHistory before.desk.history storage) messages).trans
          (.add noted.desk.transcript (.logged .warn warning))
      refine ⟨rfl, _, warned.trans reported, ?_⟩
      have blamed : (Event.reporting error).blamesHistoryFile = true :=
        Event.blamesHistoryFile_reporting error
      have harmlessToo : (Event.logged .warn warning).blamesHistoryFile = false := rfl
      rw [List.countP_append, List.countP_append, countP_noting blameless,
        List.countP_cons_of_pos blamed, countP_eq_zero harmless]
      simp [files, used, harmlessToo, giveUpHistoryFile]

end Engine

/-! ## Sessions without a history file -/

/-- Desks are alike that have gone on from two pasts with the same events, none of which blames a
history file, and where the same will go wrong when something is written. -/
def Desk.Likeness.since (past pastToo : Transcript) : Desk.Likeness where
  transcript before other := before.FailsLike other ∧
    ∃ added, past.Extends before added ∧ pastToo.Extends other added ∧
      ∀ event ∈ added, event.blamesHistoryFile = false
  input := Eq
  saved _ _ := True
  allows event := event.blamesHistoryFile = false
  attempt := by
    rintro before other ⟨alike, added, extended, extendedToo, blameless⟩
    have extendedOn := extended.trans before.extends_attempt
    have extendedOnToo := extendedToo.trans other.extends_attempt
    rw [List.append_nil] at extendedOn extendedOnToo
    exact ⟨alike.attempt.1, alike.attempt.2, added, extendedOn, extendedOnToo, blameless⟩
  add := by
    rintro before other event ⟨alike, added, extended, extendedToo, blameless⟩ allowed
    refine ⟨⟨alike.faults, alike.closed⟩, added ++ [event], extended.trans (.add before event),
      extendedToo.trans (.add other event), ?_⟩
    exact List.forall_mem_append.mpr ⟨blameless, List.forall_mem_singleton.mpr allowed⟩
  inject text same := congrArg (·.inject text) same
  cleared := trivial
  allows_of_blameless := id

/-- A command that goes neither by what has happened before nor by how much of the history is saved,
and whose errors blame no history file. -/
def Handler.Discreet (handler : Handler) : Prop :=
  ∀ past pastToo, handler.Indifferent (.since past pastToo)

theorem Registry.discreet_builtin : builtin.Obeys fun _ handler => handler.Discreet :=
  fun command member _ _ => indifferent_builtin _ command member

namespace Engine

/-- Engines are alike that have gone on from two pasts with the same events, each with the history
file that it has. -/
def Likeness.since (past pastToo : Transcript) (held heldToo : Custody) : Likeness where
  toLikeness := .since past pastToo
  custody first second := first = held ∧ second = heldToo
  answer := Eq
  unbroken := congrArg Answer.unbroken
  asked := by
    rintro before other first _ prompt told rfl
    exact (Desk.Likeness.since past pastToo).add told rfl
  read := by
    rintro chain _ rfl
    exact ⟨rfl, rfl, rfl⟩

/-- The engine without a history file.  It holds the same lines, with another past behind it, and
others of the lines are saved. -/
def unfiled (engine : Engine) (past : Transcript) (saved : Nat) : Engine :=
  engine.counterpart past engine.desk.input saved ⟨none, engine.loadOnStart, engine.saveOnExit⟩

/-- A session of an engine has come as far as that of the same engine without a history file has: it
is about to do the same or has given back the same, the same has happened in it, with no report of a
history file, and all is the same behind it but the history file, which the one engine still has if
it had it. -/
structure SameSession (engine : Engine) (past : Transcript) (run other : Run) : Prop where
  phase : run.phase = other.phase
  events : ∃ added, engine.desk.transcript.Extends run.engine.desk.transcript added ∧
    past.Extends other.engine.desk.transcript added ∧
      ∀ event ∈ added, event.blamesHistoryFile = false
  custody : run.engine.custody = engine.custody
  rest : ∃ saved, other.engine = run.engine.unfiled other.engine.desk.transcript saved

theorem sameSession (engine : Engine)
    (obeys : engine.registry.Obeys fun _ handler => handler.Discreet) {past : Transcript}
    (alike : engine.desk.transcript.FailsLike past) (saved : Nat) (target : Value) (steps : Nat) :
    engine.SameSession past ((engine.begin target).after steps)
      (((engine.unfiled past saved).begin target).after steps) := by
  let likeness := Likeness.since engine.desk.transcript past engine.custody
    ⟨none, engine.loadOnStart, engine.saveOnExit⟩
  have told : likeness.transcript engine.desk.transcript past :=
    ⟨alike, [], .refl _, .refl _, nofun⟩
  have held : likeness.custody engine.custody ⟨none, engine.loadOnStart, engine.saveOnExit⟩ :=
    ⟨rfl, rfl⟩
  have resembles : engine.Resembles likeness (engine.unfiled past saved) := by
    unfold unfiled
    exact .counterpart told rfl trivial held
  have begun :
      (engine.begin target).Resembles likeness ((engine.unfiled past saved).begin target) :=
    ⟨resembles.enter target, rfl⟩
  have went := begun.after (fun command member => obeys command member _ _) steps
  generalize (engine.begin target).after steps = run at went ⊢
  generalize ((engine.unfiled past saved).begin target).after steps = other at went ⊢
  obtain ⟨after, phase⟩ := run
  obtain ⟨afterToo, phaseToo⟩ := other
  obtain ⟨resembles, samePhase⟩ := went
  dsimp only at resembles samePhase
  have told := resembles.desk.transcript.2
  cases resembles with
  | @counterpart transcript input saved custody _ fed _ held =>
      obtain ⟨custodyKept, rfl⟩ := held
      cases fed
      have loads : after.loadOnStart = engine.loadOnStart :=
        congrArg Custody.loadOnStart custodyKept
      have saves : after.saveOnExit = engine.saveOnExit :=
        congrArg Custody.saveOnExit custodyKept
      have rest : after.counterpart transcript after.desk.input saved
          ⟨none, engine.loadOnStart, engine.saveOnExit⟩ = after.unfiled transcript saved := by
        rw [unfiled, loads, saves]
      exact ⟨samePhase, told, custodyKept, saved, rest⟩

end Engine

/-! ## Errands -/

/-- What an engine can be asked for: to load its history, to save it, or to run a session on a
target within a number of steps. -/
inductive Errand where
  | load
  | save
  | session (fuel : Nat) (target : Value)

/-- Whether an errand is a session. -/
def Errand.isSession : Errand → Bool
  | load | save => false
  | session .. => true

namespace Engine

/-- The engine after an errand, if that ends. -/
def perform (engine : Engine) : Errand → Option Engine
  | .load => some engine.loadHistory
  | .save => some engine.saveHistory
  | .session fuel target => (Run.finish fuel (engine.begin target)).map (·.2)

/-- The engine after errands, if they all end. -/
def performAll (engine : Engine) (errands : List Errand) : Option Engine :=
  errands.foldlM perform engine

variable {engine after : Engine} {errand : Errand} {errands : List Errand}

theorem spends_session (obeys : engine.registry.Obeys fun _ handler => handler.Discreet)
    {fuel : Nat}
    {target : Value} {result : Except Nat Value}
    (ended : Run.finish fuel (engine.begin target) = some (result, after)) :
    engine.Spends after ∧ after.custody = engine.custody := by
  obtain ⟨steps, reached⟩ := Run.finish_eq_some ended
  have registry := Run.registry_after (engine.begin target) steps
  have same := engine.sameSession obeys (.refl _) 0 target steps
  rw [reached] at registry same
  obtain ⟨added, extended, _, blameless⟩ := same.events
  have custody : after.custody = engine.custody := same.custody
  have files : after.files = engine.files :=
    congrArg (fun custody => custody.historyFile.toList.length) custody
  refine ⟨⟨registry, added, extended, ?_⟩, custody⟩
  rw [countP_eq_zero blameless, files, Nat.zero_add]

/-- No errand blames more history files than it gives up. -/
theorem spends_perform (obeys : engine.registry.Obeys fun _ handler => handler.Discreet)
    (performed : engine.perform errand = some after) : engine.Spends after := by
  cases errand with
  | load =>
      cases performed
      exact (minds_loadHistory engine).spends
  | save =>
      cases performed
      exact (minds_saveHistory engine).spends
  | session fuel target =>
      obtain ⟨⟨result, last⟩, ended, rfl⟩ := Option.map_eq_some_iff.mp performed
      exact (spends_session obeys ended).1

theorem spends_performAll (obeys : engine.registry.Obeys fun _ handler => handler.Discreet)
    (performed : engine.performAll errands = some after) : engine.Spends after := by
  induction errands generalizing engine with
  | nil =>
      cases performed
      exact .refl _
  | cons errand errands ih =>
      rw [performAll, List.foldlM_cons] at performed
      obtain ⟨middle, first, rest⟩ := Option.bind_eq_some_iff.mp performed
      have begun := spends_perform obeys first
      refine begun.trans (ih ?_ rest)
      rw [begun.registry]
      exact obeys

/-! ## Without a history file -/

theorem loadHistory_of_none (unfiled : engine.historyFile = none) :
    engine.loadHistory = engine := by
  unfold loadHistory
  rw [unfiled]
  cases engine.loadOnStart <;> rfl

theorem saveHistory_of_none (unfiled : engine.historyFile = none) :
    engine.saveHistory = engine := by
  unfold saveHistory
  rw [unfiled]
  cases engine.saveOnExit <;> rfl

/-- Without a history file an engine might as well not be asked to load or to save. -/
theorem performAll_of_none (obeys : engine.registry.Obeys fun _ handler => handler.Discreet)
    (unfiled : engine.historyFile = none) :
    engine.performAll errands = engine.performAll (errands.filter Errand.isSession) := by
  induction errands generalizing engine with
  | nil => rfl
  | cons errand errands ih =>
      have rest := ih obeys unfiled
      rw [performAll] at rest
      rw [performAll, List.foldlM_cons]
      cases errand with
      | load =>
          rw [perform, loadHistory_of_none unfiled]
          exact rest
      | save =>
          rw [perform, saveHistory_of_none unfiled]
          exact rest
      | session fuel target =>
          rw [List.filter_cons_of_pos rfl, performAll, List.foldlM_cons]
          cases performed : engine.perform (.session fuel target) with
          | none => rfl
          | some after =>
              obtain ⟨⟨result, last⟩, ended, rfl⟩ := Option.map_eq_some_iff.mp performed
              obtain ⟨spends, custody⟩ := spends_session obeys ended
              apply ih
              · rw [spends.registry]
                exact obeys
              · exact (congrArg Custody.historyFile custody).trans unfiled

/-! ## All errands -/

/-- A history file is given up at its first failure, and the history is none the worse for it.

A history that cannot be loaded or saved is as it was, down to the number of its saved lines.  At
such a failure an engine writes a report, unless that fails as well, and has no history file any
more; at no other time does loading or saving write anything or change which file there is.  Over
any errands no more than one report blames a history file.  After it there is none, and then loading
and saving do nothing at all, however many errands there still are.  And whatever becomes of the
history file, a session does step by step just what it does for an engine without one that holds the
same lines, whatever has been reported or saved before.  This holds with the built-in commands, and
with whatever other commands are discreet. -/
theorem history_file_fails_once :
    (∀ (history : History) (path : String) (storage : Storage),
      (∀ cause, (history.load path storage).1 = .error cause →
        (history.load path storage).2.1 = history) ∧
      ∀ error, (history.save path storage).1 = .error error →
        (history.save path storage).2.1 = history) ∧
    (∀ engine : Engine, engine.Copes engine.loadFailure? engine.loadHistory ∧
      engine.Copes engine.saveFailure? engine.saveHistory) ∧
    (Registry.builtin.Obeys fun _ handler => handler.Discreet) ∧
    ∀ engine : Engine, (engine.registry.Obeys fun _ handler => handler.Discreet) →
      (∀ errands after, engine.performAll errands = some after →
        after.registry = engine.registry ∧
        ∃ added, engine.desk.transcript.Extends after.desk.transcript added ∧
          added.countP Event.blamesHistoryFile ≤ 1 ∧
          (added.countP Event.blamesHistoryFile = 1 ∨ engine.historyFile = none →
            after.historyFile = none ∧ after.loadHistory = after ∧ after.saveHistory = after ∧
            ∀ later, after.performAll later = after.performAll (later.filter Errand.isSession))) ∧
      ∀ past : Transcript, engine.desk.transcript.FailsLike past → ∀ saved target steps,
        engine.SameSession past ((engine.begin target).after steps)
          (((engine.unfiled past saved).begin target).after steps) := by
  refine ⟨?_, ?_, Registry.discreet_builtin, ?_⟩
  · intro history path storage
    exact ⟨fun _ => History.load_of_error, fun _ => History.save_of_error⟩
  · intro engine
    exact ⟨(minds_loadHistory engine).copes, (minds_saveHistory engine).copes⟩
  · intro engine obeys
    refine ⟨?_, fun past alike saved target => engine.sameSession obeys alike saved target⟩
    intro errands after performed
    obtain ⟨registry, added, extended, fewer⟩ := spends_performAll obeys performed
    have most := files_le_one engine
    refine ⟨registry, added, extended, by omega, fun spent => ?_⟩
    have gone : after.historyFile = none := by
      rw [← files_eq_zero_iff]
      rcases spent with blamed | unfiled
      · omega
      · rw [← files_eq_zero_iff] at unfiled
        omega
    refine ⟨gone, loadHistory_of_none gone, saveHistory_of_none gone, fun later => ?_⟩
    apply performAll_of_none _ gone
    rw [registry]
    exact obeys

/-- A console without commands whose history file may not be read at first. -/
def barred : Engine where
  desk :=
    { editor := .scripted []
      input := { base := .ofScript "1 + 2" }
      storage := { faults := [some .permissionDenied] } }
  registry := .empty
  prompts := .standard "console"
  historyFile := some "history"

/-- The failure to load is reported and remembered, so the session goes as it would without a
history file, and nothing is saved behind it. -/
theorem history_file_fails_once_if_barred :
    barred.loadHistory.desk.transcript.output =
        "Error: History file history: Permission denied (os error 13)\n" ∧
      ∃ after, barred.loadHistory.performAll [.session 10 .main, .save] = some after ∧
        after.historyFile = none ∧ after.desk.history.entries = ["1 + 2"] ∧
        ∀ steps, barred.loadHistory.SameSession {} ((barred.loadHistory.begin .main).after steps)
          (((barred.loadHistory.unfiled {} 0).begin .main).after steps) := by
  obtain ⟨_, loads, _, runs⟩ := history_file_fails_once
  have obeys : barred.registry.Obeys fun _ handler => handler.Discreet := nofun
  have failure : barred.loadFailure? = some ("history", .permissionDenied) := rfl
  have copes := (loads barred).1
  rw [failure] at copes
  have ran : (barred.loadHistory.performAll [.session 10 .main, .save]).map
      (·.desk.history.entries) = some ["1 + 2"] := rfl
  obtain ⟨after, performed, entries⟩ := Option.map_eq_some_iff.mp ran
  cases copes with
  | badly used historyFile history output =>
      obtain ⟨_, added, extended, _, gone⟩ := (runs barred.loadHistory obeys).1 _ after performed
      exact ⟨output, after, performed, (gone (.inr historyFile)).1, entries,
        (runs barred.loadHistory obeys).2 {} ⟨rfl, rfl⟩ 0 .main⟩

end Engine

end Console
