import Console.Proofs.Command.Patterns
import Console.Proofs.Engine.Hearing
import Console.Proofs.Engine.Unwinding
import Mathlib.Logic.Hydra

/-!
# How runs come to their end

Each step uses something up: a line of the base source, lines of the history that are forgotten, a
line that was put in front of the input, or a session on the way out.  A line in front of the input
may be replaced by lines that it replays.  As these are found in the history, there are only so many
of them, and they get used up as well, unless a line is sooner or later replaced by itself.  This is
the only way in which a run goes on for ever.
-/

namespace Console

namespace Engine

variable {before after : Engine} {input : InputChain} {origin : Origin} {line : String}

/-- The lines in front of the input after a line was taken are those that it has replayed and those
that were there. -/
theorem Took.injected (took : before.Took origin line input after)
    (domestic : ¬before.registry.imports line) :
    ∃ pieces, after.desk.input.injected.flatten = pieces ++ input.injected.flatten ∧
      ∀ piece ∈ pieces,
        before.registry.Replays before.desk.history.all line (withoutFinalBreaks piece) := by
  have fed := took.recalled.input domestic
  cases replayed : before.registry.replayedText? before.desk.history.all line with
  | none =>
      rw [replayed] at fed
      exact ⟨[], congrArg (·.injected.flatten) fed, nofun⟩
  | some text =>
      rw [replayed] at fed
      refine ⟨linesOf text, ?_, fun piece member => ⟨text, replayed, piece, member, rfl⟩⟩
      exact (congrArg (·.injected.flatten) fed).trans (input.flatten_inject text)

/-- The base source is what reading has left of it. -/
theorem Answered.base {answer : Answer} {run : Run}
    (answered : Answered before input origin answer run) :
    run.engine.desk.input.base = input.base := by
  cases answered with
  | line took => exact took.recalled.base
  | interrupted aside => exact congrArg InputChain.base aside.input
  | ended noLine aside => exact congrArg InputChain.base aside.input

/-- No command brings in text from outside the history, whatever of the base source, the lines in
front of it and the history is entered. -/
structure Domestic (engine : Engine) : Prop where
  builtin : engine.registry = .builtin
  base : ∀ answer ∈ engine.desk.input.base, ∀ line, answer.line? = some line →
    engine.registry.Domestic line
  injected : ∀ line ∈ engine.desk.input.injected.flatten,
    ¬engine.registry.imports (withoutFinalBreaks line)
  history : ∀ line ∈ engine.desk.history.entries, engine.registry.Domestic line

namespace Domestic

theorem of_aside (domestic : before.Domestic) (aside : before.Aside after) : after.Domestic where
  builtin := aside.registry.trans domestic.builtin
  base := by rw [aside.input, aside.registry]; exact domestic.base
  injected := by rw [aside.input, aside.registry]; exact domestic.injected
  history := by rw [aside.history, aside.registry]; exact domestic.history

/-- Reading leaves less to be read. -/
theorem fed {answer : Answer} (domestic : before.Domestic)
    (gives : before.desk.input.Gives answer origin input) :
    Domestic { before with desk := { before.desk with input } } := by
  cases gives with
  | injected next =>
      refine { domestic with injected := fun line member => domestic.injected line ?_ }
      rw [next]
      exact List.mem_cons_of_mem _ member
  | base next none =>
      have base := domestic.base
      rw [next] at base
      refine { domestic with base := fun answer member => base answer ?_, injected := nofun }
      exact List.mem_cons_of_mem _ member
  | ended next none => exact { domestic with base := nofun, injected := nofun }

/-- A line that is read is domestic if it was typed, and imports nothing anyway. -/
theorem of_gives {text : String} (domestic : before.Domestic)
    (gives : before.desk.input.Gives (.line text) origin input) :
    (origin = .interactive → before.registry.Domestic (withoutFinalBreaks text)) ∧
      ¬before.registry.imports (withoutFinalBreaks text) := by
  cases gives with
  | injected next =>
      refine ⟨nofun, domestic.injected text ?_⟩
      rw [next]
      exact List.mem_cons_self
  | base next none =>
      have typed := domestic.base (.line text) (by rw [next]; exact List.mem_cons_self) _ rfl
      exact ⟨fun _ => typed, typed.1⟩

theorem took (domestic : Domestic { before with desk := { before.desk with input } })
    (typed : origin = .interactive → before.registry.Domestic line)
    (notImporting : ¬before.registry.imports line) (took : before.Took origin line input after) :
    after.Domestic where
  builtin := took.registry.trans domestic.builtin
  base := by
    rw [took.recalled.base, took.registry]
    exact domestic.base
  injected := by
    obtain ⟨pieces, split, replayed⟩ := took.injected notImporting
    rw [split, took.registry]
    intro piece member
    rcases List.mem_append.mp member with isReplayed | stays
    · obtain ⟨entry, inPast, other, inEntry, same⟩ := (replayed piece isReplayed).exists_entry
      rw [← same]
      exact (domestic.history entry (List.mem_of_mem_take inPast)).2 other inEntry
    · exact domestic.injected piece stays
  history := by
    rw [took.recalled.history, took.registry]
    split
    · exact nofun
    · dsimp only
      unfold remembered
      split
      next recorded =>
        intro entry member
        rcases List.mem_append.mp member with earlier | last
        · exact domestic.history entry earlier
        · rw [List.mem_singleton.mp last]
          exact typed recorded.1
      · exact domestic.history

theorem step {run : Run} (domestic : run.engine.Domestic) : run.step.engine.Domestic := by
  obtain ⟨engine, phase⟩ := run
  cases phase with
  | finished result => exact domestic
  | unwinding depth => exact domestic.of_aside (.unwind engine depth)
  | reading =>
      cases read : engine.desk.input.read with
      | mk answer rest =>
          obtain ⟨origin, input⟩ := rest
          have gives := InputChain.gives_of_read read
          have answered := Run.answered_readLine domestic.builtin read
          have fed := domestic.fed gives
          change (Run.readLine engine).engine.Domestic
          generalize Run.readLine engine = run at answered ⊢
          cases answered with
          | line took =>
              obtain ⟨typed, notImporting⟩ := domestic.of_gives gives
              exact fed.took typed notImporting took
          | interrupted aside => exact fed.of_aside aside
          | ended noLine aside => exact fed.of_aside aside

theorem after_steps {run : Run} (domestic : run.engine.Domestic) (count : Nat) :
    (run.after count).engine.Domestic := by
  induction count with
  | zero => exact domestic
  | succ count ih => exact ih.step

end Domestic

/-- How much there is to replay: the heights of the lines that were put in front of the input. -/
noncomputable def heights (engine : Engine) : Multiset ℕ :=
  engine.desk.input.injected.flatten.map fun line =>
    engine.registry.height engine.desk.history.all (withoutFinalBreaks line)

end Engine

namespace Run

/-- A run reads a line that was put in front of the input and that replays itself. -/
def Circles (run : Run) : Prop :=
  run.phase = .reading ∧ ∃ line input,
    run.engine.desk.input.read = (.line line, .injected, input) ∧
      run.engine.registry.Circular run.engine.desk.history.all (withoutFinalBreaks line)

/-- The steps to leave all sessions without reading any line. -/
def leaving (run : Run) : ℕ :=
  match run.phase with
  | .reading => 2 * run.engine.sessions.size + 1
  | .unwinding _ => 2 * run.engine.sessions.size
  | .finished _ => 0

/-- What a run has to get through. -/
noncomputable def load (run : Run) : ℕ × ℕ × Multiset ℕ × ℕ :=
  (run.engine.desk.input.base.length, run.engine.desk.history.size, run.engine.heights, run.leaving)

/-- A run has less to get through than another one. -/
def Lighter : Run → Run → Prop :=
  InvImage
    (Prod.Lex (· < ·) (Prod.Lex (· < ·) (Prod.Lex (Relation.CutExpand (· < ·)) (· < ·)))) load

theorem wellFounded_lighter : WellFounded Lighter := by
  have heights : WellFounded (Relation.CutExpand fun (first second : ℕ) => first < second) :=
    Nat.lt_wfRel.wf.cutExpand
  have order := WellFounded.prod_lex Nat.lt_wfRel.wf
    (WellFounded.prod_lex Nat.lt_wfRel.wf (heights.prod_lex Nat.lt_wfRel.wf))
  exact InvImage.wf load order

section Lighter

variable {before after : Run}

theorem lighter_of_base
    (base : after.engine.desk.input.base.length < before.engine.desk.input.base.length) :
    after.Lighter before := Prod.Lex.left _ _ base

theorem lighter_of_history
    (base : after.engine.desk.input.base.length = before.engine.desk.input.base.length)
    (history : after.engine.desk.history.size < before.engine.desk.history.size) :
    after.Lighter before := by
  unfold Lighter InvImage load
  rw [base]
  exact .right _ (.left _ _ history)

theorem lighter_of_heights
    (base : after.engine.desk.input.base.length = before.engine.desk.input.base.length)
    (history : after.engine.desk.history.size = before.engine.desk.history.size)
    (heights : Relation.CutExpand (· < ·) after.engine.heights before.engine.heights) :
    after.Lighter before := by
  unfold Lighter InvImage load
  rw [base, history]
  exact .right _ (.right _ (.left _ _ heights))

theorem lighter_of_leaving
    (base : after.engine.desk.input.base.length = before.engine.desk.input.base.length)
    (history : after.engine.desk.history.size = before.engine.desk.history.size)
    (heights : after.engine.heights = before.engine.heights)
    (leaving : after.leaving < before.leaving) : after.Lighter before := by
  unfold Lighter InvImage load
  rw [base, history, heights]
  exact .right _ (.right _ (.right _ leaving))

end Lighter

/-- A line that was put in front of the input is replaced by lower ones, unless it makes `hist`
forget something. -/
theorem lighter_of_injected {engine : Engine} {run : Run} {line : String} {input : InputChain}
    (took : engine.Took .injected (withoutFinalBreaks line) input run.engine)
    (next : engine.desk.input.injected.flatten = line :: input.injected.flatten)
    (base : input.base = engine.desk.input.base)
    (domestic : ¬engine.registry.imports (withoutFinalBreaks line))
    (straight : ¬engine.registry.Circular engine.desk.history.all (withoutFinalBreaks line)) :
    run.Lighter ⟨engine, .reading⟩ := by
  have sameBase := congrArg List.length (took.recalled.base.trans base)
  have kept : run.engine.desk.history =
      if engine.registry.clears (withoutFinalBreaks line) then {} else engine.desk.history :=
    took.recalled.history
  by_cases forgotten : run.engine.desk.history.size < engine.desk.history.size
  · exact lighter_of_history sameBase forgotten
  -- Otherwise the history is the same, if only because it was empty when it was forgotten.
  · have same : run.engine.desk.history.entries = engine.desk.history.entries := by
      by_cases clears : engine.registry.clears (withoutFinalBreaks line)
      · rw [kept, if_pos clears] at forgotten ⊢
        exact (List.length_eq_zero_iff.mp (Nat.eq_zero_of_not_pos forgotten)).symm
      · rw [kept, if_neg clears]
    have past : run.engine.desk.history.all = engine.desk.history.all := by
      unfold History.all History.upTo History.size
      rw [same]
    obtain ⟨pieces, split, replayed⟩ := took.injected domestic
    refine lighter_of_heights sameBase (congrArg List.length same) ?_
    let height := fun line =>
      engine.registry.height engine.desk.history.all (withoutFinalBreaks line)
    have before :
        engine.heights = {height line} + (input.injected.flatten.map height : List ℕ) := by
      unfold Engine.heights
      rw [next]
      rfl
    have after : run.engine.heights =
        (pieces.map height : List ℕ) + (input.injected.flatten.map height : List ℕ) := by
      unfold Engine.heights
      rw [split, took.registry, past, List.map_append]
      rfl
    rw [before, after]
    refine ⟨(pieces.map height : List ℕ), height line, ?_, by ac_rfl⟩
    intro low member
    obtain ⟨piece, inPieces, rfl⟩ := List.mem_map.mp (Multiset.mem_coe.mp member)
    exact (replayed piece inPieces).height_lt straight

/-- The end of the input begins the way out. -/
theorem lighter_of_ended {engine after : Engine} {input : InputChain} {depth : Nat}
    (aside : Engine.Aside { engine with desk := { engine.desk with input } } after)
    (base : input.base = engine.desk.input.base)
    (injected : input.injected.flatten = engine.desk.input.injected.flatten)
    (sessions : after.sessions = engine.sessions) :
    Lighter ⟨after, .unwinding depth⟩ ⟨engine, .reading⟩ := by
  refine lighter_of_leaving ?_ ?_ ?_ ?_
  · exact congrArg List.length ((congrArg InputChain.base aside.input).trans base)
  · exact congrArg History.size aside.history
  · unfold Engine.heights
    dsimp only
    rw [aside.history, aside.input, aside.registry, injected]
  · unfold leaving
    dsimp only
    rw [sessions]
    exact Nat.lt_succ_self _

/-- Leaving a session is a step on the way out. -/
theorem lighter_unwind {engine : Engine} {depth : Nat}
    (unfinished : ∀ result, (unwind engine depth).phase ≠ .finished result) :
    (unwind engine depth).Lighter ⟨engine, .unwinding depth⟩ := by
  have aside := Engine.Aside.unwind engine depth
  refine lighter_of_leaving ?_ ?_ ?_ ?_
  · rw [aside.input]
  · rw [aside.history]
  · unfold Engine.heights
    dsimp only
    rw [aside.history, aside.input, aside.registry]
  · cases running : engine.sessions.running with
    | nil =>
        refine absurd ?_ (unfinished (.error depth))
        unfold unwind SessionStack.current?
        rw [running]
        rfl
    | cons session rest =>
        have remaining := (engine.leaves_leave session depth).running running
        rw [unwind_eq running] at unfinished ⊢
        unfold leaving
        dsimp only at unfinished ⊢
        rw [SessionStack.size, SessionStack.size, remaining, running, List.length_cons]
        split <;> omega

/-- A step leaves less to get through, or it is the last one. -/
theorem lighter_step {run : Run} (domestic : run.engine.Domestic) (straight : ¬run.Circles)
    (unfinished : ∀ result, run.step.phase ≠ .finished result) : run.step.Lighter run := by
  obtain ⟨engine, phase⟩ := run
  cases phase with
  | finished result => exact absurd rfl (unfinished result)
  | unwinding depth => exact lighter_unwind unfinished
  | reading =>
      cases read : engine.desk.input.read with
      | mk answer rest =>
          obtain ⟨origin, input⟩ := rest
          have gives := InputChain.gives_of_read read
          have answered := answered_readLine domestic.builtin read
          have turns := Engine.turns_readLine (domestic.builtin ▸ Registry.orderly_builtin)
          change (readLine engine).Lighter _
          generalize readLine engine = run at answered turns ⊢
          cases gives with
          | injected next =>
              cases answered with
              | line took =>
                  have notImporting := (domestic.of_gives (.injected next)).2
                  refine lighter_of_injected took next rfl notImporting ?_
                  exact fun circular => straight ⟨rfl, _, _, read, circular⟩
              | ended noLine => cases noLine
          | base next none =>
              apply lighter_of_base
              rw [answered.base, next]
              exact Nat.lt_succ_self _
          | ended next none =>
              cases answered with
              | ended _ aside =>
                  cases turns with
                  | leaves stays => exact lighter_of_ended aside next.symm none.symm stays.sessions

/-- A run is finished at some time, or it comes to a line that replays itself. -/
theorem finished_or_circles (run : Run) (domestic : run.engine.Domestic) :
    ∃ count,
      (∃ result, (run.after count).phase = .finished result) ∨ (run.after count).Circles := by
  -- The induction is on what the run has to get through.
  induction run using wellFounded_lighter.induction with
  | h run ih =>
      by_cases circles : run.Circles
      · exact ⟨0, .inr circles⟩
      by_cases finished : ∃ result, run.step.phase = .finished result
      · exact ⟨1, .inl finished⟩
      have lighter := lighter_step domestic circles fun result last => finished ⟨result, last⟩
      obtain ⟨count, reached⟩ := ih run.step lighter domestic.step
      refine ⟨1 + count, ?_⟩
      rwa [after_add]

/-- A run that is finished at some time has a result if it is given the time. -/
theorem finish_of_finished {run : Run} {result : Except Nat Value} {count : Nat}
    (finished : (run.after count).phase = .finished result) : (run.finish count).isSome := by
  induction count generalizing run with
  | zero =>
      obtain ⟨engine, phase⟩ := run
      cases finished
      rfl
  | succ count ih =>
      unfold finish
      split
      · rfl
      · apply ih
        rwa [Nat.add_comm, after_add] at finished

end Run

namespace Engine

/-- A run on a finite input ends exactly if, from some time on, it reads no line in front of the
input that replays itself. -/
theorem start_ends_iff (engine : Engine) (domestic : engine.loadHistory.Domestic) (target : Value) :
    (∃ fuel, (engine.start fuel target).isSome) ↔
      ∃ count, ∀ later ≥ count, ¬((engine.loadHistory.begin target).after later).Circles := by
  constructor
  · rintro ⟨fuel, done⟩
    unfold start at done
    rw [Option.isSome_map] at done
    obtain ⟨⟨result, last⟩, found⟩ := Option.isSome_iff_exists.mp done
    obtain ⟨count, reached⟩ := Run.finish_eq_some found
    refine ⟨count, fun later notBefore ⟨reading, _⟩ => ?_⟩
    have finished : ((engine.loadHistory.begin target).after count).phase = .finished result := by
      rw [reached]
    obtain ⟨more, rfl⟩ := Nat.exists_eq_add_of_le notBefore
    rw [Run.after_add, Run.after_finished finished, finished] at reading
    cases reading
  · rintro ⟨count, straight⟩
    have begun : (engine.loadHistory.begin target).engine.Domestic :=
      domestic.of_aside (Aside.enter _ target)
    obtain ⟨more, ⟨result, finished⟩ | circles⟩ :=
      Run.finished_or_circles _ (begun.after_steps count)
    · rw [← Run.after_add] at finished
      refine ⟨count + more, ?_⟩
      unfold start
      rw [Option.isSome_map]
      exact Run.finish_of_finished finished
    · rw [← Run.after_add] at circles
      exact absurd circles (straight _ (Nat.le_add_right ..))

/-- A line that replays the first line of the history. -/
def echo : String := "hist --replay 0"

/-- A console that is given this line twice, so that the first one is replayed by the second. -/
def echoing : Engine := onScript [echo, echo]

/-- What the line says to the built-in commands, and how the run that it keeps going begins. -/
theorem told_echo :
    Registry.builtin.invokesHist echo ∧ Registry.builtin.clears echo = false ∧
      Registry.builtin.replayedText? ⟨0, [echo, echo]⟩ echo = some (echo ++ "\n") ∧
      let second := (echoing.loadHistory.begin .main).after 2
      second.phase matches .reading ∧ second.engine.desk.history.entries = [echo, echo] ∧
        second.engine.desk.input.injected = [[echo]] := by
  simp only [echoing, onScript, Registry.builtin, Commands.registerBuffering,
    Commands.registerNesting, Commands.registerPattern_amend, Commands.ofSimplePattern_percent,
    Commands.registerPattern_cd]
  decide +kernel

theorem domestic_echoing : echoing.loadHistory.Domestic := by
  have domestic : ¬Registry.builtin.imports echo :=
    Registry.not_imports_of_invokesHist told_echo.1
  refine ⟨rfl, ?_, nofun, nofun⟩
  intro answer member line typed
  have same : answer = .line echo := by
    change answer ∈ [Answer.line echo, Answer.line echo] at member
    simpa using member
  rw [same] at typed
  cases typed
  refine ⟨domestic, ?_⟩
  intro piece inEcho
  rw [List.mem_singleton.mp inEcho]
  exact domestic

/-- A run is about to read the line that replays the first line, which is this line. -/
structure Echoes (run : Run) : Prop where
  builtin : run.engine.registry = .builtin
  reading : run.phase = .reading
  entries : run.engine.desk.history.entries = [echo, echo]
  next : ∃ rest, InputChain.nextInjected? run.engine.desk.input.injected = some (echo, rest)

theorem Echoes.step {run : Run} (echoes : Echoes run) : Echoes run.step := by
  obtain ⟨engine, phase⟩ := run
  obtain ⟨builtin, reading, entries, rest, next⟩ := echoes
  dsimp only at builtin reading entries next
  subst reading
  obtain ⟨invokes, clears, replayed, _⟩ := told_echo
  have read : engine.desk.input.read =
      (.line echo, .injected, { engine.desk.input with injected := rest }) := by
    unfold InputChain.read
    rw [next]
  have same : withoutFinalBreaks echo = echo := rfl
  have takes : Run.line? ⟨engine, .reading⟩ = some echo :=
    Run.line?_eq_some_iff.mpr ⟨echo, .injected, _, rfl, read, same⟩
  have answered := Run.answered_readLine builtin read
  have reads := Run.reading_of_invokesHist builtin takes invokes
  change (Run.readLine engine).phase = .reading at reads
  change Echoes (Run.readLine engine)
  generalize Run.readLine engine = run at answered reads ⊢
  cases answered with
  | ended noLine => cases noLine
  | line took =>
      have history : run.engine.desk.history = if engine.registry.clears echo then {}
          else engine.desk.history := took.recalled.history
      have input := took.recalled.input
      have past : engine.desk.history.all = ⟨0, [echo, echo]⟩ := by
        unfold History.all History.upTo History.size
        rw [entries]
        rfl
      rw [same, builtin, past, replayed] at input
      refine ⟨took.registry.trans builtin, reads, ?_, [] :: rest, ?_⟩
      · rw [history, builtin, clears]
        exact entries
      · rw [input (Registry.not_imports_of_invokesHist invokes)]
        rfl

/-- A run on this input never ends. -/
theorem start_echoing (fuel : Nat) : echoing.start fuel .main = none := by
  obtain ⟨_, _, _, reading, entries, injected⟩ := told_echo
  have second : Echoes ((echoing.loadHistory.begin .main).after 2) := by
    refine ⟨(domestic_echoing.of_aside (Aside.enter _ .main)).after_steps 2 |>.builtin, ?_, entries,
      [[]], ?_⟩
    · exact Run.phase_eq_reading reading
    · rw [injected]
      rfl
  have always (count : Nat) : Echoes ((echoing.loadHistory.begin .main).after (2 + count)) := by
    induction count with
    | zero => exact second
    | succ count ih => exact ih.step
  rw [Option.eq_none_iff_forall_ne_some]
  rintro ⟨value, last⟩ done
  obtain ⟨⟨result, final⟩, found, _⟩ := Option.map_eq_some_iff.mp done
  obtain ⟨count, reached⟩ := Run.finish_eq_some found
  have finished : ((echoing.loadHistory.begin .main).after count).phase = .finished result := by
    rw [reached]
  have stays := Run.after_finished finished 2
  rw [← Run.after_add, Nat.add_comm] at stays
  have reads := (always count).reading
  rw [stays, finished] at reads
  cases reads

/-- Lines for `hist` alone can keep a run going for ever. -/
theorem domestic_run_without_end :
    echoing.loadHistory.Domestic ∧ ∀ fuel, echoing.start fuel .main = none :=
  ⟨domestic_echoing, start_echoing⟩

theorem start_ends_iff_echoing :
    ¬∃ count, ∀ later ≥ count, ¬((echoing.loadHistory.begin .main).after later).Circles := by
  intro straight
  obtain ⟨fuel, done⟩ := (start_ends_iff echoing domestic_echoing .main).mpr straight
  rw [start_echoing] at done
  cases done

end Engine

end Console
