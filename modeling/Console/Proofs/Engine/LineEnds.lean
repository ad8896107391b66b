import Console.Proofs.Engine.Resembling
import Console.Proofs.Text.Utf8

/-!
# How lines end

A script is cut into lines and its line ends are taken off, while the lines of a stream of bytes are
handed over with theirs.  A session drops all newlines and carriage returns at the end of a line
that it gets, so both drive the console alike.  To see this, line ends are hidden: two consoles that
look the same then still do so after each step.
-/

namespace Console

/-! ## Line ends -/

/-- An event without the line end of an answer. -/
def Event.unbroken : Event → Event
  | .asked prompt answer => .asked prompt answer.unbroken
  | event => event

theorem Answer.unbroken_unbroken (answer : Answer) :
    answer.unbroken.unbroken = answer.unbroken := by
  cases answer with
  | line text => exact congrArg Answer.line (withoutFinalBreaks_withoutFinalBreaks text)
  | endOfInput | interrupted | failed => rfl

theorem Event.unbroken_unbroken (event : Event) : event.unbroken.unbroken = event.unbroken := by
  cases event with
  | asked prompt answer => exact congrArg (Event.asked prompt) answer.unbroken_unbroken
  | wrote | unwritten | logged | complained | session | took | evaluated => rfl

/-- A view that hides how the lines end that the base source gives. -/
def Desk.View.withoutLineEnds : Desk.View where
  transcript before := { before with events := before.events.map Event.unbroken }
  input before := { before with base := before.base.map Answer.unbroken }
  attempt_transcript before := by
    obtain ⟨events, faults, closed⟩ := before
    cases faults <;> rfl
  transcript_transcript before := by
    simp [Function.comp_def, Event.unbroken_unbroken]
  transcript_add before event := by
    simp [Transcript.add, Function.comp_def, Event.unbroken_unbroken]
  input_input before := by
    simp [Function.comp_def, Answer.unbroken_unbroken]
  input_inject before text := by
    unfold InputChain.inject
    split <;> simp [Function.comp_def, Answer.unbroken_unbroken]

namespace Source

/-- The bytes of a text are read as its lines, but for line ends. -/
theorem map_unbroken_ofBytes (text : String) :
    (ofBytes (Utf8.ofText text)).map Answer.unbroken = (ofScript text).map Answer.unbroken := by
  rw [ofBytes, ofScript, Utf8.ofText, Utf8.pieces_encode, linesOf, Text.lines]
  simp only [List.map_map]
  congr 1
  funext piece
  have read : Utf8.toText? (Utf8.encode piece) = some (.ofList piece) := by
    rw [Utf8.toText?, Utf8.decode?_encode]
    rfl
  have ends : withoutFinalBreaks (.ofList piece) =
      withoutFinalBreaks (.ofList (Text.withoutLineEnd piece)) := by
    simp only [withoutFinalBreaks, String.toList_ofList]
    rw [Text.trimEndWhere_withoutLineEnd rfl rfl]
  simp only [Function.comp_def, read, Answer.unbroken, ends]

end Source

namespace InputChain

/-- Where only line ends are different, the answers differ in no more, and so does what is left. -/
theorem read_alike {chain other : InputChain}
    (same : Desk.View.withoutLineEnds.input chain = Desk.View.withoutLineEnds.input other) :
    chain.read.1.unbroken = other.read.1.unbroken ∧ chain.read.2.1 = other.read.2.1 ∧
      Desk.View.withoutLineEnds.input chain.read.2.2 =
        Desk.View.withoutLineEnds.input other.read.2.2 := by
  obtain ⟨base, injected⟩ := chain
  obtain ⟨baseToo, injectedToo⟩ := other
  simp only [Desk.View.withoutLineEnds, mk.injEq] at same
  obtain ⟨sameBase, rfl⟩ := same
  unfold read
  dsimp only
  cases nextInjected? injected with
  | some next => exact ⟨rfl, rfl, by simp only [Desk.View.withoutLineEnds, sameBase]⟩
  | none =>
      cases base with
      | nil =>
          obtain rfl := List.map_eq_nil_iff.mp sameBase.symm
          exact ⟨rfl, rfl, rfl⟩
      | cons answer base =>
          cases baseToo with
          | nil => cases sameBase
          | cons answerToo baseToo =>
              obtain ⟨sameAnswer, sameBase⟩ := List.cons.inj sameBase
              exact ⟨sameAnswer, rfl, by simp only [Desk.View.withoutLineEnds, sameBase]⟩

end InputChain

/-! ## Consoles that look the same -/

namespace Engine

/-- What shows of an engine. -/
def seen (view : Desk.View) (engine : Engine) : Engine :=
  { engine with desk := view.of engine.desk }

/-- The same shows of two engines. -/
def Alike (view : Desk.View) (engine other : Engine) : Prop := engine.seen view = other.seen view

/-- An engine with another transcript and another input. -/
def facing (engine : Engine) (transcript : Transcript) (input : InputChain) : Engine :=
  { engine with desk := { engine.desk with transcript, input } }

namespace Alike

variable {view : Desk.View} {engine other : Engine}

theorem facing (engine : Engine) {transcript : Transcript} {input : InputChain}
    (told : view.transcript engine.desk.transcript = view.transcript transcript)
    (fed : view.input engine.desk.input = view.input input) :
    engine.Alike view (engine.facing transcript input) := by
  unfold Alike seen Desk.View.of Engine.facing
  rw [told, fed]

/-- Engines that look the same differ at most in their transcripts and inputs. -/
theorem exists_facing (alike : engine.Alike view other) :
    ∃ transcript input, other = engine.facing transcript input ∧
      view.transcript engine.desk.transcript = view.transcript transcript ∧
      view.input engine.desk.input = view.input input := by
  refine ⟨other.desk.transcript, other.desk.input, ?_, ?_, ?_⟩
  · have same : other = (other.seen view).facing other.desk.transcript other.desk.input := rfl
    rw [same, ← alike]
    rfl
  · exact congrArg (fun engine : Engine => engine.desk.transcript) alike
  · exact congrArg (fun engine : Engine => engine.desk.input) alike

theorem desk (alike : engine.Alike view other) : view.of engine.desk = view.of other.desk :=
  congrArg Engine.desk alike

end Alike

/-- Engines are alike that differ in nothing but line ends. -/
def Likeness.withoutLineEnds : Likeness where
  toLikeness := Desk.View.withoutLineEnds.likeness
  custody := Eq
  answer first second := first.unbroken = second.unbroken
  unbroken := id
  asked {before other first second} prompt told same := by
    have same : first.unbroken = second.unbroken := same
    change Desk.View.withoutLineEnds.transcript before =
      Desk.View.withoutLineEnds.transcript other at told
    change Desk.View.withoutLineEnds.transcript (before.add (.asked prompt first)) =
      Desk.View.withoutLineEnds.transcript (other.add (.asked prompt second))
    simp only [Desk.View.withoutLineEnds, Transcript.mk.injEq, Transcript.add, List.map_cons,
      Event.unbroken, same] at told ⊢
    exact ⟨by rw [told.1], told.2⟩
  read same := InputChain.read_alike same

variable {engine other : Engine}

theorem Alike.resembles (alike : engine.Alike .withoutLineEnds other) :
    engine.Resembles .withoutLineEnds other := by
  obtain ⟨transcript, input, rfl, told, fed⟩ := alike.exists_facing
  have same : engine.facing transcript input =
      engine.counterpart transcript input engine.desk.history.saved engine.custody := rfl
  rw [same]
  exact .counterpart told fed rfl rfl

namespace Resembles

theorem alike (resembles : engine.Resembles .withoutLineEnds other) :
    engine.Alike .withoutLineEnds other := by
  cases resembles with
  | counterpart told fed kept held =>
      cases kept
      cases held
      exact .facing engine told fed

/-! ## The history file -/

theorem logAny (resembles : engine.Resembles .withoutLineEnds other) (level : LogLevel)
    (message : String) :
    (engine.log level message).Resembles .withoutLineEnds (other.log level message) :=
  resembles.record (.add trivial)

theorem withHistory (resembles : engine.Resembles .withoutLineEnds other) (history : History)
    (storage : Storage) :
    (engine.withHistory history storage).Resembles .withoutLineEnds
      (other.withHistory history storage) := by
  cases resembles with
  | counterpart told fed _ held => exact .counterpart told fed rfl held

theorem giveUpHistoryFile (resembles : engine.Resembles .withoutLineEnds other) (path : String)
    (cause : IoCause) :
    (engine.giveUpHistoryFile path cause).Resembles .withoutLineEnds
      (other.giveUpHistoryFile path cause) := by
  have allowed : Likeness.withoutLineEnds.allows (.reporting (.persistence path cause)) := trivial
  have reported := (resembles.logAny .warn ((Error.persistence path cause).message ++
    "; history is kept in memory only")).report allowed
  obtain ⟨transcript, input, same, told, fed⟩ := reported.alike.exists_facing
  unfold Engine.giveUpHistoryFile
  dsimp only
  rw [same]
  exact (Alike.facing { (engine.log _ _).report _ with historyFile := none } told fed).resembles

theorem loadHistory (resembles : engine.Resembles .withoutLineEnds other) :
    engine.loadHistory.Resembles .withoutLineEnds other.loadHistory := by
  obtain ⟨transcript, input, rfl, _, _⟩ := resembles.alike.exists_facing
  unfold Engine.loadHistory
  dsimp only [Engine.facing] at resembles ⊢
  split
  next path _ _ =>
    generalize engine.desk.history.load path engine.desk.storage = loaded
    obtain ⟨outcome, history, storage⟩ := loaded
    have loaded := resembles.withHistory history storage
    cases outcome with
    | error cause => exact loaded.giveUpHistoryFile path cause
    | ok found =>
        cases found with
        | none => exact loaded.logAny .debug _
        | some count => exact (loaded.logAny .debug _).logAny .debug _
  · exact resembles

theorem saveHistory (resembles : engine.Resembles .withoutLineEnds other) :
    engine.saveHistory.Resembles .withoutLineEnds other.saveHistory := by
  obtain ⟨transcript, input, rfl, _, _⟩ := resembles.alike.exists_facing
  unfold Engine.saveHistory
  dsimp only [Engine.facing] at resembles ⊢
  split
  next path _ _ =>
    generalize engine.desk.history.save path engine.desk.storage = saved
    obtain ⟨outcome, history, storage⟩ := saved
    have saved := resembles.withHistory history storage
    cases outcome with
    | ok counts => exact (saved.logAny .debug _).logAny .debug _
    | error failure =>
        cases failure with
        | unread cause => exact saved.giveUpHistoryFile path cause
        | unwritten onDisk cause => exact (saved.logAny .debug _).giveUpHistoryFile path cause
  · exact resembles

theorem conclude (resembles : engine.Resembles .withoutLineEnds other) (result : Except Nat Value) :
    (engine.conclude result).1 = (other.conclude result).1 ∧
      (engine.conclude result).2.Resembles .withoutLineEnds (other.conclude result).2 := by
  cases result with
  | ok value => exact ⟨rfl, resembles.saveHistory⟩
  | error depth => exact ⟨rfl, (resembles.logAny .debug _).saveHistory⟩

end Resembles

end Engine

/-! ## Whole runs -/

namespace Engine

/-- An engine that reads from another base source. -/
def reading (engine : Engine) (source : Source) : Engine :=
  { engine with desk := { engine.desk with input := { engine.desk.input with base := source } } }

namespace Alike

variable {engine other : Engine}

/-- Line ends do not show in what is written. -/
theorem output (alike : engine.Alike .withoutLineEnds other) :
    engine.desk.transcript.output = other.desk.transcript.output := by
  have shown (transcript : Transcript) :
      (Desk.View.withoutLineEnds.transcript transcript).output = transcript.output := by
    unfold Transcript.output Desk.View.withoutLineEnds
    rw [← List.map_reverse, List.filterMap_map]
    congr 2
    funext event
    cases event <;> rfl
  have told : Desk.View.withoutLineEnds.transcript engine.desk.transcript =
      Desk.View.withoutLineEnds.transcript other.desk.transcript :=
    congrArg Desk.transcript alike.desk
  rw [← shown, told, shown]

theorem start (alike : engine.Alike .withoutLineEnds other)
    (obeys : engine.registry.Obeys fun _ handler => handler.Overlooks .withoutLineEnds)
    (fuel : Nat) (target : Value) :
    Option.Rel (fun first second => first.1 = second.1 ∧ first.2.Alike .withoutLineEnds second.2)
      (engine.start fuel target) (other.start fuel target) := by
  have loaded := alike.resembles.loadHistory
  have begun : (engine.loadHistory.begin target).Resembles .withoutLineEnds
      (other.loadHistory.begin target) := ⟨loaded.enter target, rfl⟩
  have obeysToo : (engine.loadHistory.begin target).engine.registry.Obeys
      fun _ handler => handler.Indifferent Desk.View.withoutLineEnds.likeness := by
    change engine.loadHistory.registry.Obeys _
    rw [registry_loadHistory]
    exact fun command member => Handler.overlooks_iff.mp (obeys command member)
  have ends := begun.finish obeysToo fuel
  unfold Engine.start
  generalize Run.finish fuel (engine.loadHistory.begin target) = ending at ends ⊢
  generalize Run.finish fuel (other.loadHistory.begin target) = endingToo at ends ⊢
  cases ends with
  | none => exact .none
  | @some first second same =>
      obtain ⟨result, after⟩ := first
      obtain ⟨resultToo, afterToo⟩ := second
      obtain ⟨sameResult, sameAfter⟩ := same
      dsimp only at sameResult sameAfter
      subst sameResult
      have concluded := sameAfter.conclude result
      exact .some ⟨concluded.1, concluded.2.alike⟩

end Alike

/-- Bytes drive the console as the script with the same text does, whatever line ends the text has.
Either both runs go on for longer than a number of steps, or both end within it, with the same
value, the same output, the same history, and with all else the same but for how the lines end that
the base source has given and has still to give.  This holds with the built-in commands, and with
whatever other commands overlook line ends. -/
theorem bytes_drive_as_script_does :
    (Registry.builtin.Obeys fun _ handler => handler.Overlooks .withoutLineEnds) ∧
    ∀ engine : Engine,
      (engine.registry.Obeys fun _ handler => handler.Overlooks .withoutLineEnds) →
      ∀ (text : String) (target : Value) (fuel : Nat),
        let piped := (engine.reading (.ofBytes (Utf8.ofText text))).start fuel target
        let scripted := (engine.reading (.ofScript text)).start fuel target
        (piped = none ∧ scripted = none) ∨
          ∃ value after afterToo, piped = some (value, after) ∧ scripted = some (value, afterToo) ∧
            after.desk.transcript.output = afterToo.desk.transcript.output ∧
            after.desk.history = afterToo.desk.history ∧
            after.seen .withoutLineEnds = afterToo.seen .withoutLineEnds := by
  refine ⟨Registry.overlooks_builtin _, ?_⟩
  intro engine obeys text target fuel piped scripted
  have alike : (engine.reading (.ofBytes (Utf8.ofText text))).Alike .withoutLineEnds
      (engine.reading (.ofScript text)) := by
    refine Alike.facing (engine.reading (.ofBytes (Utf8.ofText text))) rfl ?_
    exact congrArg (fun base => { engine.desk.input with base }) (Source.map_unbroken_ofBytes text)
  have runs : Option.Rel _ piped scripted := alike.start obeys fuel target
  generalize piped = piped at runs ⊢
  generalize scripted = scripted at runs ⊢
  cases runs with
  | none => exact .inl ⟨rfl, rfl⟩
  | @some first second same =>
      obtain ⟨value, after⟩ := first
      obtain ⟨valueToo, afterToo⟩ := second
      obtain ⟨sameValue, sameAfter⟩ := same
      dsimp only at sameValue sameAfter
      subst sameValue
      have histories : after.desk.history = afterToo.desk.history :=
        show (Desk.View.withoutLineEnds.of after.desk).history = _ by rw [sameAfter.desk]; rfl
      exact .inr ⟨value, after, afterToo, rfl, rfl, sameAfter.output, histories, sameAfter⟩

/-- A console that knows no command but the way out. -/
def returning : Engine where
  desk := { editor := .scripted [] }
  registry := Registry.empty.register (.named "exit" "End the session" (.fixed 0) Commands.exit)
  prompts := .standard "console"

/-- Lines that end in a newline, after one or more carriage returns or none; a carriage return
stands in front of one line, and the last line is not read any more. -/
def mixed : String := "1 +\r\r\n2\n\rexit\nexit\r\r\r\n3"

theorem bytes_drive_as_script_does_mixed :
    ∃ value after, (returning.reading (.ofBytes (Utf8.ofText mixed))).start 20 .main =
        some (value, after) ∧
      after.desk.history.entries = ["1 +", "2", "\rexit", "exit"] := by
  have ends : ((returning.reading (.ofScript mixed)).start 20 .main).map
      (·.2.desk.history.entries) = some ["1 +", "2", "\rexit", "exit"] := rfl
  have obeys : returning.registry.Obeys fun _ handler => handler.Overlooks .withoutLineEnds :=
    Registry.Obeys.registerNamed nofun Commands.overlooks_exit
  rcases bytes_drive_as_script_does.2 returning obeys mixed .main 20 with
    ⟨_, unended⟩ | ⟨value, after, afterToo, piped, scripted, _, histories, _⟩
  · rw [unended] at ends
    cases ends
  · rw [scripted, Option.map_some, Option.some_inj] at ends
    exact ⟨value, after, piped, (congrArg History.entries histories).trans ends⟩

end Engine

end Console
