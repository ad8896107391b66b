import Console.Proofs.Command.Dispatch

/-!
# Desks that are alike

Commands add to the transcript, put lines in front of the input and look up lines of the history,
but they read neither what has happened before, nor what there is to read, nor how much of the
history is saved.  So on two desks that differ in no more than that, an action that commands are
made of does the same.  How far the desks may differ is told by a likeness; the laws are stated for
all of them at once.
-/

namespace Console

/-! ## Reports -/

/-- The name of a kind of errors in the log. -/
def ErrorKind.name : ErrorKind → String
  | malformedArguments => "MalformedCommandArgs"
  | unknownCommand => "UnknownCommand"
  | amendOutOfRange => "AmendOutOfRange"
  | evaluation => "Evaluation"
  | persistence => "Persistence"
  | editor => "Editor"
  | io => "Io"

/-- An error is logged with its kind in front. -/
theorem Error.name_prefix_debugText (error : Error) :
    error.kind.name.toList <+: error.debugText.toList := by
  have more {front : List Char} {whole : String} (begins : front <+: whole.toList)
      (rest : String) : front <+: (whole ++ rest).toList := by
    rw [String.toList_append]
    exact begins.trans (List.prefix_append ..)
  have opens (front : String) {first : String} (rest : List Char)
      (same : front.toList ++ rest = first.toList) : front.toList <+: first.toList := ⟨rest, same⟩
  cases error with
  | unknownCommand name => exact more (more (opens "UnknownCommand" ['('] rfl) _) _
  | amendOutOfRange error =>
      exact more (more (more (more (opens "AmendOutOfRange" " \x7b range: ".toList rfl) _) _) _) _
  | evaluation error =>
      exact more (more (more (more (more (more
        (opens "Evaluation" "(EvalError \x7b kind: ".toList rfl) _) _) _) _) _) _
  | persistence path cause =>
      exact more (more (more (more (opens "Persistence" " \x7b path: ".toList rfl) _) _) _) _
  | editor error => exact more (more (opens "Editor" ['('] rfl) _) _
  | io cause => exact more (more (opens "Io" ['('] rfl) _) _
  | _ => exact more (more (opens "MalformedCommandArgs" ['('] rfl) _) _

namespace Event

/-- The log record of an error that is reported. -/
def reporting (error : Error) : Event := .logged .debug ("reporting " ++ error.debugText)

/-- Whether an event is the log record of a report that a history file does not work. -/
def blamesHistoryFile : Event → Bool
  | .logged .debug message => "reporting Persistence".toList.isPrefixOf message.toList
  | _ => false

/-- A message with another first letter blames no history file. -/
theorem blamesHistoryFile_logged {level : LogLevel} {message : String}
    (other : message.toList.head? ≠ some 'r') :
    (logged level message).blamesHistoryFile = false := by
  cases level with
  | debug =>
      rw [← Bool.not_eq_true]
      intro blames
      obtain ⟨rest, begins⟩ := List.isPrefixOf_iff_prefix.mp blames
      rw [← begins] at other
      exact other rfl
  | _ => rfl

/-- Such a record is that of an error of this kind. -/
theorem blamesHistoryFile_reporting (error : Error) :
    (reporting error).blamesHistoryFile = (error.kind == .persistence) := by
  obtain ⟨rest, begins⟩ := error.name_prefix_debugText
  have told : (reporting error).blamesHistoryFile = "reporting Persistence".toList.isPrefixOf
      ("reporting ".toList ++ error.debugText.toList) := by
    rw [← String.toList_append]
    rfl
  rw [told, ← begins]
  cases error.kind with
  | persistence => exact List.isPrefixOf_iff_prefix.mpr ⟨rest, rfl⟩
  | _ => rfl

end Event

/-- A result that is no error of a history file. -/
def Blameless {α : Type} (result : Except Error α) : Prop :=
  ∀ error, result = .error error → error.kind ≠ .persistence

namespace Blameless

variable {α β : Type}

theorem ok {value : α} : Blameless (.ok value) := nofun

theorem error {error : Error} (other : error.kind ≠ .persistence) :
    Blameless (.error error : Except Error α) := by
  intro _ same
  cases same
  exact other

theorem bind {first : Except Error α} {next : α → Except Error β} (begun : Blameless first)
    (continued : ∀ value, Blameless (next value)) : Blameless (first >>= next) := by
  cases first with
  | ok value => exact continued value
  | error error => exact .error (begun error rfl)

end Blameless

/-! ## Desks that are alike -/

/-- What an action may look at: the desk without its past, its input and how much of the history is
saved. -/
def Desk.sight (desk : Desk) : Desk :=
  { desk with transcript := {}, input := {}, history := ⟨desk.history.entries, 0⟩ }

/-- How two desks may differ in what no command looks at.  They still do so once the same has
happened at both, if it may happen; whatever does not blame a history file may. -/
structure Desk.Likeness where
  transcript : Transcript → Transcript → Prop
  input : InputChain → InputChain → Prop
  saved : Nat → Nat → Prop
  allows : Event → Prop
  attempt {before other : Transcript} : transcript before other →
    other.attempt.1 = before.attempt.1 ∧ transcript before.attempt.2 other.attempt.2
  add {before other : Transcript} {event : Event} :
    transcript before other → allows event → transcript (before.add event) (other.add event)
  inject {before other : InputChain} (text : String) :
    input before other → input (before.inject text) (other.inject text)
  cleared : saved 0 0
  allows_of_blameless {event : Event} : event.blamesHistoryFile = false → allows event

namespace Desk.Likeness

variable {likeness : Desk.Likeness}

/-- Errors of most kinds may be reported. -/
theorem allows_reporting (likeness : Desk.Likeness) {error : Error}
    (other : error.kind ≠ .persistence) : likeness.allows (.reporting error) := by
  apply likeness.allows_of_blameless
  rw [Event.blamesHistoryFile_reporting, beq_eq_false_iff_ne]
  exact other

/-- Two desks are alike. -/
structure Holds (likeness : Desk.Likeness) (desk other : Desk) : Prop where
  transcript : likeness.transcript desk.transcript other.transcript
  input : likeness.input desk.input other.input
  saved : likeness.saved desk.history.saved other.history.saved
  sight : other.sight = desk.sight

namespace Holds

variable {desk other : Desk}

theorem buffer (holds : likeness.Holds desk other) : other.buffer = desk.buffer :=
  (congrArg Desk.buffer holds.sight :)

theorem storage (holds : likeness.Holds desk other) : other.storage = desk.storage :=
  (congrArg Desk.storage holds.sight :)

/-- Desks that are alike differ in no more than that. -/
theorem exists_eq (holds : likeness.Holds desk other) :
    ∃ transcript input saved,
      other = { desk with transcript, input, history := ⟨desk.history.entries, saved⟩ } ∧
        likeness.transcript desk.transcript transcript ∧ likeness.input desk.input input ∧
          likeness.saved desk.history.saved saved := by
  refine ⟨other.transcript, other.input, other.history.saved, ?_, holds.transcript, holds.input,
    holds.saved⟩
  have same : other =
      { other.sight with
        transcript := other.transcript
        input := other.input
        history := ⟨other.sight.history.entries, other.history.saved⟩ } := rfl
  rw [same, holds.sight]
  rfl

theorem withTranscript (holds : likeness.Holds desk other) {transcript transcriptToo : Transcript}
    (told : likeness.transcript transcript transcriptToo) :
    likeness.Holds { desk with transcript } { other with transcript := transcriptToo } :=
  ⟨told, holds.input, holds.saved, holds.sight⟩

theorem withStorage (holds : likeness.Holds desk other) (storage : Storage) :
    likeness.Holds { desk with storage } { other with storage } where
  transcript := holds.transcript
  input := holds.input
  saved := holds.saved
  sight := congrArg (fun sight : Desk => { sight with storage }) holds.sight

end Holds

theorem addForeign {before other : Transcript} (told : likeness.transcript before other)
    (bytes : Utf8.Bytes) :
    likeness.transcript (before.addForeign bytes) (other.addForeign bytes) := by
  unfold Transcript.addForeign
  split
  · exact told
  · exact likeness.add told (likeness.allows_of_blameless rfl)

theorem addComplaints {before other : Transcript} (told : likeness.transcript before other)
    (bytes : Utf8.Bytes) :
    likeness.transcript (before.addComplaints bytes) (other.addComplaints bytes) := by
  unfold Transcript.addComplaints
  split
  · exact told
  · exact likeness.add told (likeness.allows_of_blameless rfl)

/-- Writing is answered alike on both desks. -/
theorem exists_write_eq {before other : Transcript} (told : likeness.transcript before other)
    (text : String) :
    ∃ answer after afterToo, before.write text = (answer, after) ∧
      other.write text = (answer, afterToo) ∧ likeness.transcript after afterToo := by
  obtain ⟨same, toldOn⟩ := likeness.attempt told
  unfold Transcript.write
  generalize before.attempt = outcome at same toldOn ⊢
  generalize other.attempt = outcomeToo at same toldOn ⊢
  obtain ⟨fault, after⟩ := outcome
  obtain ⟨faultToo, afterToo⟩ := outcomeToo
  change faultToo = fault at same
  subst same
  cases faultToo with
  | none => exact ⟨_, _, _, rfl, rfl, likeness.add toldOn (likeness.allows_of_blameless rfl)⟩
  | some cause => exact ⟨_, _, _, rfl, rfl, likeness.add toldOn (likeness.allows_of_blameless rfl)⟩

/-- Two actions have come to the same, and an error of theirs may be reported. -/
inductive Agree (likeness : Desk.Likeness) {α : Type} :
    EStateM.Result Error Desk α → EStateM.Result Error Desk α → Prop where
  | ok (value : α) {after afterToo : Desk} (holds : likeness.Holds after afterToo) :
      Agree likeness (.ok value after) (.ok value afterToo)
  | error (error : Error) {after afterToo : Desk} (allowed : likeness.allows (.reporting error))
      (holds : likeness.Holds after afterToo) :
      Agree likeness (.error error after) (.error error afterToo)

end Desk.Likeness

namespace Action

variable {α β : Type}

/-- An action that does the same on desks that are alike. -/
def Indifferent (likeness : Desk.Likeness) (action : Action α) : Prop :=
  ∀ desk other, likeness.Holds desk other → likeness.Agree (action desk) (action other)

namespace Indifferent

variable {likeness : Desk.Likeness}

theorem pure {value : α} : (pure value : Action α).Indifferent likeness :=
  fun _ _ holds => .ok value holds

theorem throw {error : Error} (other : error.kind ≠ .persistence) :
    (throw error : Action α).Indifferent likeness :=
  fun _ _ holds => .error error (likeness.allows_reporting other) holds

theorem ofExcept {result : Except Error α} (blameless : Blameless result) :
    (ofExcept result).Indifferent likeness := by
  cases result with
  | ok value => exact pure
  | error error => exact throw (blameless error rfl)

theorem bind {first : Action α} {next : α → Action β} (begun : first.Indifferent likeness)
    (continued : ∀ value, (next value).Indifferent likeness) :
    (first >>= next : Action β).Indifferent likeness := by
  intro desk other holds
  have agree := begun desk other holds
  change likeness.Agree (EStateM.bind first next desk) (EStateM.bind first next other)
  unfold EStateM.bind
  generalize first desk = result at agree ⊢
  generalize first other = resultToo at agree ⊢
  cases agree with
  | ok value holds => exact continued value _ _ holds
  | error error allowed holds => exact .error error allowed holds

/-- What is done with the desk depends on no more than may be looked at. -/
theorem get {next : Desk → Action β} (same : ∀ desk, next desk.sight = next desk)
    (indifferent : ∀ desk, (next desk).Indifferent likeness) :
    (get >>= next : Action β).Indifferent likeness := by
  intro desk other holds
  change likeness.Agree (next desk desk) (next other other)
  rw [← same other, holds.sight, same desk]
  exact indifferent desk desk other holds

theorem modify {change : Desk → Desk}
    (alike : ∀ desk other,
      likeness.Holds desk other → likeness.Holds (change desk) (change other)) :
    (modify change : Action PUnit).Indifferent likeness :=
  fun desk other holds => .ok _ (alike desk other holds)

theorem say (text : String) : (say text).Indifferent likeness := by
  intro desk other holds
  obtain ⟨answer, after, afterToo, written, writtenToo, told⟩ :=
    Desk.Likeness.exists_write_eq holds.transcript (text ++ "\n")
  unfold Action.say
  rw [written, writtenToo]
  cases answer with
  | ok _ => exact .ok _ (holds.withTranscript told)
  | error cause => exact .error _ (likeness.allows_reporting nofun) (holds.withTranscript told)

theorem log {message : String}
    (blameless : (Event.logged .debug message).blamesHistoryFile = false) :
    (log message).Indifferent likeness :=
  modify fun _ _ holds =>
    holds.withTranscript (likeness.add holds.transcript (likeness.allows_of_blameless blameless))

theorem changeBuffer (change : Buffer → Buffer) : (changeBuffer change).Indifferent likeness :=
  modify fun _ _ holds =>
    { transcript := holds.transcript
      input := holds.input
      saved := holds.saved
      sight := congrArg (fun sight : Desk => { sight with buffer := change sight.buffer })
        holds.sight }

theorem inject (text : String) : (inject text).Indifferent likeness :=
  modify fun _ _ holds =>
    ⟨holds.transcript, likeness.inject text holds.input, holds.saved, holds.sight⟩

theorem readText (location : Location) {error : IoCause → Error}
    (other : ∀ cause, (error cause).kind ≠ .persistence) :
    (readText location error).Indifferent likeness := by
  intro desk beside holds
  unfold Action.readText
  rw [holds.storage]
  obtain ⟨outcome, storage⟩ := desk.storage.readText location
  cases outcome with
  | ok text => exact .ok text (holds.withStorage storage)
  | error cause =>
      exact .error _ (likeness.allows_reporting (other cause)) (holds.withStorage storage)

theorem readFlags (spec : Flags.Spec) (arguments : List (Option String)) :
    (readFlags spec arguments).Indifferent likeness := by
  unfold Action.readFlags
  split
  · exact pure
  · exact throw nofun
  · exact (say _).bind fun _ => pure
  · exact (say _).bind fun _ => pure

theorem readRange (text : String) : (readRange text).Indifferent likeness := by
  unfold Action.readRange
  split
  · exact pure
  · exact throw nofun

theorem leaveEditor (opening : Opening) (edited : Edited) :
    (leaveEditor opening edited).Indifferent likeness := by
  apply Indifferent.bind
  · apply modify
    intro desk other holds
    exact
      { transcript := Desk.Likeness.addComplaints
          (Desk.Likeness.addForeign holds.transcript edited.shown) edited.complaints
        input := holds.input
        saved := holds.saved
        sight := congrArg
          (fun sight : Desk =>
            { sight with openings := opening :: sight.openings, storage := edited.storage })
          holds.sight }
  · intro _
    split
    · exact pure
    · exact throw nofun

theorem openEditor (location : Location) (line : Nat) :
    (openEditor location line).Indifferent likeness := by
  apply Indifferent.get
  · intro desk
    rfl
  · intro desk
    split
    next command _ =>
      have running :
        (Event.logged .debug ("running " ++ command ++ " on " ++ location.text ++ ":" ++
          natText line)).blamesHistoryFile = false := by
        unfold Event.blamesHistoryFile
        simp only [String.toList_append, List.append_assoc]
        rfl
      exact (log running).bind fun _ => leaveEditor _ _
    · exact leaveEditor _ _

theorem withScratch {content : Utf8.Bytes} {action : Action α}
    (indifferent : action.Indifferent likeness) :
    (withScratch content action).Indifferent likeness := by
  intro desk other holds
  unfold Action.withScratch
  rw [holds.storage]
  obtain ⟨answer, storage⟩ := desk.storage.makeScratch content
  have made := holds.withStorage storage
  cases answer with
  | error cause => exact .error _ (likeness.allows_reporting nofun) made
  | ok _ =>
      have dropped {after afterToo : Desk} (holds : likeness.Holds after afterToo) :
          likeness.Holds { after with storage := after.storage.withoutScratch }
            { afterToo with storage := afterToo.storage.withoutScratch } := by
        rw [holds.storage]
        exact holds.withStorage _
      have agree := indifferent _ _ made
      dsimp only
      generalize action { desk with storage } = result at agree ⊢
      generalize action { other with storage } = resultToo at agree ⊢
      cases agree with
      | ok value holds => exact .ok value (dropped holds)
      | error error allowed holds => exact .error error allowed (dropped holds)

end Indifferent

end Action

/-- A command that does the same on desks that are alike, whatever surrounds it and whatever it is
given. -/
def Handler.Indifferent (likeness : Desk.Likeness) (handler : Handler) : Prop :=
  ∀ around arguments, (handler around arguments).Indifferent likeness

end Console
