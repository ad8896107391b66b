import Console.Command.Basic

/-!
# What actions do to the desk

An action either succeeds with a value or fails, and leaves a desk behind in both cases.  The laws
here take an action apart along its binds.  A frame is a relation between the desk before and the
desk after that does not depend on how an action is composed; an action that keeps a frame keeps
it whether it succeeds or fails.
-/

namespace Console

/-- Whether an event is only something that is written, asked for, logged or complained about. -/
def Event.isPlain : Event → Bool
  | .wrote _ | .unwritten .. | .asked .. | .logged .. | .complained _ => true
  | .session .. | .took .. | .evaluated .. => false

namespace Transcript

/-- A transcript goes on with further events, given oldest first; of what will go wrong when
something is written, the first part may be over. -/
structure Extends (before after : Transcript) (added : List Event) : Prop where
  events : after.events = added.reverse ++ before.events
  faults : after.faults <:+ before.faults
  closed : after.closed = before.closed

namespace Extends

theorem refl (transcript : Transcript) : transcript.Extends transcript [] :=
  ⟨rfl, List.suffix_refl _, rfl⟩

theorem trans {first second third : Transcript} {early late : List Event}
    (begun : first.Extends second early) (continued : second.Extends third late) :
    first.Extends third (early ++ late) where
  events := by rw [continued.events, begun.events, List.reverse_append, List.append_assoc]
  faults := continued.faults.trans begun.faults
  closed := continued.closed.trans begun.closed

theorem add (transcript : Transcript) (event : Event) :
    transcript.Extends (transcript.add event) [event] := ⟨rfl, List.suffix_refl _, rfl⟩

end Extends

section

variable {α : Type} {before after : Transcript} {added : List Event}

/-- What is told by the events one by one, oldest first. -/
def told (tells : Event → Option α) (transcript : Transcript) : List α :=
  transcript.events.reverse.filterMap tells

theorem Extends.told (extended : before.Extends after added) (tells : Event → Option α) :
    after.told tells = before.told tells ++ added.filterMap tells := by
  unfold Transcript.told
  rw [extended.events, List.reverse_append, List.reverse_reverse, List.filterMap_append]

theorem Extends.told_of_none (extended : before.Extends after added) {tells : Event → Option α}
    (none : ∀ event ∈ added, tells event = .none) : after.told tells = before.told tells := by
  rw [extended.told, List.filterMap_eq_nil_iff.mpr none, List.append_nil]

end

/-- Whatever is written will be taken. -/
structure Open (transcript : Transcript) : Prop where
  faults : ∀ fault ∈ transcript.faults, fault = none
  closed : transcript.closed = false

/-- A transcript without anything to go wrong is open. -/
theorem Open.of_nil {transcript : Transcript} (faults : transcript.faults = [])
    (closed : transcript.closed = false) : transcript.Open where
  faults := by rw [faults]; nofun
  closed := closed

theorem Extends.isOpen {before after : Transcript} {added : List Event}
    (extended : before.Extends after added) (isOpen : before.Open) : after.Open where
  faults fault member := isOpen.faults fault (extended.faults.subset member)
  closed := extended.closed.trans isOpen.closed

/-- An attempt to write leaves the events alone. -/
theorem extends_attempt (transcript : Transcript) :
    transcript.Extends transcript.attempt.2 [] := by
  unfold attempt
  split
  · exact .refl transcript
  next fault faults same =>
    refine ⟨rfl, ?_, rfl⟩
    rw [same]
    exact List.suffix_cons fault faults

theorem attempt_of_open {transcript : Transcript} (isOpen : transcript.Open) :
    transcript.attempt.1 = none := by
  unfold attempt
  split
  · rw [isOpen.closed]
    rfl
  next fault faults same =>
    exact isOpen.faults fault (by rw [same]; exact List.mem_cons_self)

/-- A text that is to be written is written, or it is not; and either is recorded. -/
theorem write_cases (transcript : Transcript) (text : String) :
    ∃ after, (transcript.write text = (.ok (), after) ∧
        transcript.Extends after [.wrote text]) ∨
      ∃ cause, transcript.write text = (.error cause, after) ∧
        transcript.Extends after [.unwritten text cause] := by
  have attempted := transcript.extends_attempt
  unfold write
  split
  next cause after same =>
    rw [same] at attempted
    exact ⟨_, .inr ⟨cause, rfl, attempted.trans (.add after _)⟩⟩
  next after same =>
    rw [same] at attempted
    exact ⟨_, .inl ⟨rfl, attempted.trans (.add after _)⟩⟩

/-- The transcript after a text that was taken. -/
def wrote (transcript : Transcript) (text : String) : Transcript :=
  transcript.attempt.2.add (.wrote text)

theorem extends_wrote (transcript : Transcript) (text : String) :
    transcript.Extends (transcript.wrote text) [.wrote text] :=
  transcript.extends_attempt.trans (.add transcript.attempt.2 _)

/-- Writing to an open output succeeds. -/
theorem write_of_open {transcript : Transcript} (isOpen : transcript.Open) (text : String) :
    transcript.write text = (.ok (), transcript.wrote text) := by
  have succeeds := attempt_of_open isOpen
  unfold write wrote
  generalize transcript.attempt = attempted at succeeds ⊢
  obtain ⟨fault, after⟩ := attempted
  cases succeeds
  rfl

/-- When something is written, the same will go wrong with another transcript. -/
structure FailsLike (transcript other : Transcript) : Prop where
  faults : other.faults = transcript.faults
  closed : other.closed = transcript.closed

namespace FailsLike

theorem refl (transcript : Transcript) : transcript.FailsLike transcript := ⟨rfl, rfl⟩

theorem trans {first second third : Transcript} (alike : first.FailsLike second)
    (alikeToo : second.FailsLike third) : first.FailsLike third :=
  ⟨alikeToo.faults.trans alike.faults, alikeToo.closed.trans alike.closed⟩

theorem add (transcript : Transcript) (event : Event) :
    transcript.FailsLike (transcript.add event) := ⟨rfl, rfl⟩

theorem attempt {transcript other : Transcript} (alike : transcript.FailsLike other) :
    other.attempt.1 = transcript.attempt.1 ∧ transcript.attempt.2.FailsLike other.attempt.2 := by
  obtain ⟨events, faults, closed⟩ := transcript
  obtain ⟨eventsToo, faultsToo, closedToo⟩ := other
  obtain ⟨sameFaults, sameEnd⟩ := alike
  change faultsToo = faults at sameFaults
  change closedToo = closed at sameEnd
  subst sameFaults sameEnd
  cases faultsToo with
  | nil => exact ⟨rfl, rfl, rfl⟩
  | cons fault faults => exact ⟨rfl, rfl, rfl⟩

end FailsLike

/-- A transcript goes on with plain events only. -/
def Quiet (before after : Transcript) : Prop :=
  ∃ added, before.Extends after added ∧ ∀ event ∈ added, event.isPlain

namespace Quiet

theorem refl (transcript : Transcript) : transcript.Quiet transcript :=
  ⟨[], .refl transcript, by simp⟩

theorem trans {first second third : Transcript} (begun : first.Quiet second)
    (continued : second.Quiet third) : first.Quiet third := by
  obtain ⟨early, extended, earlyPlain⟩ := begun
  obtain ⟨late, extendedOn, latePlain⟩ := continued
  refine ⟨early ++ late, extended.trans extendedOn, ?_⟩
  intro event member
  rcases List.mem_append.mp member with inEarly | inLate
  · exact earlyPlain event inEarly
  · exact latePlain event inLate

theorem add (transcript : Transcript) {event : Event} (plain : event.isPlain) :
    transcript.Quiet (transcript.add event) :=
  ⟨[event], .add transcript event, by simpa using plain⟩

theorem isOpen {before after : Transcript} (quiet : before.Quiet after) (isOpen : before.Open) :
    after.Open := by
  obtain ⟨_, extended, _⟩ := quiet
  exact extended.isOpen isOpen

theorem log (transcript : Transcript) (level : LogLevel) (message : String) :
    transcript.Quiet (transcript.log level message) := add transcript rfl

theorem write (transcript : Transcript) (text : String) :
    transcript.Quiet (transcript.write text).2 := by
  obtain ⟨after, ⟨written, extended⟩ | ⟨cause, written, extended⟩⟩ := transcript.write_cases text
  · rw [written]
    exact ⟨_, extended, by simp [Event.isPlain]⟩
  · rw [written]
    exact ⟨_, extended, by simp [Event.isPlain]⟩

theorem writeOr (transcript : Transcript) (complaint text : String) :
    transcript.Quiet (transcript.writeOr complaint text) := by
  have quiet := write transcript text
  unfold Transcript.writeOr
  split
  next written =>
    rw [written] at quiet
    exact quiet
  next written =>
    rw [written] at quiet
    exact quiet.trans (log ..)

theorem addForeign (transcript : Transcript) (bytes : Utf8.Bytes) :
    transcript.Quiet (transcript.addForeign bytes) := by
  unfold Transcript.addForeign
  split
  · exact refl transcript
  · exact add transcript rfl

theorem addComplaints (transcript : Transcript) (bytes : Utf8.Bytes) :
    transcript.Quiet (transcript.addComplaints bytes) := by
  unfold Transcript.addComplaints
  split
  · exact refl transcript
  · exact add transcript rfl

end Quiet

end Transcript

/-- A relation between the desk before and the desk after that holds of doing nothing, and of doing
one thing after another if it holds of both. -/
structure Desk.Frame where
  Holds : Desk → Desk → Prop
  refl : ∀ desk, Holds desk desk
  trans : ∀ {first second third}, Holds first second → Holds second third → Holds first third

namespace Desk.Frame

/-- Nothing is changed but the transcript, which goes on with plain events. -/
def speaking : Desk.Frame where
  Holds before after :=
    before.transcript.Quiet after.transcript ∧
      after = { before with transcript := after.transcript }
  refl desk := ⟨.refl desk.transcript, rfl⟩
  trans := by
    intro first second third begun continued
    refine ⟨begun.1.trans continued.1, ?_⟩
    rw [continued.2, begun.2]

/-- The expression buffer is left alone, and the transcript goes on with plain events. -/
def beside : Desk.Frame where
  Holds before after := before.transcript.Quiet after.transcript ∧ after.buffer = before.buffer
  refl desk := ⟨.refl desk.transcript, rfl⟩
  trans begun continued := ⟨begun.1.trans continued.1, continued.2.trans begun.2⟩

/-- The expression buffer, the history and the input are left alone, and the transcript goes on with
plain events. -/
def outward : Desk.Frame where
  Holds before after :=
    before.transcript.Quiet after.transcript ∧ after.buffer = before.buffer ∧
      after.history = before.history ∧ after.input = before.input
  refl desk := ⟨.refl desk.transcript, rfl, rfl, rfl⟩
  trans := by
    intro first second third ⟨quiet, buffer, history, input⟩ ⟨quietOn, bufferOn, historyOn, inputOn⟩
    exact ⟨quiet.trans quietOn, bufferOn.trans buffer, historyOn.trans history, inputOn.trans input⟩

theorem outward_of_speaking {before after : Desk} (kept : speaking.Holds before after) :
    outward.Holds before after := by
  obtain ⟨quiet, same⟩ := kept
  rw [same]
  exact ⟨quiet, rfl, rfl, rfl⟩

theorem beside_of_outward {before after : Desk} (kept : outward.Holds before after) :
    beside.Holds before after := ⟨kept.1, kept.2.1⟩

theorem beside_of_speaking {before after : Desk} (kept : speaking.Holds before after) :
    beside.Holds before after := beside_of_outward (outward_of_speaking kept)

end Desk.Frame

namespace Action

variable {α β : Type} {frame : Desk.Frame}

/-- From a desk on, an action succeeds only with a value and a desk that are `done`, and fails only
with an error and a desk that are `failed`. -/
def Ensures (action : Action α) (desk : Desk) (done : α → Desk → Prop)
    (failed : Error → Desk → Prop) : Prop :=
  match action desk with
  | .ok value after => done value after
  | .error error after => failed error after

/-- An action keeps a frame whether it succeeds or fails, and succeeds only with good values. -/
def Keeps (frame : Desk.Frame) (action : Action α) (good : α → Prop := fun _ => True) : Prop :=
  ∀ desk, action.Ensures desk (fun value after => good value ∧ frame.Holds desk after)
    fun _ after => frame.Holds desk after

theorem Ensures.bind {first : Action α} {next : α → Action β} {desk : Desk}
    {done : β → Desk → Prop} {failed : Error → Desk → Prop}
    (ensured :
      first.Ensures desk (fun value after => (next value).Ensures after done failed) failed) :
    (first >>= next : Action β).Ensures desk done failed := by
  unfold Ensures at ensured
  cases ran : first desk with
  | ok value after =>
      rw [ran] at ensured
      have unfolded : (first >>= next : Action β) desk = next value after := by
        change EStateM.bind first next desk = _
        rw [EStateM.bind, ran]
      rw [Ensures, unfolded]
      exact ensured
  | error error after =>
      rw [ran] at ensured
      have unfolded : (first >>= next : Action β) desk = .error error after := by
        change EStateM.bind first next desk = _
        rw [EStateM.bind, ran]
      rw [Ensures, unfolded]
      exact ensured

theorem Ensures.pure {value : α} {desk : Desk} {done : α → Desk → Prop}
    {failed : Error → Desk → Prop} (ensured : done value desk) :
    (Pure.pure value : Action α).Ensures desk done failed := ensured

/-- Whatever an action does, it does something. -/
theorem Ensures.any (action : Action α) (desk : Desk) :
    action.Ensures desk (fun _ _ => True) fun _ _ => True := by
  unfold Ensures
  split <;> trivial

theorem Ensures.get {next : Desk → Action β} {desk : Desk} {done : β → Desk → Prop}
    {failed : Error → Desk → Prop} (ensured : (next desk).Ensures desk done failed) :
    (get >>= next : Action β).Ensures desk done failed := Ensures.bind ensured

theorem Ensures.mono {action : Action α} {desk : Desk} {done wider : α → Desk → Prop}
    {failed worse : Error → Desk → Prop} (ensured : action.Ensures desk done failed)
    (doneWider : ∀ value after, done value after → wider value after)
    (failedWorse : ∀ error after, failed error after → worse error after) :
    action.Ensures desk wider worse := by
  unfold Ensures at *
  split
  next ran => rw [ran] at ensured; exact doneWider _ _ ensured
  next ran => rw [ran] at ensured; exact failedWorse _ _ ensured

namespace Keeps

variable {good : α → Prop}

theorem pure {value : α} (isGood : good value) : Keeps frame (pure value : Action α) good :=
  fun desk => ⟨isGood, frame.refl desk⟩

theorem throw {error : Error} : Keeps frame (throw error : Action α) good :=
  fun desk => frame.refl desk

theorem ofExcept {result : Except Error α} : Keeps frame (ofExcept result) := by
  cases result with
  | ok value => exact pure trivial
  | error error => exact throw

theorem get : Keeps frame (get : Action Desk) := fun desk => ⟨trivial, frame.refl desk⟩

theorem modify {change : Desk → Desk} (changed : ∀ desk, frame.Holds desk (change desk)) :
    Keeps frame (modify change : Action PUnit) := fun desk => ⟨trivial, changed desk⟩

theorem bind {first : Action α} {next : α → Action β} {last : β → Prop}
    (begun : Keeps frame first good)
    (continued : ∀ value, good value → Keeps frame (next value) last) :
    Keeps frame (first >>= next : Action β) last := by
  intro desk
  apply Ensures.bind
  refine (begun desk).mono ?_ fun _ _ kept => kept
  intro value middle ⟨isGood, kept⟩
  refine (continued value isGood middle).mono ?_ ?_
  · intro result after ⟨isLast, keptOn⟩
    exact ⟨isLast, frame.trans kept keptOn⟩
  · intro error after keptOn
    exact frame.trans kept keptOn

theorem mono {wider : Desk.Frame} {action : Action α} (kept : Keeps frame action good)
    (wide : ∀ {before after}, frame.Holds before after → wider.Holds before after) :
    Keeps wider action good :=
  fun desk => (kept desk).mono (fun _ _ ⟨isGood, holds⟩ => ⟨isGood, wide holds⟩)
    fun _ _ holds => wide holds

end Keeps

/-! ## The actions that commands are made of -/

theorem keeps_say (text : String) : Keeps .speaking (say text) := by
  intro desk
  have quiet := Transcript.Quiet.write desk.transcript (text ++ "\n")
  unfold Ensures say
  generalize desk.transcript.write _ = written at quiet ⊢
  obtain ⟨answer, transcript⟩ := written
  cases answer with
  | ok _ => exact ⟨trivial, quiet, rfl⟩
  | error cause => exact ⟨quiet, rfl⟩

/-- A line is written if the output is open. -/
theorem say_of_open {desk : Desk} (isOpen : desk.transcript.Open) (text : String) :
    say text desk =
      .ok () { desk with transcript := desk.transcript.wrote (text ++ "\n") } := by
  unfold say
  rw [Transcript.write_of_open isOpen]

theorem keeps_log (message : String) : Keeps .speaking (log message) :=
  Keeps.modify fun desk => ⟨.log desk.transcript .debug message, rfl⟩

theorem keeps_readFlags (spec : Flags.Spec) (arguments : List (Option String)) :
    Keeps .speaking (readFlags spec arguments) := by
  unfold readFlags
  split
  · exact .pure trivial
  · exact .throw
  · exact (keeps_say _).bind fun _ _ => .pure trivial
  · exact (keeps_say _).bind fun _ _ => .pure trivial

theorem keeps_readRange (text : String) : Keeps frame (readRange text) := by
  unfold readRange
  split
  · exact .pure trivial
  · exact .throw

theorem keeps_readText (location : Location) (error : IoCause → Error) :
    Keeps .outward (readText location error) := by
  intro desk
  unfold Ensures readText
  obtain ⟨outcome, storage⟩ := desk.storage.readText location
  cases outcome with
  | ok text => exact ⟨trivial, .refl desk.transcript, rfl, rfl, rfl⟩
  | error cause => exact ⟨.refl desk.transcript, rfl, rfl, rfl⟩

theorem keeps_inject (text : String) : Keeps .beside (inject text) :=
  Keeps.modify fun desk => ⟨.refl desk.transcript, rfl⟩

theorem keeps_leaveEditor (opening : Opening) (edited : Edited) :
    Keeps .outward (leaveEditor opening edited) := by
  unfold leaveEditor
  refine Keeps.bind (Keeps.modify fun desk => ?_) fun _ _ => ?_
  · exact ⟨(Transcript.Quiet.addForeign ..).trans (.addComplaints ..), rfl, rfl, rfl⟩
  · split
    · exact .pure trivial
    · exact .throw

theorem keeps_openEditor (location : Location) (line : Nat) :
    Keeps .outward (openEditor location line) := by
  unfold openEditor
  apply Keeps.get.bind
  intro desk _
  have opened := keeps_leaveEditor ⟨location, line, (desk.storage.content location).toOption⟩
    (desk.editor.edit desk.openings.length location line desk.storage)
  split
  · exact ((keeps_log _).mono Desk.Frame.outward_of_speaking).bind fun _ _ => opened
  · exact opened

theorem Ensures.withScratch {content : Utf8.Bytes} {action : Action α} {desk : Desk}
    {done : α → Desk → Prop} {failed : Error → Desk → Prop}
    (refused : ∀ cause storage, desk.storage.makeScratch content = (.error cause, storage) →
      failed (.io cause) { desk with storage })
    (made : ∀ storage, desk.storage.makeScratch content = (.ok (), storage) →
      action.Ensures { desk with storage }
        (fun value after => done value { after with storage := after.storage.withoutScratch })
        fun error after => failed error { after with storage := after.storage.withoutScratch }) :
    (withScratch content action).Ensures desk done failed := by
  unfold Ensures Action.withScratch
  cases same : desk.storage.makeScratch content with
  | mk answer storage =>
      cases answer with
      | error cause => exact refused cause storage same
      | ok _ =>
          have ensured := made storage same
          unfold Ensures at ensured
          dsimp only
          generalize action _ = outcome at ensured ⊢
          cases outcome with
          | ok value after => exact ensured
          | error error after => exact ensured

end Action

end Console
