import Console.Engine.Basic
import Console.Proofs.Command.Addressing
import Console.Proofs.Command.Replaying
import Console.Proofs.Command.Trailing

/-!
# What is replayed is read again

The lines that `hist` replays are put together to one text, and the input cuts that text into lines
again.  As the lines of a history are single ones, they come back: before anything else is read, the
input gives the selected lines of the history in their order.
-/

namespace Console

/-- The lines before a line are lines of the history. -/
theorem Surroundings.lines_past_subset (around : Surroundings) (history : History) :
    (around.past history).lines ⊆ history.entries := by
  unfold past
  cases around.lineIndex with
  | none => exact List.take_subset ..
  | some index => exact List.take_subset ..

/-! ## Replaying as an action -/

namespace Commands

variable {text : String} {range : LineRange}

/-- Puts the lines of a range in front of the input; where there is none, that is the error, and
nothing else is done. -/
def replaying (past : HistorySlice) (range : LineRange) (desk : Desk) :
    EStateM.Result Error Desk Dispatched :=
  match past.select? range with
  | some slice =>
      .ok (.handled .next) { desk.unlogged with input := desk.input.inject slice.joined }
  | none => .error (.noHistoryLines range) desk.unlogged

theorem apparent_replayLines (isRange : LineRange.ofText? text = some range)
    (around : Surroundings) (desk : Desk) :
    (replayLines around text).apparent desk =
      match (around.past desk.history).select? range with
      | some slice => .ok () { desk.unlogged with input := desk.input.inject slice.joined }
      | none => .error (.noHistoryLines range) desk.unlogged := by
  have read : Action.readRange text = pure range := by rw [Action.readRange, isRange]
  rw [replayLines, read, pure_bind, Action.apparent_get]
  cases (around.past desk.history).select? range with
  | none => rfl
  | some slice => rfl

theorem hist_replay (around : Surroundings) (text : String) :
    hist around [some "--replay", some text] =
      (replayLines around text >>= fun _ => pure .next : Action Outcome) := by
  have among : "replay" ∈ ["show", "replay"] := by decide
  have read : histSpec.read ["--replay", text] = .ok ⟨[("replay", [.text text])], true⟩ :=
    histSpec_read among text
  have kept : Flags.Given.has ⟨[("replay", [.text text])], true⟩ "clear" = false := rfl
  have replays : Flags.Given.text? ⟨[("replay", [.text text])], true⟩ "replay" = some text := rfl
  have flags : Action.readFlags histSpec [some "--replay", some text] =
      pure (some ⟨[("replay", [.text text])], true⟩) := by
    rw [Action.readFlags, List.filterMap_cons, List.filterMap_cons]
    dsimp only [id]
    rw [List.filterMap_nil, read]
  rw [hist, flags, pure_bind]
  dsimp only
  rw [kept, replays]
  rfl

theorem apparent_hist_replay (isRange : LineRange.ofText? text = some range)
    (around : Surroundings) (desk : Desk) :
    (hist around [some "--replay", some text] >>= fun outcome => pure (.handled outcome) :
      Action Dispatched).apparent desk = replaying (around.past desk.history) range desk := by
  have run : (hist around [some "--replay", some text] >>= fun outcome => pure (.handled outcome) :
      Action Dispatched) = (replayLines around text >>= fun _ => pure (.handled .next)) := by
    rw [hist_replay, bind_assoc]
    rfl
  have replays := apparent_replayLines isRange around desk
  rw [run, Action.apparent_bind fun _ => .pure, replays]
  unfold replaying
  cases (around.past desk.history).select? range with
  | none => rfl
  | some slice =>
      have unlogged : Desk.unlogged { desk.unlogged with input := desk.input.inject slice.joined } =
          { desk.unlogged with input := desk.input.inject slice.joined } := by
        simp [Desk.unlogged]
      exact congrArg (EStateM.Result.ok _) unlogged

end Commands

namespace Registry

open Commands

variable {arguments text : String} {range : LineRange}

/-- A line whose words are an option and a range replays the lines of the range. -/
theorem apparent_dispatch_replay (gap : arguments.toList.head?.any Text.isBlank)
    (words : wordsOf (trimmed arguments) = .ok ["--replay", text])
    (isRange : LineRange.ofText? text = some range) (around : Surroundings) (desk : Desk) :
    (builtin.dispatch around ("hist" ++ arguments)).apparent desk =
      replaying (around.past desk.history) range desk := by
  have isListed : ⟨.ofName "hist", .variadic, true, hist⟩ ∈ listed := by simp [listed]
  obtain ⟨command, recognized, found, _, isHist, given⟩ :=
    find?_words isListed gap words (List.cons_ne_nil _ _)
  rw [apparent_dispatch blind_builtin, invoked?, found, ← apparent_hist_replay isRange]
  change (command.run recognized around).apparent desk = _
  rw [Command.run.eq_def, given, isHist]
  rfl

/-- What is selected of a history of single lines is read first of all, as it was entered. -/
theorem next_of_replaying {past : HistorySlice} {span : Span}
    (single : ∀ entry ∈ past.lines, Text.Plain entry.toList)
    (selected : range.clamp past.lines.length .zero = some span) (desk : Desk) :
    ∃ input, replaying past range desk = .ok (.handled .next) { desk.unlogged with input } ∧
      (InputChain.feed.next span.length input).1 =
        (span.of past.lines).map (fun entry => (.line entry, .injected)) ∧
      (InputChain.feed.next span.length input).2.stack = desk.input.stack := by
  -- The text is cut into the lines that it was put together from, so the span counts them.
  let slice : HistorySlice := ⟨past.start + span.first, span.of past.lines⟩
  have found : past.select? range = some slice := by
    rw [HistorySlice.select?, selected]
    rfl
  obtain ⟨nonempty, within⟩ := HistorySlice.lines_of_select? found
  have read : linesOf slice.joined = span.of past.lines :=
    HistorySlice.linesOf_joined nonempty fun entry member => single entry (within member)
  have counted : (span.of past.lines).length = span.length := by
    obtain ⟨_, inside⟩ := LineRange.clamp_spec selected
    rw [Span.of, Span.length, List.length_take, List.length_drop]
    omega
  refine ⟨desk.input.inject slice.joined, ?_, ?_⟩
  · unfold replaying
    rw [found]
  · have next := desk.input.next_inject slice.joined
    rwa [read, counted] at next

/-- Replaying gives back the recorded lines.  Whatever range is spelled behind `hist --replay`, the
lines that it selects of those before the line are read next, in their order and before all other
input, as lines that are not recorded again; it is an error, and nothing is put into the input, if
and only if no line is selected.  A selection starts at one of the lines and is not empty, and its
end is cut to the last line. -/
theorem replaying_gives_back (around : Surroundings) (desk : Desk)
    (single : ∀ entry ∈ desk.history.entries, Text.Plain entry.toList)
    (gap : arguments.toList.head?.any Text.isBlank)
    (words : wordsOf (trimmed arguments) = .ok ["--replay", text])
    (isRange : LineRange.ofText? text = some range) :
    let past := (around.past desk.history).lines
    let dispatched := (builtin.dispatch around ("hist" ++ arguments)).apparent desk
    (∀ span, range.clamp past.length .zero = some span →
      ∃ input, dispatched = .ok (.handled .next) { desk.unlogged with input } ∧
        (InputChain.feed.next span.length input).1 =
          (span.of past).map (fun entry => (.line entry, .injected)) ∧
        (InputChain.feed.next span.length input).2.stack = desk.input.stack ∧
        ∀ entry ∈ span.of past, ∀ engine : Engine,
          engine.remember .injected entry = (none, engine)) ∧
    (dispatched = .error (.noHistoryLines range) desk.unlogged ↔
      range.clamp past.length .zero = none) ∧
    (past.length < Text.largestInteger → ∀ span,
      range.clamp past.length .zero = some span ↔
        range.Selects past.length .zero
          (min (range.exactStop past.length .zero) past.length) span) := by
  intro past dispatched
  have replays : dispatched = replaying (around.past desk.history) range desk :=
    apparent_dispatch_replay gap words isRange around desk
  have singleToo : ∀ entry ∈ past, Text.Plain entry.toList :=
    fun entry member => single entry (around.lines_past_subset desk.history member)
  have succeeds {span : Span} (selected : range.clamp past.length .zero = some span) :=
    next_of_replaying singleToo selected desk
  refine ⟨?_, ?_, fun short span => LineRange.clamp_eq_some_iff short⟩
  · intro span selected
    obtain ⟨input, done, next, rest⟩ := succeeds selected
    exact ⟨input, replays.trans done, next, rest, fun _ _ _ => rfl⟩
  · cases selected : range.clamp past.length .zero with
    | some span =>
        obtain ⟨input, done, _⟩ := succeeds selected
        rw [replays, done]
        exact iff_of_false nofun nofun
    | none =>
        have unselected : (around.past desk.history).select? range = none := by
          rw [HistorySlice.select?, selected]
          rfl
        have fails : replaying (around.past desk.history) range desk =
            .error (.noHistoryLines range) desk.unlogged := by
          unfold replaying
          rw [unselected]
        exact iff_of_true (replays.trans fails) rfl

/-- A desk with a history, the last line of which is the one that is dispatched. -/
def remembering : Desk := { begun with history := ⟨["(1 +", "", "hist --replay '1 .. 7'"], 0⟩ }

/-- The end of the range is cut to the line before, which is blank. -/
theorem replaying_gives_back_blank_line :
    (∀ entry ∈ remembering.history.entries, Text.Plain entry.toList) ∧
      " --replay '1 .. 7'".toList.head?.any Text.isBlank ∧
      wordsOf (trimmed " --replay '1 .. 7'") = .ok ["--replay", "1 .. 7"] ∧
      LineRange.ofText? "1 .. 7" = some (.inclusive 1 7) ∧
      ∃ input, (builtin.dispatch { alone with lineIndex := some 2 }
            "hist --replay '1 .. 7'").apparent remembering =
          .ok (.handled .next) { remembering.unlogged with input } ∧
        (InputChain.feed.next 1 input).1 = [(.line "", .injected)] := by
  have single : ∀ entry ∈ remembering.history.entries, Text.Plain entry.toList := by
    simp [remembering, Text.Plain]
  have gap : " --replay '1 .. 7'".toList.head?.any Text.isBlank := rfl
  have words : wordsOf (trimmed " --replay '1 .. 7'") = .ok ["--replay", "1 .. 7"] := rfl
  have isRange : LineRange.ofText? "1 .. 7" = some (.inclusive 1 7) := rfl
  have selected : (LineRange.inclusive 1 7).clamp 2 .zero = some ⟨1, 2⟩ := rfl
  obtain ⟨gives, _⟩ :=
    replaying_gives_back { alone with lineIndex := some 2 } remembering single gap words isRange
  obtain ⟨input, done, next, _⟩ := gives ⟨1, 2⟩ selected
  exact ⟨single, gap, words, isRange, input, done, next⟩

end Registry

end Console
