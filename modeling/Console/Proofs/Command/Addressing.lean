import Console.Proofs.Command.Listing
import Console.Proofs.Range.Texts

/-!
# Lines that name a line of the history by its number

A line of the history can be listed, replayed or edited by its number alone, as long as the number
fits into a word.
-/

namespace Console

/-! ## Numbers as ranges -/

/-- A number is read as the range of the single line with that number. -/
theorem LineRange.ofText?_natText {n : Nat} (small : n ≤ Text.largestInteger) :
    ofText? (natText n) = some (single (.ofInt n)) := by
  have written : (single (.ofInt n)).text = natText n := by
    rw [text, render, single]
    dsimp only
    rw [Text.toInt_ofInt_of_small small]
    rfl
  rw [← written]
  exact ofText?_text (.single _)

/-- A number clamps to the line that has it, if there is one. -/
theorem LineRange.clamp_number {length number : Nat} {base : IndexBase}
    (short : length ≤ Text.largestInteger) (small : number ≤ Text.largestInteger)
    (counted : base.first ≤ number) :
    (single (.ofInt number)).clamp length base =
      if number - base.first < length then some ⟨number - base.first, number - base.first + 1⟩
      else none := by
  have same : (Int64.ofInt number).toInt = (number - base.first : Nat) + base.first := by
    rw [Text.toInt_ofInt_of_small small]
    omega
  split
  next isLine => exact clamp_single same (by omega)
  next beyond =>
    rw [Option.eq_none_iff_forall_ne_some]
    intro span found
    have isLine := ((clamp_eq_some_iff_of_le short).mp found).isLine
    rw [single, same, exactPosition, if_neg (by omega)] at isLine
    omega

namespace Commands

/-! ## Options with a number -/

variable {past : HistorySlice} {number : Nat} {line : String}

/-- The options `--show` and `--replay` take any text. -/
theorem histSpec_read {long : String} (among : long ∈ ["show", "replay"]) (value : String) :
    histSpec.read ["--" ++ long, value] = .ok ⟨[(long, [.text value])], true⟩ := by
  rcases List.mem_pair.mp among with rfl | rfl
  · exact Flags.Spec.read_option "show" .text (by decide) (by decide) (by decide) rfl rfl
      fun _ => rfl
  · exact Flags.Spec.read_option "replay" .text (by decide) (by decide) (by decide) rfl rfl
      fun _ => rfl

/-- The option `--in` takes a number. -/
theorem editSpec_read {value : String} {number : Int64} (is : readInteger value = .ok number) :
    editSpec.read ["--in", value] = .ok ⟨[("in", [.integer number])], true⟩ := by
  refine Flags.Spec.read_option "in" .integer (by decide) (by decide) (by decide) rfl rfl
    fun _ => ?_
  rw [Flags.readValue, is]

/-! ## Editing -/

open Console.Action

/-- The editor is not opened. -/
def unopened : Desk.Frame where
  Holds before after := after.openings = before.openings
  refl _ := rfl
  trans begun continued := continued.trans begun

theorem unopened_readText (location : Location) (error : IoCause → Error) :
    (readText location error).Keeps unopened := by
  intro desk
  unfold Ensures readText
  obtain ⟨outcome, storage⟩ := desk.storage.readText location
  cases outcome with
  | ok text => exact ⟨trivial, rfl⟩
  | error cause => exact rfl

theorem unopened_changeBuffer (change : Buffer → Buffer) :
    (changeBuffer change).Keeps unopened := Keeps.modify fun _ => rfl

/-- The editor has been opened on the scratch file, with a text in it. -/
def Edits (text : String) (before after : Desk) : Prop :=
  ∃ line, after.openings = ⟨.scratch, line, some (Utf8.ofText text)⟩ :: before.openings

theorem edits_openEditor (text : String) (line : Nat) {desk : Desk}
    (written : desk.storage.scratch = some (Utf8.ofText text)) :
    (openEditor .scratch line).Ensures desk (fun _ after => Edits text desk after)
      fun _ after => Edits text desk after := by
  have content : (desk.storage.content .scratch).toOption = some (Utf8.ofText text) := by
    rw [Storage.content, written]
    rfl
  have opened (desk : Desk) (edited : Edited) :
      (leaveEditor ⟨.scratch, line, some (Utf8.ofText text)⟩ edited).Ensures desk
        (fun _ after => Edits text desk after) fun _ after => Edits text desk after := by
    unfold leaveEditor
    apply Ensures.bind
    split
    · exact ⟨line, rfl⟩
    · exact ⟨line, rfl⟩
  unfold openEditor
  apply Ensures.get
  rw [content]
  split
  · apply Ensures.bind
    exact opened _ _
  · exact opened _ _

theorem Edits.unopened {text : String} {before middle after : Desk}
    (edits : Edits text before middle) (kept : unopened.Holds middle after) :
    Edits text before after := by
  obtain ⟨line, opened⟩ := edits
  exact ⟨line, kept.trans opened⟩

/-- What is edited in place of a file is in the scratch file when the editor is opened, unless that
file cannot be made. -/
theorem edits_editInput {around : Surroundings} {given : Flags.Given} {desk : Desk} {text : String}
    (edited : editedText around given desk = .ok text)
    (makes : (desk.storage.attempts 3).1 = none) :
    (editInput around given).Ensures desk (fun _ after => Edits text desk after)
      fun _ after => Edits text desk after := by
  unfold editInput
  apply Ensures.get
  apply Ensures.bind
  rw [edited]
  apply Ensures.pure
  obtain ⟨after, made, written⟩ := Storage.exists_makeScratch_eq_ok makes (Utf8.ofText text)
  refine Ensures.withScratch (fun cause storage same => ?_) fun storage same => ?_
  · rw [made] at same
    cases same
  rw [made] at same
  cases same
  apply Ensures.bind
  refine (edits_openEditor text _ written).mono ?_ fun _ _ edits => edits
  intro _ opened edits
  have rest : (do
      if !given.has "no-reload" then
        let edited ← readText .scratch .io
        changeBuffer fun _ => .ofText edited : Action Unit).Keeps unopened := by
    split
    · exact (unopened_readText _ _).bind fun _ _ => unopened_changeBuffer _
    · exact .pure trivial
  exact (rest opened).mono (fun _ _ kept => edits.unopened kept.2)
    fun _ _ kept => edits.unopened kept

/-- With the number of a line of the history, the editor is opened on the scratch file with that
line. -/
theorem edits_edit {around : Surroundings} {desk : Desk}
    (found : (around.past desk.history).lines[number]? = some line)
    (small : number < Text.largestInteger) (makes : (desk.storage.attempts 3).1 = none) :
    (edit around [some "--in", some (natText number)]).Ensures desk
      (fun _ after => Edits (line ++ "\n") desk after)
      fun _ after => Edits (line ++ "\n") desk after := by
  have is : readInteger (natText number) = .ok (.ofInt number) := by
    rw [readInteger, natText, String.toList_ofList,
      Text.readInteger_natDigits (Nat.le_of_lt small)]
  have same := Text.toInt_ofInt_of_small (Nat.le_of_lt small)
  have selected := HistorySlice.select?_single found same small
  have edited : editedText around ⟨[("in", [.integer (.ofInt number)])], true⟩ desk =
      .ok (line ++ "\n") := by
    have notTemp :
        Flags.Given.has ⟨[("in", [.integer (.ofInt number)])], true⟩ "temp" = false := rfl
    have numbered : Flags.Given.integer? ⟨[("in", [.integer (.ofInt number)])], true⟩ "in" =
        some (.ofInt number) := rfl
    unfold editedText
    rw [notTemp, numbered]
    dsimp only
    rw [if_neg Bool.false_ne_true, selected]
    dsimp only
    rw [HistorySlice.joined_singleton]
  have noFile : Flags.Given.text? ⟨[("in", [.integer (.ofInt number)])], true⟩ "FILE" = none := rfl
  unfold edit readFlags
  rw [List.filterMap_cons, List.filterMap_cons]
  dsimp only [id]
  rw [List.filterMap_nil, editSpec_read is]
  dsimp only
  rw [pure_bind]
  dsimp only
  rw [noFile]
  apply Ensures.bind
  exact (edits_editInput edited makes).mono (fun _ _ edits => edits) fun _ _ edits => edits

end Commands

namespace Registry

variable {past : HistorySlice} {number : Nat} {line value : String}

theorem histGiven?_optionLine (long : String) (among : long ∈ ["show", "replay"])
    (plain : PlainWord value) :
    builtin.histGiven? (optionLine "hist" long value) =
      some ⟨[(long, [.text value])], true⟩ := by
  have plainFlag : PlainWord ("--" ++ long) := by
    rcases List.mem_pair.mp among with rfl | rfl
    · exact ⟨by decide, by decide⟩
    · exact ⟨by decide, by decide⟩
  have isListed : ⟨.ofName "hist", .variadic, true, Commands.hist⟩ ∈ listed := by simp [listed]
  obtain ⟨command, recognized, found, named, _, arguments⟩ :=
    find?_optionLine isListed plainFlag plain
  have read : Commands.histGiven? [some ("--" ++ long), some value] =
      some ⟨[(long, [.text value])], true⟩ := by
    unfold Commands.histGiven?
    rw [List.filterMap_cons, List.filterMap_cons]
    dsimp only [id]
    rw [List.filterMap_nil, Commands.histSpec_read among]
    rfl
  rw [histGiven?, found]
  dsimp only
  rw [if_pos named, arguments]
  exact read

/-- A line of the history is listed by its number. -/
theorem listed?_show (found : past.lines[number]? = some line) (whole : past.start = 0)
    (small : number < Text.largestInteger) :
    builtin.listed? past (optionLine "hist" "show" (natText number)) = some [(number, line)] := by
  have given := histGiven?_optionLine "show" (by decide) (plainWord_natText number)
  have same := Text.toInt_ofInt_of_small (Nat.le_of_lt small)
  have selected := HistorySlice.select?_single found same small
  have range := LineRange.ofText?_natText (Nat.le_of_lt small)
  rw [whole, Nat.zero_add] at selected
  have listedPattern : Commands.listedPattern? ⟨[("show", [.text (natText number)])], true⟩ =
      some none := rfl
  have listedSlice : Commands.listedSlice? past ⟨[("show", [.text (natText number)])], true⟩ =
      some ⟨number, [line]⟩ := by
    change (LineRange.ofText? (natText number)).bind past.select? = _
    rw [range, Option.bind_some, selected]
  rw [listed?, given, Option.bind_some]
  change (do
    let pattern ← Commands.listedPattern? _
    let slice ← Commands.listedSlice? past _
    some (Commands.shownEntries builtin.catalogue pattern false slice)) = _
  rw [listedPattern, listedSlice]
  rfl

/-- A line of the history is replayed by its number. -/
theorem replayedText?_replay (found : past.lines[number]? = some line)
    (small : number < Text.largestInteger) :
    builtin.replayedText? past (optionLine "hist" "replay" (natText number)) =
      some (line ++ "\n") := by
  have given := histGiven?_optionLine "replay" (by decide) (plainWord_natText number)
  have same := Text.toInt_ofInt_of_small (Nat.le_of_lt small)
  have selected := HistorySlice.select?_single found same small
  have range := LineRange.ofText?_natText (Nat.le_of_lt small)
  have kept : Flags.Given.has ⟨[("replay", [.text (natText number)])], true⟩ "clear" = false := rfl
  have text : Flags.Given.text? ⟨[("replay", [.text (natText number)])], true⟩ "replay" =
      some (natText number) := rfl
  rw [replayedText?, given, Option.bind_some, Commands.replayedText?, kept, text]
  simp only [Bool.false_eq_true, if_false, Option.bind_eq_bind, Option.bind_some, range, selected,
    HistorySlice.joined_singleton]

/-- A line of the history is edited by its number. -/
theorem edits_dispatch (around : Surroundings) (desk : Desk)
    (found : (around.past desk.history).lines[number]? = some line)
    (small : number < Text.largestInteger) (makes : (desk.storage.attempts 3).1 = none) :
    (builtin.dispatch around (optionLine "edit" "in" (natText number))).Ensures desk
      (fun _ after => Commands.Edits (line ++ "\n") desk after)
      fun _ after => Commands.Edits (line ++ "\n") desk after := by
  have isListed : ⟨.ofName "edit", .variadic, true, Commands.edit⟩ ∈ listed := by simp [listed]
  have plainFlag : PlainWord ("--" ++ "in") := ⟨by decide, by decide⟩
  obtain ⟨command, recognized, invoked, _, isEdit, arguments⟩ :=
    find?_optionLine isListed plainFlag (plainWord_natText number)
  refine ensures_dispatch_of_arguments invoked arguments fun message => ?_
  rw [isEdit]
  exact Commands.edits_edit found small makes

end Registry

end Console
