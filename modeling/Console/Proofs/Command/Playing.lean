import Console.Proofs.Command.Rereading

/-!
# What is played is read

`play` puts the lines of a range in front of the input as one text: they are joined by newlines, and
the input cuts the text into lines again.  They come back one by one, but for an empty line at the
end of the range: no newline is written behind it, so there is nothing left of it to be read.

`show-method` writes a number in front of each line of a source.  A line is played by its number
where both count from the same one.
-/

namespace Console

/-! ## Joined lines -/

namespace Text

theorem joinWith_concat (separator : List Char) (front : List (List Char)) (last : List Char) :
    joinWith separator (front ++ [last]) = front.flatMap (· ++ separator) ++ last := by
  induction front with
  | nil => rfl
  | cons line front ih =>
      obtain ⟨next, rest, split⟩ :=
        List.exists_cons_of_ne_nil
          (List.append_ne_nil_of_right_ne_nil front (List.cons_ne_nil last []))
      rw [List.flatMap_cons, List.append_assoc, ← ih, List.cons_append, split]
      rfl

theorem ended_flatMap (front : List (List Char)) : Ended (front.flatMap (· ++ ['\n'])) := by
  rcases List.eq_nil_or_concat' front with rfl | ⟨front, last, rfl⟩
  · exact ended_nil
  · rw [List.flatMap_append, List.flatMap_singleton, ← List.append_assoc]
    exact (ended_concat _ _).mpr rfl

/-- Lines that are joined and cut apart again are the same lines, without an empty one at their
end. -/
theorem lines_joinWith {texts : List (List Char)} (plain : ∀ line ∈ texts, Plain line) :
    lines (joinWith ['\n'] texts) = if texts.getLast? = some [] then texts.dropLast else texts := by
  rcases List.eq_nil_or_concat' texts with rfl | ⟨front, last, rfl⟩
  · rfl
  · rw [List.forall_mem_append, List.forall_mem_singleton] at plain
    rw [joinWith_concat, lines_append_of_ended (ended_flatMap front), lines_flatMap plain.1,
      List.getLast?_concat, List.dropLast_concat]
    by_cases empty : last = []
    · rw [empty, if_pos rfl, lines_nil, List.append_nil]
    · rw [if_neg (mt Option.some.inj empty), lines, pieces_of_not_mem plain.2.1 empty,
        List.map_singleton, withoutLineEnd_of_not_mem plain.2.1]

end Text

/-- Lines without the last of them, if that is empty. -/
def withoutEmptyEnd (lines : List String) : List String :=
  if lines.getLast? = some "" then lines.dropLast else lines

/-- Nothing is lost just of lines with no empty one at their end. -/
theorem withoutEmptyEnd_eq_self_iff {lines : List String} :
    withoutEmptyEnd lines = lines ↔ lines.getLast? ≠ some "" := by
  refine ⟨fun kept empty => ?_, fun furnished => if_neg furnished⟩
  have some : lines ≠ [] := by
    rintro rfl
    cases empty
  have shorter : lines.dropLast = lines := (if_pos empty).symm.trans kept
  have counted := congrArg List.length shorter
  have positive := List.length_pos_iff.mpr some
  rw [List.length_dropLast] at counted
  omega

theorem linesOf_joinWith_newline {lines : List String}
    (plain : ∀ line ∈ lines, Text.Plain line.toList) :
    linesOf (joinWith "\n" lines) = withoutEmptyEnd lines := by
  have plainToo : ∀ line ∈ lines.map String.toList, Text.Plain line := by
    simpa only [List.forall_mem_map] using plain
  have sameEnd : (lines.map String.toList).getLast? = some [] ↔ lines.getLast? = some "" := by
    simp [List.getLast?_map]
  have back (lines : List String) : (lines.map String.toList).map String.ofList = lines := by
    simp
  change (Text.lines (String.ofList (Text.joinWith ['\n'] (lines.map String.toList))).toList).map
    String.ofList = _
  rw [String.toList_ofList, Text.lines_joinWith plainToo, withoutEmptyEnd]
  simp only [sameEnd]
  split
  · rw [← List.map_dropLast, back]
  · exact back lines

/-! ## Playing as an action -/

namespace Commands

variable {words : List String} {given : Flags.Given} {text source : String} {range : LineRange}
  {around : Surroundings} {desk after : Desk}

theorem linesInRange_eq_ok {base : IndexBase} {span : Span}
    (selected : range.clamp (linesOf source).length base = some span) :
    linesInRange base range source = .ok (joinWith "\n" (span.of (linesOf source))) := by
  unfold linesInRange
  dsimp only
  rw [selected]

theorem linesInRange_eq_error {base : IndexBase}
    (unselected : range.clamp (linesOf source).length base = none) :
    linesInRange base range source = .error (.noLines range) := by
  unfold linesInRange
  dsimp only
  rw [unselected]

/-- Puts the lines of a range of a text in front of the input; where there is none, that is the
error, and nothing else is done. -/
def playing (base : IndexBase) (range : LineRange) (source : String) (desk : Desk) :
    EStateM.Result Error Desk Dispatched :=
  match linesInRange base range source with
  | .ok text => .ok (.handled .next) { desk.unlogged with input := desk.input.inject text }
  | .error error => .error error desk.unlogged

/-- Nothing but the files is touched to find the text that is played. -/
theorem exists_storage_of_playedText (found : playedText around given desk = .ok source after) :
    ∃ storage, after = { desk with storage } := by
  unfold playedText at found
  cases named : given.text? "method" with
  | some name =>
      rw [named] at found
      dsimp only at found
      cases sourced : around.calculator.source? name with
      | some text =>
          rw [sourced] at found
          cases found
          exact ⟨_, rfl⟩
      | none =>
          rw [sourced] at found
          cases found
  | none =>
      rw [named] at found
      simp only [Action.readText] at found
      generalize desk.storage.readText _ = read at found
      obtain ⟨outcome, storage⟩ := read
      cases outcome with
      | ok text =>
          cases found
          exact ⟨storage, rfl⟩
      | error cause => cases found

/-- The source of the method that is named is played. -/
theorem playedText_of_source? {name : String} (named : given.text? "method" = some name)
    (sourced : around.calculator.source? name = some source) (desk : Desk) :
    playedText around given desk = .ok source desk := by
  rw [playedText, named]
  dsimp only
  rw [sourced]
  rfl

theorem play_lines (options : playSpec.read words = .ok given)
    (limited : given.text? "lines" = some text) (isRange : LineRange.ofText? text = some range)
    (around : Surroundings) :
    play around (words.map some) = (do
      let source ← playedText around given
      let text ← Action.ofExcept (linesInRange around.settings.base range source)
      Action.inject text
      pure .next) := by
  have flags : Action.readFlags playSpec (words.map some) = pure (some given) := by
    have same : (words.map some).filterMap id = words := by
      rw [List.filterMap_map, Function.id_comp, List.filterMap_some]
    rw [Action.readFlags, same, options]
  have read : Action.readRange text = pure range := by rw [Action.readRange, isRange]
  rw [play, flags, pure_bind]
  dsimp only
  rw [limited]
  dsimp only
  rw [read]
  simp only [pure_bind]

theorem apparent_play_lines (options : playSpec.read words = .ok given)
    (limited : given.text? "lines" = some text) (isRange : LineRange.ofText? text = some range)
    (found : playedText around given desk = .ok source after) :
    (play around (words.map some) >>= fun outcome => pure (.handled outcome) :
      Action Dispatched).apparent desk = playing around.settings.base range source after := by
  have rest (source : String) : ((do
      let text ← Action.ofExcept (linesInRange around.settings.base range source)
      Action.inject text
      pure (.handled .next)) : Action Dispatched).Blind :=
    Action.Blind.ofExcept.bind fun _ => (Action.Blind.inject _).bind fun _ => .pure
  have sourced : (playedText around given).apparent desk = .ok source after.unlogged := by
    rw [Action.apparent, found]
  rw [play_lines options limited isRange]
  simp only [bind_assoc, pure_bind]
  rw [Action.apparent_bind rest, sourced]
  dsimp only
  rw [rest source after]
  unfold playing
  cases linesInRange around.settings.base range source with
  | ok text => rfl
  | error error => rfl

/-! ## Showing sources -/

variable {name line : String} {first number : Nat}

/-- A name behind an option that numbers the lines is the name of what is shown. -/
theorem showMethodSpec_read {flag : String} (among : flag ∈ ["base-one", "line-numbers"])
    (bare : Flags.IsBare name) :
    showMethodSpec.read ["--" ++ flag, name] =
      .ok ⟨[(flag, [.text ""]), ("METH", [.text name])], true⟩ := by
  have plain (given : Flags.Given) : showMethodSpec.readWord { given } name =
      .ok { given, pending := some ("METH", [name]) } :=
    Flags.Spec.readWord_of_bare bare rfl
  have flagged : showMethodSpec.readWord {} ("--" ++ flag) =
      .ok { given := ⟨[(flag, [.text ""])], true⟩ } := by
    rcases List.mem_pair.mp among with rfl | rfl <;> rfl
  rw [Flags.Spec.read, List.foldlM_cons, flagged]
  change ([name].foldlM (fun state word => showMethodSpec.readWord state word) _ >>= _) = _
  rw [List.foldlM_cons, plain]
  rcases List.mem_pair.mp among with rfl | rfl <;> rfl

/-- A name and a text are the name of what is played and the range of it. -/
theorem playSpec_read (bare : Flags.IsBare name) (text : String) :
    playSpec.read ["--method", name, "--lines", text] =
      .ok ⟨[("method", [.text name]), ("lines", [.text text])], true⟩ := by
  obtain ⟨method, isMethod⟩ : ∃ option, playSpec.long? "method" = some option := ⟨_, rfl⟩
  have flagged : playSpec.readWord {} "--method" =
      .ok { pending := some ("method", []), awaiting := .value method } := by
    cases isMethod
    rfl
  have valued :
      playSpec.readWord { pending := some ("method", []), awaiting := .value method } name =
        .ok { pending := some ("method", [name]) } :=
    Flags.Spec.readWord_of_bare bare rfl
  rw [Flags.Spec.read, List.foldlM_cons, flagged]
  change ([name, "--lines", text].foldlM (fun state word => playSpec.readWord state word) _ >>= _) =
    _
  rw [List.foldlM_cons, valued]
  rfl

/-- The lines of a source that are shown, each with its number; the newlines at its end are not. -/
def shownLines (first : Nat) (source : String) : List (Nat × String) :=
  (linesOf (withoutFinalNewlines source)).zipIdx first |>.map fun (line, number) => (number, line)

/-- What stands above a source that is shown. -/
def sourceHeading (name source : String) : String :=
  "From: " ++ name ++ "\nNumber of lines: " ++
    natText (linesOf (withoutFinalNewlines source)).length ++ "\n"

/-- The number that a line is shown with is told from its place in the source. -/
theorem getElem?_of_mem_shownLines (noReturn : '\r' ∉ source.toList)
    (shown : (number, line) ∈ shownLines first source) :
    first ≤ number ∧ (linesOf source)[number - first]? = some line := by
  obtain ⟨⟨_, _⟩, member, same⟩ := List.mem_map.mp shown
  cases same
  obtain ⟨counted, found⟩ := List.mem_zipIdx_iff_le_and_getElem?_sub.mp member
  obtain ⟨rest, split⟩ := linesOf_prefix_of_withoutFinalNewlines noReturn
  have within := (List.getElem?_eq_some_iff.mp found).1
  exact ⟨counted, by rw [← split, List.getElem?_append_left within, found]⟩

theorem showSource_of_source? (isOpen : desk.transcript.Open)
    (sourced : around.calculator.source? name = some source) :
    showSource around (some first) name desk =
      .ok () { desk with
        transcript := (desk.transcript.wrote (sourceHeading name source ++ "\n")).wrote
          (numberedLines around.settings.colours (shownLines first source) ++ "\n") } := by
  let headed : Desk :=
    { desk with transcript := desk.transcript.wrote (sourceHeading name source ++ "\n") }
  have stillOpen : headed.transcript.Open := (desk.transcript.extends_wrote _).isOpen isOpen
  unfold showSource
  rw [sourced]
  change EStateM.bind (Action.say (sourceHeading name source)) (fun _ => Action.say
    (numberedLines around.settings.colours (shownLines first source))) desk = _
  rw [EStateM.bind, Action.say_of_open isOpen]
  exact Action.say_of_open stillOpen _

/-- The numbers that a source is shown with start at one, or at the first number of the base. -/
theorem showMethod_of_source? {flag : String} (bare : Flags.IsBare name)
    (flagged : (flag, first) ∈ [("base-one", 1), ("line-numbers", around.settings.base.first)])
    (isOpen : desk.transcript.Open)
    (sourced : around.calculator.source? name = some source) :
    showMethod around [some ("--" ++ flag), some name] desk =
      .ok .next { desk with
        transcript := (desk.transcript.wrote (sourceHeading name source ++ "\n")).wrote
          (numberedLines around.settings.colours (shownLines first source) ++ "\n") } := by
  have among : flag ∈ ["base-one", "line-numbers"] := List.mem_map_of_mem (f := Prod.fst) flagged
  have read := showMethodSpec_read among bare
  have numbered : firstNumber? around.settings
      ⟨[(flag, [.text ""]), ("METH", [.text name])], true⟩ = some first := by
    rcases List.mem_pair.mp flagged with same | same <;> cases same <;> rfl
  have named : Flags.Given.texts ⟨[(flag, [.text ""]), ("METH", [.text name])], true⟩ "METH" =
      [name] := by
    rcases List.mem_pair.mp among with rfl | rfl <;> rfl
  have flags : Action.readFlags showMethodSpec [some ("--" ++ flag), some name] =
      pure (some ⟨[(flag, [.text ""]), ("METH", [.text name])], true⟩) := by
    rw [Action.readFlags, List.filterMap_cons, List.filterMap_cons]
    dsimp only [id]
    rw [List.filterMap_nil, read]
  rw [showMethod, flags, pure_bind]
  dsimp only
  rw [numbered, named]
  simp only [showSources, bind, EStateM.bind, showSource_of_source? isOpen sourced]
  rfl

end Commands

/-- As many lines of a stack are used up as are read of it. -/
theorem LineStack.length_of_next {count : Nat} {stack : LineStack}
    (injected : ∀ read ∈ (feed.next count stack).1, read.2 = .injected) :
    stack.lines.length = count + (feed.next count stack).2.lines.length := by
  induction count generalizing stack with
  | zero => exact (Nat.zero_add _).symm
  | succ count ih =>
      obtain ⟨base, lines⟩ := stack
      cases lines with
      | nil =>
          have first := injected _ List.mem_cons_self
          cases base <;> cases first
      | cons line lines =>
          have counted : lines.length = count + (feed.next count ⟨base, lines⟩).2.lines.length :=
            ih fun read member => injected read (List.mem_cons_of_mem _ member)
          change lines.length + 1 = count + 1 + (feed.next count ⟨base, lines⟩).2.lines.length
          omega

/-- Injected lines that are read before the input goes on as before are all that was put in. -/
theorem InputChain.length_of_next_inject {chain : InputChain} {text : String} {lines : List String}
    (read : (feed.next lines.length (chain.inject text)).1 =
      lines.map fun line => (.line line, .injected))
    (rest : (feed.next lines.length (chain.inject text)).2.stack = chain.stack) :
    lines.length = (linesOf text).length := by
  have seen := seenAs_stack.next lines.length (chain.inject text)
  rw [read, rest, chain.stack_inject, Prod.ext_iff] at seen
  have injected : ∀ read ∈ (LineStack.feed.next lines.length (chain.stack.inject text)).1,
      read.2 = .injected := by
    simp [seen.1]
  have counted := LineStack.length_of_next injected
  rw [seen.2, LineStack.inject, List.length_append] at counted
  exact (Nat.add_right_cancel counted).symm

/-- The lines that are read before the input goes on as before are those of the text that was put
in. -/
theorem InputChain.next_inject_iff {chain : InputChain} {text : String} {lines : List String} :
    (feed.next lines.length (chain.inject text)).1 =
        lines.map (fun line => (.line line, .injected)) ∧
      (feed.next lines.length (chain.inject text)).2.stack = chain.stack ↔
    lines = linesOf text := by
  constructor
  · rintro ⟨read, rest⟩
    have next := (chain.next_inject text).1
    rw [← InputChain.length_of_next_inject read rest, read] at next
    have injective : Function.Injective fun line : String =>
        (Answer.line line, Origin.injected) := by
      rintro line other ⟨⟩
      rfl
    exact List.map_injective_iff.mpr injective next
  · rintro rfl
    exact chain.next_inject text

/-- Some lines are read next, and then the input goes on as it was before.  Nothing else is
changed. -/
def Injects (desk : Desk) (lines : List String)
    (dispatched : EStateM.Result Error Desk Dispatched) : Prop :=
  ∃ input, dispatched = .ok (.handled .next) { desk.unlogged with input } ∧
    (InputChain.feed.next lines.length input).1 =
      lines.map (fun line => (.line line, .injected)) ∧
    (InputChain.feed.next lines.length input).2.stack = desk.input.stack

namespace Registry

open Commands

variable {arguments text source : String} {words : List String} {given : Flags.Given}
  {range : LineRange} {around : Surroundings} {desk after : Desk}

/-- A line whose words name a text and a range plays the lines of the range. -/
theorem apparent_dispatch_play (gap : arguments.toList.head?.any Text.isBlank)
    (read : wordsOf (trimmed arguments) = .ok words) (options : playSpec.read words = .ok given)
    (limited : given.text? "lines" = some text) (isRange : LineRange.ofText? text = some range)
    (found : playedText around given desk = .ok source after) :
    (builtin.dispatch around ("play" ++ arguments)).apparent desk =
      playing around.settings.base range source after := by
  have isListed : ⟨.ofName "play", .variadic, true, play⟩ ∈ listed := by simp [listed]
  have some : words ≠ [] := by
    rintro rfl
    cases options
  obtain ⟨command, recognized, invoked, _, isPlay, fitted⟩ := find?_words isListed gap read some
  rw [apparent_dispatch blind_builtin, invoked?, invoked,
    ← apparent_play_lines options limited isRange found]
  change (command.run recognized around).apparent desk = _
  rw [Command.run.eq_def, fitted, isPlay]
  rfl

/-- The lines of a span are played without an empty one at their end. -/
theorem linesOf_played (noReturn : '\r' ∉ source.toList) (span : Span) :
    linesOf (joinWith "\n" (span.of (linesOf source))) =
      withoutEmptyEnd (span.of (linesOf source)) := by
  apply linesOf_joinWith_newline
  intro line member
  have isLine : line ∈ linesOf source := List.mem_of_mem_drop (List.mem_of_mem_take member)
  obtain ⟨characters, among, rfl⟩ := List.mem_map.mp isLine
  rw [String.toList_ofList]
  exact Text.plain_of_mem_lines noReturn among

/-- What is selected of a text without carriage returns is read first of all, without an empty line
at its end. -/
theorem next_of_playing {base : IndexBase} {span : Span} (noReturn : '\r' ∉ source.toList)
    (selected : range.clamp (linesOf source).length base = some span) (desk : Desk) :
    let lines := span.of (linesOf source)
    let played := withoutEmptyEnd lines
    ∃ input, playing base range source desk = .ok (.handled .next) { desk.unlogged with input } ∧
      (InputChain.feed.next played.length input).1 =
        played.map (fun line => (.line line, .injected)) ∧
      (InputChain.feed.next played.length input).2.stack = desk.input.stack ∧
      ((InputChain.feed.next lines.length input).1 =
          lines.map (fun line => (.line line, .injected)) ∧
        (InputChain.feed.next lines.length input).2.stack = desk.input.stack ↔
          lines.getLast? ≠ some "") := by
  intro lines played
  have cut : linesOf (joinWith "\n" lines) = played := linesOf_played noReturn span
  obtain ⟨read, rest⟩ := InputChain.next_inject_iff.mpr cut.symm
  refine ⟨desk.input.inject (joinWith "\n" lines), ?_, read, rest, ?_⟩
  · unfold playing
    rw [linesInRange_eq_ok selected]
  · rw [InputChain.next_inject_iff, cut, eq_comm]
    exact withoutEmptyEnd_eq_self_iff

/-- Playing reads the lines of a range.  Whatever line names a text without carriage returns and a
range of it, what the range selects is read next, line by line in the order of the text and before
all other input, but an empty line at its end is lost: just where there is none, as many lines as
are selected are read before the input goes on as before, and they are the selected ones.  Nothing
but the input and the files is touched.  It is an error if and only if no line is selected. -/
theorem playing_reads_selected_lines (around : Surroundings) (desk : Desk)
    (gap : arguments.toList.head?.any Text.isBlank)
    (read : wordsOf (trimmed arguments) = .ok words) (options : playSpec.read words = .ok given)
    (limited : given.text? "lines" = some text) (isRange : LineRange.ofText? text = some range)
    (found : playedText around given desk = .ok source after) (noReturn : '\r' ∉ source.toList) :
    let lines := linesOf source
    let base := around.settings.base
    let dispatched := (builtin.dispatch around ("play" ++ arguments)).apparent desk
    (∃ storage, after = { desk with storage }) ∧
    (∀ span, range.clamp lines.length base = some span →
      ∃ input, dispatched = .ok (.handled .next) { after.unlogged with input } ∧
        (InputChain.feed.next (withoutEmptyEnd (span.of lines)).length input).1 =
          (withoutEmptyEnd (span.of lines)).map (fun line => (.line line, .injected)) ∧
        (InputChain.feed.next (withoutEmptyEnd (span.of lines)).length input).2.stack =
          desk.input.stack ∧
        ((InputChain.feed.next span.length input).1 =
            (span.of lines).map (fun line => (.line line, .injected)) ∧
          (InputChain.feed.next span.length input).2.stack = desk.input.stack ↔
            (span.of lines).getLast? ≠ some "")) ∧
    (dispatched = .error (.noLines range) after.unlogged ↔
      range.clamp lines.length base = none) ∧
    (lines.length < Text.largestInteger → ∀ span,
      range.clamp lines.length base = some span ↔
        range.Selects lines.length base
          (min (range.exactStop lines.length base) lines.length) span) := by
  intro lines base dispatched
  have plays : dispatched = playing base range source after :=
    apparent_dispatch_play gap read options limited isRange found
  obtain ⟨storage, rfl⟩ := exists_storage_of_playedText found
  refine ⟨⟨storage, rfl⟩, ?_, ?_, fun short span => LineRange.clamp_eq_some_iff short⟩
  · intro span selected
    obtain ⟨input, done, next⟩ := next_of_playing noReturn selected { desk with storage }
    have counted : (span.of lines).length = span.length := by
      obtain ⟨_, inside⟩ := LineRange.clamp_spec selected
      rw [Span.of, Span.length, List.length_take, List.length_drop]
      omega
    rw [counted] at next
    exact ⟨input, plays.trans done, next⟩
  · cases selected : range.clamp lines.length base with
    | some span =>
        obtain ⟨input, done, _⟩ := next_of_playing noReturn selected { desk with storage }
        rw [plays, done]
        refine iff_of_false ?_ ?_
        · rintro ⟨⟩
        · rintro ⟨⟩
    | none =>
        have fails : playing base range source { desk with storage } =
            .error (.noLines range) (Desk.unlogged { desk with storage }) := by
          unfold playing
          rw [linesInRange_eq_error selected]
        exact iff_of_true (plays.trans fails) rfl

/-- Surroundings in which a text over three lines has a name. -/
def storing : Surroundings :=
  { alone with calculator := Calculator.defineSource {} "text" "\"a\n\nb\"" }

/-- The range begins at the empty line, and its end is cut to the last line. -/
theorem playing_reads_selected_lines_from_empty_line :
    " -m text --lines '2 .. 9'".toList.head?.any Text.isBlank ∧
      wordsOf (trimmed " -m text --lines '2 .. 9'") = .ok ["-m", "text", "--lines", "2 .. 9"] ∧
      LineRange.ofText? "2 .. 9" = some (.inclusive 2 9) ∧
      '\r' ∉ "\"a\n\nb\"".toList ∧
      ∃ input, (builtin.dispatch storing "play -m text --lines '2 .. 9'").apparent begun =
          .ok (.handled .next) { begun.unlogged with input } ∧
        (InputChain.feed.next 2 input).1 = [(.line "", .injected), (.line "b\"", .injected)] ∧
        (InputChain.feed.next 2 input).2.stack = {} := by
  have gap : " -m text --lines '2 .. 9'".toList.head?.any Text.isBlank := rfl
  have read : wordsOf (trimmed " -m text --lines '2 .. 9'") =
      .ok ["-m", "text", "--lines", "2 .. 9"] := rfl
  have options : playSpec.read ["-m", "text", "--lines", "2 .. 9"] =
      .ok ⟨[("method", [.text "text"]), ("lines", [.text "2 .. 9"])], true⟩ := rfl
  have isRange : LineRange.ofText? "2 .. 9" = some (.inclusive 2 9) := rfl
  have found : playedText storing
      ⟨[("method", [.text "text"]), ("lines", [.text "2 .. 9"])], true⟩ begun =
        .ok "\"a\n\nb\"" begun := rfl
  have noReturn : '\r' ∉ "\"a\n\nb\"".toList := by decide
  have selected : (LineRange.inclusive 2 9).clamp 3 .one = some ⟨1, 3⟩ := rfl
  have furnished : (Span.of ⟨1, 3⟩ ["\"a", "", "b\""]).getLast? ≠ some "" := by decide
  obtain ⟨_, plays, _⟩ :=
    playing_reads_selected_lines storing begun gap read options rfl isRange found noReturn
  obtain ⟨input, done, _, _, whole⟩ := plays ⟨1, 3⟩ selected
  obtain ⟨next, rest⟩ := whole.mpr furnished
  exact ⟨gap, read, isRange, noReturn, input, done, next, rest⟩

/-- Where the range ends at the empty line, only the line before it is read. -/
theorem play_loses_empty_line :
    ∃ input, (builtin.dispatch storing "play -m text --lines 1..2").apparent begun =
        .ok (.handled .next) { begun.unlogged with input } ∧
      LineRange.ofText? "1..2" = some (.inclusive 1 2) ∧
      (LineRange.inclusive 1 2).clamp (linesOf "\"a\n\nb\"").length .one = some ⟨0, 2⟩ ∧
      Span.of ⟨0, 2⟩ (linesOf "\"a\n\nb\"") = ["\"a", ""] ∧
      (InputChain.feed.next 2 input).1 =
        [(.line "\"a", .injected), (.endOfInput, .interactive)] := by
  have given : playSpec.read ["-m", "text", "--lines", "1..2"] =
      .ok ⟨[("method", [.text "text"]), ("lines", [.text "1..2"])], true⟩ := rfl
  have isRange : LineRange.ofText? "1..2" = some (.inclusive 1 2) := rfl
  have played : (builtin.dispatch storing ("play" ++ " -m text --lines 1..2")).apparent begun =
      playing .one (.inclusive 1 2) "\"a\n\nb\"" begun :=
    apparent_dispatch_play rfl rfl given rfl isRange rfl
  exact ⟨begun.input.inject "\"a\n", played, isRange, rfl, rfl, rfl⟩

/-! ## Numbers that are shown -/

variable {name flag shown : String} {first number : Nat} {base : IndexBase} {span : Span}
  {lines : List String}

/-- Playing injects the lines of a range, without an empty one at their end, and no others. -/
theorem injects_playing_iff (noReturn : '\r' ∉ source.toList)
    (selected : range.clamp (linesOf source).length base = some span) :
    Injects desk lines (playing base range source desk) ↔
      lines = withoutEmptyEnd (span.of (linesOf source)) := by
  have plays : playing base range source desk =
      .ok (.handled .next) { desk.unlogged with
        input := desk.input.inject (joinWith "\n" (span.of (linesOf source))) } := by
    unfold playing
    rw [linesInRange_eq_ok selected]
  have cut := linesOf_played noReturn span
  generalize joinWith "\n" (span.of (linesOf source)) = text at plays cut
  rw [plays, ← cut]
  constructor
  · rintro ⟨input, done, next⟩
    have same : desk.input.inject text = input :=
      congrArg Desk.input (EStateM.Result.ok.inj done).2
    rw [← same] at next
    exact InputChain.next_inject_iff.mp next
  · exact fun same => ⟨_, rfl, InputChain.next_inject_iff.mpr same⟩

/-- A line with a number is played, unless it is empty; where there is none, that is an error. -/
theorem playing_single (noReturn : '\r' ∉ source.toList)
    (short : (linesOf source).length ≤ Text.largestInteger) (small : number ≤ Text.largestInteger)
    (counted : base.first ≤ number) :
    (∀ line, (linesOf source)[number - base.first]? = some line → ∀ lines,
      Injects desk lines (playing base (.single (.ofInt number)) source desk) ↔
        lines = withoutEmptyEnd [line]) ∧
    ((linesOf source)[number - base.first]? = none →
      playing base (.single (.ofInt number)) source desk =
        .error (.noLines (.single (.ofInt number))) desk.unlogged) := by
  have clamped := LineRange.clamp_number short small counted
  constructor
  · intro line found lines
    obtain ⟨within, isLine⟩ := List.getElem?_eq_some_iff.mp found
    have cut : (Span.mk (number - base.first) (number - base.first + 1)).of (linesOf source) =
        [line] := by
      rw [Span.of, Span.length, Nat.add_sub_cancel_left, List.drop_eq_getElem_cons within, isLine]
      rfl
    rw [if_pos within] at clamped
    rw [injects_playing_iff noReturn clamped, cut]
  · intro none
    rw [if_neg (Nat.not_lt.mpr (List.getElem?_eq_none_iff.mp none))] at clamped
    unfold playing
    rw [linesInRange_eq_error clamped]

/-- A line that shows a source writes its heading and its numbered lines. -/
theorem apparent_dispatch_showMethod (bare : Flags.IsBare name)
    (flagged : (flag, first) ∈ [("base-one", 1), ("line-numbers", around.settings.base.first)])
    (gap : shown.toList.head?.any Text.isBlank)
    (words : wordsOf (trimmed shown) = .ok ["--" ++ flag, name])
    (isOpen : desk.transcript.Open)
    (sourced : around.calculator.source? name = some source) :
    (builtin.dispatch around ("show-method" ++ shown)).apparent desk =
      .ok (.handled .next) { desk.unlogged with
        transcript :=
          (desk.transcript.unlogged.wrote (sourceHeading name source ++ "\n")).wrote
            (numberedLines around.settings.colours (shownLines first source) ++ "\n") } := by
  have isListed : ⟨.ofName "show-method", .variadic, true, showMethod⟩ ∈ listed := by simp [listed]
  obtain ⟨command, recognized, invoked, _, isShow, fitted⟩ :=
    find?_words isListed gap words (List.cons_ne_nil _ _)
  have shows := showMethod_of_source? bare flagged isOpen sourced
  rw [apparent_dispatch blind_builtin, invoked?, invoked]
  change (command.run recognized around).apparent desk = _
  rw [Command.run.eq_def, fitted, isShow, Action.apparent]
  simp only [Action.ofExcept, pure_bind, List.map_cons, List.map_nil]
  simp only [bind, EStateM.bind, shows]
  simp [pure, EStateM.pure, Desk.unlogged]

/-- The numbers in front of the lines of a source are those `play` has for them just where they
start at the first number of the base: `--line-numbers` always starts there, and `--base-one` does
where the base is one.  There, whatever source without carriage returns is shown, a line that is not
empty is what is played by its number, and nothing else is.  Where the base is zero, `--base-one`
starts at one all the same, and `play` does not: the line below is played, and it is an error if
there is none. -/
theorem shown_numbers_play_back (around : Surroundings) (desk : Desk) (bare : Flags.IsBare name)
    (sourced : around.calculator.source? name = some source) (noReturn : '\r' ∉ source.toList)
    (short : (linesOf source).length ≤ Text.largestInteger)
    (flagged : (flag, first) ∈ [("base-one", 1), ("line-numbers", around.settings.base.first)])
    (gap : shown.toList.head?.any Text.isBlank)
    (words : wordsOf (trimmed shown) = .ok ["--" ++ flag, name]) :
    let base := around.settings.base
    (desk.transcript.Open →
      (builtin.dispatch around ("show-method" ++ shown)).apparent desk =
        .ok (.handled .next) { desk.unlogged with
          transcript :=
            (desk.transcript.unlogged.wrote (sourceHeading name source ++ "\n")).wrote
              (numberedLines around.settings.colours (shownLines first source) ++ "\n") }) ∧
    ∀ number line, (number, line) ∈ shownLines first source → line ≠ "" →
      ∀ arguments, arguments.toList.head?.any Text.isBlank →
        wordsOf (trimmed arguments) = .ok ["--method", name, "--lines", natText number] →
        let dispatched := (builtin.dispatch around ("play" ++ arguments)).apparent desk
        (first = base.first → ∀ lines, Injects desk lines dispatched ↔ lines = [line]) ∧
        (first ≠ base.first →
          (∀ next, (linesOf source)[number]? = some next → ∀ lines,
            Injects desk lines dispatched ↔ lines = withoutEmptyEnd [next]) ∧
          ((linesOf source)[number]? = none →
            dispatched = .error (.noLines (.single (.ofInt number))) desk.unlogged)) := by
  intro base
  refine ⟨fun isOpen => apparent_dispatch_showMethod bare flagged gap words isOpen sourced, ?_⟩
  intro number line shown furnished arguments gapToo wordsToo dispatched
  obtain ⟨counted, found⟩ := getElem?_of_mem_shownLines noReturn shown
  have within := (List.getElem?_eq_some_iff.mp found).1
  have atMostOne : base.first ≤ 1 := by cases base <;> decide
  have starts : first = 1 ∨ first = base.first := by
    rcases List.mem_pair.mp flagged with same | same
    · exact .inl (congrArg Prod.snd same)
    · exact .inr (congrArg Prod.snd same)
  have small : number ≤ Text.largestInteger := by omega
  have plays : dispatched = playing base (.single (.ofInt number)) source desk :=
    apparent_dispatch_play gapToo wordsToo (playSpec_read bare _) rfl
      (LineRange.ofText?_natText small) (playedText_of_source? rfl sourced desk)
  have countedFromBase : base.first ≤ number := by omega
  rw [plays]
  obtain ⟨injects, fails⟩ := playing_single noReturn short small countedFromBase
  constructor
  · intro same lines
    rw [same] at found
    have kept : withoutEmptyEnd [line] = [line] :=
      withoutEmptyEnd_eq_self_iff.mpr (by simpa using furnished)
    rw [injects line found, kept]
  · intro differs
    have zero : base.first = 0 := by omega
    rw [zero] at injects fails
    exact ⟨injects, fails⟩

/-- Surroundings in which a text with blank lines has a name, and lines are numbered from a base. -/
def numbering (base : IndexBase) : Surroundings :=
  { alone with
    settings := { base }
    calculator := Calculator.defineSource {} "text" "a\n\nb\nc\n\n" }

/-- Where lines are numbered from one, the line behind a blank one is played by the number in front
of it. -/
theorem shown_numbers_play_back_behind_blank_line :
    Flags.IsBare "text" ∧
      (numbering .one).calculator.source? "text" = some "a\n\nb\nc\n\n" ∧
      '\r' ∉ "a\n\nb\nc\n\n".toList ∧
      (linesOf "a\n\nb\nc\n\n").length ≤ Text.largestInteger ∧
      (("base-one", 1) : String × Nat) ∈ [("base-one", 1), ("line-numbers", IndexBase.one.first)] ∧
      " --base-one text".toList.head?.any Text.isBlank ∧
      wordsOf (trimmed " --base-one text") = .ok ["--base-one", "text"] ∧
      (3, "b") ∈ shownLines 1 "a\n\nb\nc\n\n" ∧
      ∀ lines, Injects begun lines
          ((builtin.dispatch (numbering .one) "play --method text --lines 3").apparent begun) ↔
        lines = ["b"] := by
  have bare : Flags.IsBare "text" := by simp [Flags.IsBare]
  have sourced : (numbering .one).calculator.source? "text" = some "a\n\nb\nc\n\n" := rfl
  have noReturn : '\r' ∉ "a\n\nb\nc\n\n".toList := by decide
  have short : (linesOf "a\n\nb\nc\n\n").length ≤ Text.largestInteger := by decide
  have flagged : (("base-one", 1) : String × Nat) ∈
      [("base-one", 1), ("line-numbers", IndexBase.one.first)] := List.mem_cons_self
  have gap : " --base-one text".toList.head?.any Text.isBlank := rfl
  have words : wordsOf (trimmed " --base-one text") = .ok ["--base-one", "text"] := rfl
  have shown : (3, "b") ∈ shownLines 1 "a\n\nb\nc\n\n" := by decide
  have plays := (shown_numbers_play_back (numbering .one) begun bare sourced noReturn short flagged
    gap words).2 3 "b" shown (by decide) " --method text --lines 3" rfl rfl
  exact ⟨bare, sourced, noReturn, short, flagged, gap, words, shown, plays.1 rfl⟩

/-- Where lines are numbered from zero, the number in front of a line is played as that of the line
below it. -/
theorem base_one_counts_from_one :
    (builtin.dispatch (numbering .zero) "show-method --base-one text").apparent begun =
        .ok (.handled .next) { begun.unlogged with
          transcript := (begun.transcript.unlogged.wrote
            "From: text\nNumber of lines: 4\n\n").wrote "1: a\n2: \n3: b\n4: c\n" } ∧
      (3, "b") ∈ shownLines 1 "a\n\nb\nc\n\n" ∧
      Injects begun ["c"]
        ((builtin.dispatch (numbering .zero) "play --method text --lines 3").apparent begun) ∧
      ¬ Injects begun ["b"]
        ((builtin.dispatch (numbering .zero) "play --method text --lines 3").apparent begun) := by
  have bare : Flags.IsBare "text" := by simp [Flags.IsBare]
  have noReturn : '\r' ∉ "a\n\nb\nc\n\n".toList := by decide
  have flagged : ("base-one", 1) ∈ [("base-one", 1), ("line-numbers", IndexBase.zero.first)] :=
    List.mem_cons_self
  have sourced : (numbering .zero).calculator.source? "text" = some "a\n\nb\nc\n\n" := rfl
  have heading : sourceHeading "text" "a\n\nb\nc\n\n" ++ "\n" =
      "From: text\nNumber of lines: 4\n\n" := rfl
  have numbered : numberedLines (numbering .zero).settings.colours
      (shownLines 1 "a\n\nb\nc\n\n") ++ "\n" = "1: a\n2: \n3: b\n4: c\n" := rfl
  have writes := apparent_dispatch_showMethod bare flagged
    (rfl : " --base-one text".toList.head?.any Text.isBlank) rfl
    (.of_nil rfl rfl : begun.transcript.Open) sourced
  rw [heading, numbered] at writes
  have plays : (builtin.dispatch (numbering .zero) ("play" ++ " --method text --lines 3")).apparent
      begun = playing .zero (.single 3) "a\n\nb\nc\n\n" begun :=
    apparent_dispatch_play rfl rfl (playSpec_read bare "3") rfl rfl rfl
  have selected : (LineRange.single 3).clamp (linesOf "a\n\nb\nc\n\n").length .zero =
      some ⟨3, 4⟩ := rfl
  have injects (lines : List String) :
      Injects begun lines (playing .zero (.single 3) "a\n\nb\nc\n\n" begun) ↔ lines = ["c"] :=
    injects_playing_iff noReturn selected
  rw [← plays] at injects
  exact ⟨writes, by decide, (injects ["c"]).mpr rfl, mt (injects ["b"]).mp (by decide)⟩

end Registry

end Console
