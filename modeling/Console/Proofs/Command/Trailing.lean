import Console.Proofs.Command.Logging
import Console.Proofs.Command.Recognition

/-!
# Blanks at the end of a line

Blanks at the end of a line make no difference, unless they are all that stands behind the line
numbers of an amendment or behind `cd`: the patterns of these commands can take them for the text
that is missing there.
-/

namespace Console

/-! ## What is captured -/

namespace Matcher

variable {name line blanks : List Char}

/-- A name without blank characters ends before the blanks at the end of a line. -/
theorem afterName?_append (blank : Text.allBlank blanks = true)
    (visible : ∀ c ∈ name, Text.isBlank c = false) (line : List Char) :
    afterName? name (line ++ blanks) = (afterName? name line).map (· ++ blanks) := by
  cases found : afterName? name line with
  | some rest =>
      rw [afterName?_eq_some_iff] at found
      rw [Option.map_some, afterName?_eq_some_iff, found, List.append_assoc]
  | none =>
      rw [Option.map_none, afterName?_eq_none_iff]
      rw [afterName?_eq_none_iff] at found
      rintro ⟨rest, split⟩
      rcases List.append_eq_append_iff.mp split with ⟨more, rfl, _⟩ | ⟨more, rfl, rfl⟩
      · exact found ⟨more, rfl⟩
      · cases more with
        | nil => exact found ⟨[], by simp⟩
        | cons c more =>
            have isBlank : Text.isBlank c = true := Text.allBlank_iff.mp blank c (by simp)
            rw [visible c (by simp)] at isBlank
            cases isBlank

theorem worded?_append (blank : Text.allBlank blanks = true) (rest : List Char) :
    worded? (rest ++ blanks) = worded? rest := by
  cases rest with
  | nil =>
      cases blanks with
      | nil => rfl
      | cons c blanks =>
          have isBlank : Text.isBlank c = true := Text.allBlank_iff.mp blank c (by simp)
          have trimmed := Text.trim_append_of_allBlank [] blank
          rw [List.nil_append] at trimmed
          simp [worded?, isBlank, trimmed]
          rfl
  | cons c rest =>
      have trimmed := Text.trim_append_of_allBlank (c :: rest) blank
      rw [List.cons_append] at trimmed
      simp [worded?, trimmed]

end Matcher

namespace Commands

open Regex

variable {blanks text number rest : List Char}

theorem digitRun_append (blank : Text.allBlank blanks = true) (text : List Char) :
    (text ++ blanks).takeWhile isDigit = text.takeWhile isDigit ∧
      (text ++ blanks).dropWhile isDigit = text.dropWhile isDigit ++ blanks := by
  induction text with
  | nil =>
      cases blanks with
      | nil => simp
      | cons c blanks =>
          have isBlank : Text.isBlank c = true := Text.allBlank_iff.mp blank c (by simp)
          simp [not_isDigit_of_isBlank isBlank]
  | cons c text ih => cases digit : isDigit c <;> simp [digit, ih]

theorem digits?_append (blank : Text.allBlank blanks = true) (text : List Char) :
    digits? (text ++ blanks) = (digits? text).map (Prod.map id (· ++ blanks)) := by
  obtain ⟨same, longer⟩ := digitRun_append blank text
  unfold digits?
  rw [same, longer]
  split <;> rfl

theorem number?_append (blank : Text.allBlank blanks = true) (text : List Char) :
    number? (text ++ blanks) = (number? text).map (Prod.map id (· ++ blanks)) := by
  cases text with
  | nil =>
      cases blanks with
      | nil => rfl
      | cons c blanks =>
          have isBlank : Text.isBlank c = true := Text.allBlank_iff.mp blank c (by simp)
          rw [List.nil_append, number?_of_isBlank isBlank]
          rfl
  | cons c text =>
      by_cases signed : c = '-'
      · rw [signed, List.cons_append, number?, number?, digits?_append blank]
        simp [Option.map_map, Function.comp_def]
      · have unsigned (rest : List Char) : number? (c :: rest) = digits? (c :: rest) := by
          simp [number?, signed]
        rw [List.cons_append, unsigned, unsigned, ← List.cons_append, digits?_append blank]

/-- What stands behind the second number of a range, if there is one. -/
def behindRange : List Char → List Char
  | '.' :: '.' :: text =>
      match number? text with
      | some (_, rest) => rest
      | none => '.' :: '.' :: text
  | rest => rest

/-- What stands behind the numbers at the beginning of a text. -/
def behindNumbers (text : List Char) : List Char :=
  match number? text with
  | some (_, rest) => behindRange rest
  | none => text

/-- A line that names the lines to amend and no text, or `cd` and no target. -/
def isBare (line : String) : Bool :=
  (["amend-line", "%"].any fun name =>
    (Matcher.afterName? name.toList line.toList).any fun rest =>
      Text.allBlank (behindNumbers (Text.trimStart rest))) ||
  (Matcher.afterName? "cd".toList line.toList).any Text.allBlank

/-- Captured groups with the new text going on. -/
def lengthened (blanks : List Char) : Matched → Matched
  | [] => []
  | (index, text) :: groups => (index, if index = 3 then text ++ blanks else text) :: groups

theorem ending?_append (whole : '\n' ∉ blanks)
    (visible : Text.allBlank rest = false) (groups : Matched) :
    ending? groups (rest ++ blanks) = (ending? groups rest).map (lengthened blanks) := by
  obtain ⟨c, tail, rfl⟩ := List.exists_cons_of_ne_nil (l := rest) (by rintro rfl; cases visible)
  rw [List.cons_append]
  cases isBlank : Text.isBlank c with
  | false => simp [ending?, isBlank]
  | true =>
      have more : Text.allBlank tail = false := by simpa [isBlank] using visible
      have isSome : Text.trimStart tail ≠ [] := by simp [Text.trimStart_eq_nil_iff, more]
      simp [ending?, isBlank, Text.trimStart_append _ more, isSome, whole]
      split <;> rfl

theorem ranged?_append (blank : Text.allBlank blanks = true) (whole : '\n' ∉ blanks)
    (visible : Text.allBlank (behindRange rest) = false) (groups : Matched) :
    ranged? groups (rest ++ blanks) = (ranged? groups rest).map (lengthened blanks) := by
  unfold behindRange at visible
  split at visible
  next text =>
    simp only [List.cons_append, ranged?, number?_append blank]
    split at visible
    next found =>
      rw [found]
      exact ending?_append whole visible _
    next missing =>
      rw [missing]
      rfl
  next noDots =>
    have apart (text : List Char) : rest ++ blanks ≠ '.' :: '.' :: text := by
      intro dots
      match rest with
      | [] => cases visible
      | [c] =>
          obtain ⟨rfl, rfl⟩ := List.cons.inj dots
          cases blank
      | c :: d :: rest =>
          simp only [List.cons_append, List.cons.injEq] at dots
          exact noDots rest (by rw [dots.1, dots.2.1])
    rw [ranged?, ranged?, ending?_append whole visible]
    · exact noDots
    · exact apart

theorem amendment?_append (blank : Text.allBlank blanks = true) (whole : '\n' ∉ blanks)
    (visible : Text.allBlank (behindNumbers (Text.trimStart rest)) = false) :
    amendment? (rest ++ blanks) = (amendment? rest).map (lengthened blanks) := by
  have restVisible : Text.allBlank rest = false := by
    rw [← Bool.not_eq_true]
    intro hidden
    rw [Text.trimStart_eq_nil_iff.mpr hidden] at visible
    cases visible
  unfold behindNumbers at visible
  rw [amendment?, amendment?, Option.map_or, ← ending?_append whole restVisible,
    Text.trimStart_append _ restVisible, numbered?, numbered?, number?_append blank]
  congr 1
  split at visible
  next found =>
    rw [found]
    exact ranged?_append blank whole visible _
  next missing =>
    rw [missing]
    rfl

theorem targeted?_append (blank : Text.allBlank blanks = true)
    (visible : Text.allBlank rest = false) : targeted? (rest ++ blanks) = targeted? rest := by
  have trimmed := Text.trim_append_of_allBlank rest blank
  have visibleOn : Text.allBlank (rest ++ blanks) = false := by simp [visible]
  obtain ⟨c, tail, rfl⟩ := List.exists_cons_of_ne_nil (l := rest) (by rintro rfl; cases visible)
  rw [targeted?, targeted?, trimmed, visible, visibleOn]
  rfl

/-! ## What is done with it -/

theorem amendLine_congr {text other : String} (same : trimmedEnd text = trimmedEnd other)
    (around : Surroundings) (first last : Option String) :
    amendLine around [first, last, some text] = amendLine around [first, last, some other] := by
  simp only [amendLine, List.getElem?_cons_succ, List.getElem?_cons_zero, Option.bind_some, id_eq,
    same]

/-- Blanks at the end of the new text are cut off again. -/
theorem amendLine_lengthened (blank : Text.allBlank blanks = true) (around : Surroundings)
    (groups : Matched) :
    amendLine around (Matcher.captured 3 (lengthened blanks groups)) =
      amendLine around (Matcher.captured 3 groups) := by
  match groups with
  | [] => rfl
  | (index, text) :: groups =>
      by_cases new : index = 3
      · subst new
        apply amendLine_congr
        simp [trimmedEnd, Text.trimEnd_append_of_allBlank, blank]
      · simp [lengthened, new]

end Commands

namespace Registry

open Commands Matcher

variable {blanks : List Char}

theorem run_amend {command : Command} {name : String}
    (working : command.working = ⟨amendMatcher name, .fixed 3, false, amendLine⟩)
    (groups : Regex.Matched) (around : Surroundings) :
    command.run ⟨name, captured 3 groups⟩ around =
      amendLine around (captured 3 groups) >>= fun outcome => pure (.handled outcome) := by
  have handler : command.handler = amendLine := congrArg Command.Working.handler working
  rw [Command.run, arguments_of_working working, handler]
  rfl

/-- What a built-in command does with a line does not depend on blanks at its end. -/
theorem run_append {command : Command} (member : command ∈ builtin.commands)
    (blank : Text.allBlank blanks = true) (whole : '\n' ∉ blanks) {line : String}
    (furnished : isBare line = false) :
    (command.matcher.recognize? (line ++ .ofList blanks)).map command.run =
      (command.matcher.recognize? line).map command.run := by
  have visible := not_isBlank_of_mem_names (List.mem_map_of_mem member)
  rw [recognize?_builtin member, recognize?_builtin member, String.toList_append,
    String.toList_ofList, afterName?_append blank visible]
  cases found : afterName? command.name.toList line.toList with
  | none => rfl
  | some rest =>
      simp only [Option.map_some, Option.bind_some, Option.map_map, Function.comp_def]
      simp only [isBare, List.any_cons, List.any_nil, Bool.or_false,
        Bool.or_eq_false_iff] at furnished
      cases kind_of_mem member with
      | name plain matcher =>
          rw [captures?_of_plain plain, captures?_of_plain plain, worded?_append blank]
      | amend amends working =>
          have given : Text.allBlank (behindNumbers (Text.trimStart rest)) = false := by
            rcases amends with isAmend | isPercent
            · have given := furnished.1.1
              rwa [← isAmend, found] at given
            · have given := furnished.1.2
              rwa [← isPercent, found] at given
          rw [captures?_of_amends amends, captures?_of_amends amends,
            amendment?_append blank whole given]
          simp only [Option.map_map]
          congr 1
          funext groups around
          simp only [Function.comp_apply, run_amend working, amendLine_lengthened blank]
      | cd isCd working =>
          have given := furnished.2
          rw [← isCd, found, Option.any_some] at given
          rw [isCd, captures?_cd, captures?_cd, targeted?_append blank given]

/-- Blanks at the end of a line change neither the command it invokes nor what that does with it. -/
theorem invoked?_append (blank : Text.allBlank blanks = true) (whole : '\n' ∉ blanks)
    {line : String} (furnished : isBare line = false) :
    builtin.invoked? (line ++ .ofList blanks) = builtin.invoked? line :=
  invoked?_congr fun _ member => run_append member blank whole furnished

/-- The command that is invoked by a line which begins with the name of an amendment. -/
theorem find?_amend {name : String} (amends : name ∈ ["amend-line", "%"]) {line : String}
    {rest : List Char} (begins : line.toList = name.toList ++ rest) {groups : Regex.Matched}
    (amended : amendment? rest = some groups) :
    ∃ command : Command, command.working = ⟨amendMatcher name, .fixed 3, false, amendLine⟩ ∧
      builtin.find? line = some (command, ⟨name, captured 3 groups⟩) := by
  obtain ⟨command, member, rfl, working⟩ := exists_amendment amends
  have given : captures? command.name rest = some (captured 3 groups) := by
    rw [captures?_of_amends (by simpa using amends), amended]
    rfl
  exact ⟨command, working, find?_builtin member begins given⟩

/-- What a line captures that names lines to amend. -/
theorem captures_amend {name : String} (amends : name ∈ ["amend-line", "%"]) {line : String}
    {rest : List Char} (begins : line.toList = name.toList ++ rest) {groups : Regex.Matched}
    (amended : amendment? rest = some groups) :
    (builtin.find? line).map (·.2.captures) = some (captured 3 groups) := by
  obtain ⟨command, _, found⟩ := find?_amend amends begins amended
  rw [found]
  rfl

/-- A number at the end of a line is the number of the line to amend. -/
theorem captures_number {name : String} (amends : name ∈ ["amend-line", "%"]) {number : String}
    (isNumber : number? number.toList = some (number.toList, [])) :
    (builtin.find? (name ++ " " ++ number)).map (·.2.captures) =
      some [some number, none, none] := by
  have begins := trimStart_of_number? isNumber
  have amended : amendment? (' ' :: number.toList) = some [(1, number.toList)] := by
    rw [amendment?_of_number (by rwa [begins]), begins]
  rw [captures_amend amends (by simp) amended]
  simp [captured_three, List.lookup]

/-- A number with a blank behind it is the new text. -/
theorem captures_number_blank {name : String} (amends : name ∈ ["amend-line", "%"])
    {number : String} (isNumber : number? number.toList = some (number.toList, [])) :
    (builtin.find? (name ++ " " ++ number ++ " ")).map (·.2.captures) =
      some [none, none, some (number ++ " ")] := by
  have followed : number? (number.toList ++ [' ']) = some (number.toList, [' ']) := by
    rw [number?_append rfl, isNumber]
    rfl
  have begins := trimStart_of_number? followed
  have whole : '\n' ∉ number.toList := by
    intro newline
    have visible := visible_of_number? isNumber '\n' newline
    cases visible
  have amended : amendment? (' ' :: (number.toList ++ [' '])) =
      some [(3, number.toList ++ [' '])] := by
    have noNumber : numbered? (number.toList ++ [' ']) = none := by
      rw [numbered?, followed]
      rfl
    rw [amendment?, Text.trimStart_space, begins, noNumber, Option.none_or, ending?, begins]
    simp [whole]
  rw [captures_amend amends (by simp) amended]
  simp [captured_three, List.lookup]

/-- Blanks at the end of a line make no difference: the same command is invoked, and does the same.
Only where a line names the lines to amend and no text, or `cd` and no target, they may be taken for
what is missing; a number without blanks behind it is the number of the line to amend. -/
theorem dispatch_append_blanks (line blanks : String)
    (blank : ∀ c ∈ blanks.toList, c = ' ' ∨ c = '\t') (furnished : isBare line = false) :
    (builtin.find? (line ++ blanks)).map (·.1) = (builtin.find? line).map (·.1) ∧
      (∀ around desk, (builtin.dispatch around (line ++ blanks)).apparent desk =
        (builtin.dispatch around line).apparent desk) ∧
      ∀ name ∈ ["amend-line", "%"], ∀ number : String,
        number? number.toList = some (number.toList, []) →
          (builtin.find? (name ++ " " ++ number)).map (·.2.captures) =
            some [some number, none, none] := by
  have hidden : Text.allBlank blanks.toList = true := by
    rw [Text.allBlank_iff]
    intro c member
    rcases blank c member with rfl | rfl <;> rfl
  have whole : '\n' ∉ blanks.toList := by
    intro newline
    rcases blank _ newline with same | same <;> cases same
  have same := invoked?_append hidden whole furnished
  rw [String.ofList_toList] at same
  refine ⟨?_, ?_, fun name amends number isNumber => captures_number amends isNumber⟩
  · have command (line : String) :
        (builtin.find? line).map (·.1) = (builtin.invoked? line).map (·.1) := by
      rw [invoked?, Option.map_map]
      rfl
    rw [command, command, same]
  · intro around desk
    rw [apparent_dispatch blind_builtin, apparent_dispatch blind_builtin, same]

theorem dispatch_append_blanks_of_amendment :
    (∀ c ∈ " \t".toList, c = ' ' ∨ c = '\t') ∧ isBare "amend-line 1 x" = false ∧
      ((builtin.find? ("amend-line 1 x" ++ " \t")).map (·.1) =
        (builtin.find? "amend-line 1 x").map (·.1) ∧
      (∀ around desk, (builtin.dispatch around ("amend-line 1 x" ++ " \t")).apparent desk =
        (builtin.dispatch around "amend-line 1 x").apparent desk) ∧
      ∀ name ∈ ["amend-line", "%"], ∀ number : String,
        number? number.toList = some (number.toList, []) →
          (builtin.find? (name ++ " " ++ number)).map (·.2.captures) =
            some [some number, none, none]) := by
  have blank : ∀ c ∈ " \t".toList, c = ' ' ∨ c = '\t' := by simp
  have furnished : isBare "amend-line 1 x" = false := rfl
  exact ⟨blank, furnished, dispatch_append_blanks _ _ blank furnished⟩

theorem apparent_dispatch_amend {name : String} (amends : name ∈ ["amend-line", "%"])
    {line : String} {rest : List Char} (begins : line.toList = name.toList ++ rest)
    {groups : Regex.Matched}
    (amended : amendment? rest = some groups) (around : Surroundings) (desk : Desk) :
    (builtin.dispatch around line).apparent desk =
      (amendLine around (captured 3 groups) >>= fun outcome => pure (.handled outcome) :
        Action Dispatched).apparent desk := by
  obtain ⟨command, working, found⟩ := find?_amend amends begins amended
  rw [apparent_dispatch blind_builtin, invoked?, found, ← run_amend working]
  rfl

/-- No session, no bindings, and the built-in commands. -/
def alone : Surroundings where
  catalogue := builtin.catalogue
  sessions := {}
  calculator := {}

/-- A desk on which an expression has been begun. -/
def begun : Desk where
  buffer := .ofText "(1 +\n"
  editor := { edit := fun _ _ _ storage => { storage } }

/-- With a blank behind it, the number of a line takes the place of the last line. -/
theorem bare_number_with_blank :
    (builtin.dispatch alone "amend-line 1").apparent begun = .error .missingReplacement begun ∧
      ∃ after, (builtin.dispatch alone ("amend-line 1" ++ " ")).apparent begun =
          .ok (.handled .next) after ∧
        after.buffer = .ofText "1\n" := by
  constructor
  · have captured : amendment? [' ', '1'] = some [(1, ['1'])] := rfl
    rw [apparent_dispatch_amend List.mem_cons_self (by simp) captured]
    rfl
  · have captured : amendment? [' ', '1', ' '] = some [(3, ['1', ' '])] := rfl
    rw [apparent_dispatch_amend List.mem_cons_self (by simp) captured]
    let shown : Transcript := .add {} (.wrote "1: 1\n")
    exact ⟨{ begun with buffer := .ofText "1\n", transcript := shown }, rfl, rfl⟩

end Registry

end Console
