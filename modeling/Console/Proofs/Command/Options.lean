import Console.Flags.Reader
import Console.Proofs.Command.Recognition
import Console.Proofs.Text.Decimal
import Console.Proofs.Words

/-!
# Lines with one option

A line that is the name of a command, an option of it and a value is read as it looks if nothing in
the option or the value has a meaning of its own.
-/

namespace Console

/-! ## Words -/

/-- Two plain words with a blank between them are read as they look. -/
theorem splitWords_pair {first second : List Char} (plain : ∀ c ∈ first, WordReader.isPlain c)
    (some : first ≠ []) (plainToo : ∀ c ∈ second, WordReader.isPlain c) (someToo : second ≠ []) :
    splitWords (first ++ ' ' :: second) = .ok [first, second] := by
  have begun : Spelling.Words [] [] := .nil rfl
  have isGap : Text.allBlank [' '] := rfl
  have ended := begun.snoc (.segment (.bare some plain)) isGap (List.cons_ne_nil ' ' [])
  have line := Spelling.Line.going ended (.segment (.bare someToo plainToo))
  rw [List.nil_append, List.append_assoc] at line
  exact Spelling.splitWords_of_spells (.line line)

/-- The digits of a number are plain. -/
theorem isPlain_of_mem_natDigits {n : Nat} {c : Char} (member : c ∈ Text.natDigits n) :
    WordReader.isPlain c := by
  have digit := Text.isDigit_of_mem_natDigits member
  have visible := Text.isBlank_of_isDigit digit
  have other (d : Char) (noDigit : Text.isDigit d = false) : c ≠ d := by
    rintro rfl
    rw [noDigit] at digit
    cases digit
  simp [WordReader.isPlain, visible, other '\'' rfl, other '"' rfl, other '\\' rfl]

/-! ## Options -/

namespace Flags

/-- Whether an option takes the next word as a value of a kind, whatever it begins with. -/
def OptionSpec.takesNext (kind : ValueKind) (option : OptionSpec) : Bool :=
  option.effect = .set && option.hyphenValues &&
    match option.takes with
    | .value _ other => other = kind
    | _ => false

theorem OptionSpec.takesNext_iff {kind : ValueKind} {option : OptionSpec} :
    option.takesNext kind ↔ option.effect = .set ∧ option.hyphenValues ∧
      ∃ valueName, option.takes = .value valueName kind := by
  unfold takesNext
  cases option.takes <;> simp [and_assoc]

/-- A word that does not look like an option. -/
def IsBare (word : String) : Prop := ∀ c rest, word.toList ≠ '-' :: c :: rest

namespace Spec

variable {spec : Spec} {option : OptionSpec} {value : String} {read : FlagValue}

/-- An option that takes a value waits for the next word. -/
theorem readWord_long (listed : spec.long? option.long = some option)
    (valued : option.takesValue = true) (named : option.long ≠ "")
    (whole : '=' ∉ option.long.toList) :
    spec.readWord {} ("--" ++ option.long) =
      .ok { pending := some (option.long, []), awaiting := .value option } := by
  obtain ⟨c, rest, begins⟩ := List.exists_cons_of_ne_nil (mt String.toList_eq_nil_iff.mp named)
  have different : ∀ c ∈ option.long.toList, (c != '=') = true :=
    fun c member => bne_iff_ne.mpr (ne_of_mem_of_not_mem member whole)
  have word : ("--" ++ option.long).toList = '-' :: '-' :: option.long.toList := by
    rw [String.toList_append]
    rfl
  have long : spec.readLong {} option.long.toList =
      .ok { pending := some (option.long, []), awaiting := .value option } := by
    unfold readLong
    rw [List.takeWhile_eq_self_iff.mpr different, List.dropWhile_eq_nil_iff.mpr different,
      String.ofList_toList]
    dsimp only
    rw [listed]
    simp only [meet, resolve, valued]
    rfl
  unfold readWord
  simp only [Bool.false_eq_true, if_false]
  rw [begins] at long
  rw [word, begins]
  exact long

/-- A word that does not look like an option is the value that is waited for, or an argument. -/
theorem readWord_of_bare {state : State} {word : String} (bare : IsBare word)
    (leading : state.trailing = false) :
    spec.readWord state word =
      match state.awaiting with
      | .value _ => .ok (readAwaited state word)
      | .anything => spec.readPlain state word := by
  unfold readWord
  rw [leading, if_neg Bool.false_ne_true]
  extract_lets mayStartWithHyphen plain
  change _ = plain
  cases mayStartWithHyphen with
  | true => exact if_pos rfl
  | false =>
      rw [if_neg Bool.false_ne_true]
      split
      next option => exact absurd option (bare _ _)
      next option => exact absurd option (bare _ _)
      next option => exact absurd option (bare _ _)
      next => rfl

/-- An option with its value is all that is given. -/
theorem resolve_pending {kind : ValueKind} (listed : spec.long? option.long = some option)
    (takesNext : option.takesNext kind)
    (is : ∀ argument, readValue kind argument value = .ok read) :
    spec.resolve { pending := some (option.long, [value]) } =
      .ok { given := ⟨[(option.long, [read])], true⟩ } := by
  obtain ⟨sets, _, valueName, takes⟩ := OptionSpec.takesNext_iff.mp takesNext
  have taken : spec.takeOption {} option [value] = .ok ⟨[(option.long, [read])], true⟩ := by
    simp [takeOption, sets, takes, Given.has, Given.add, is]
  simp [resolve, listed, taken, bind, Except.bind]

theorem missing?_eq_none (single : spec.oneOf = [])
    (noneNeeded : spec.argument.all (!·.required)) (given : Given) :
    spec.missing? given = none := by
  unfold missing?
  rw [single]
  cases needed : spec.argument with
  | none => rfl
  | some argument =>
      rw [needed] at noneNeeded
      have optional : argument.required = false := by simpa using noneNeeded
      simp [optional]

/-- An option with the next word as its value is read alone. -/
theorem read_option (long : String) (kind : ValueKind)
    (listed : (spec.long? long).any (·.takesNext kind)) (named : long ≠ "")
    (whole : '=' ∉ long.toList) (single : spec.oneOf = [])
    (noneNeeded : spec.argument.all (!·.required))
    (is : ∀ argument, readValue kind argument value = .ok read) :
    spec.read ["--" ++ long, value] = .ok ⟨[(long, [read])], true⟩ := by
  obtain ⟨option, listed, takesNext⟩ := (Option.any_eq_true ..).mp listed
  obtain rfl : option.long = long := by
    simpa using List.find?_some listed
  obtain ⟨_, hyphens, valueName, takes⟩ := OptionSpec.takesNext_iff.mp takesNext
  have valued : option.takesValue = true := by
    rw [OptionSpec.takesValue, takes]
    rfl
  have awaited :
      spec.readWord { pending := some (option.long, []), awaiting := .value option } value =
        .ok { pending := some (option.long, [value]) } := by
    simp [readWord, hyphens, readAwaited]
  have words : ["--" ++ option.long, value].foldlM (fun state word => spec.readWord state word) {} =
      .ok { pending := some (option.long, [value]) } := by
    rw [List.foldlM_cons, readWord_long listed valued named whole]
    change [value].foldlM (fun state word => spec.readWord state word) _ = _
    rw [List.foldlM_cons, awaited]
    rfl
  have together : spec.conflict? ⟨[(option.long, [read])], true⟩ = none := by
    simp [conflict?]
  unfold Spec.read
  simp only [words, resolve_pending listed takesNext is, together,
    missing?_eq_none single noneNeeded, bind, Except.bind]

end Spec

end Flags

/-! ## Lines -/

/-- The line of a command with an option and its value. -/
def optionLine (name long value : String) : String := name ++ " --" ++ long ++ " " ++ value

/-- A text without a character that has a meaning of its own in a command line. -/
structure PlainWord (word : String) : Prop where
  all : word.toList.all WordReader.isPlain
  nonempty : word ≠ ""

theorem plainWord_natText (n : Nat) : PlainWord (natText n) where
  all := by
    rw [natText, String.toList_ofList, List.all_eq_true]
    exact fun c member => isPlain_of_mem_natDigits member
  nonempty empty := by
    have digits := congrArg String.toList empty
    rw [natText, String.toList_ofList] at digits
    exact Text.natDigits_ne_nil n digits

namespace PlainWord

variable {word flag value : String}

theorem plain (plain : PlainWord word) : ∀ c ∈ word.toList, WordReader.isPlain c :=
  List.all_eq_true.mp plain.all

theorem toList_ne_nil (plain : PlainWord word) : word.toList ≠ [] :=
  mt String.toList_eq_nil_iff.mp plain.nonempty

theorem visible (plain : PlainWord word) : ∀ c ∈ word.toList, Text.isBlank c = false := by
  intro c member
  have isPlain := plain.plain c member
  simp only [WordReader.isPlain, Bool.and_eq_true, Bool.not_eq_true'] at isPlain
  exact isPlain.1.1.1

theorem wordsOf_pair (plain : PlainWord flag) (plainToo : PlainWord value) :
    wordsOf (.ofList (flag.toList ++ ' ' :: value.toList)) = .ok [flag, value] := by
  rw [wordsOf, String.toList_ofList, splitWords_pair plain.plain plain.toList_ne_nil
    plainToo.plain plainToo.toList_ne_nil]
  simp [Except.map]

theorem trim_pair (plain : PlainWord flag) (plainToo : PlainWord value) :
    Text.trim (flag.toList ++ ' ' :: value.toList) = flag.toList ++ ' ' :: value.toList := by
  apply Text.trim_of_visible
  · intro c begins
    rw [List.head?_append_of_ne_nil _ plain.toList_ne_nil] at begins
    exact plain.visible c (List.mem_of_mem_head? begins)
  · intro c ends
    rw [List.getLast?_append_of_ne_nil _ (List.cons_ne_nil _ _),
      List.getLast?_cons_of_ne_nil plainToo.toList_ne_nil] at ends
    exact plainToo.visible c (List.mem_of_getLast? ends)

end PlainWord

namespace Registry

open Matcher Commands

theorem exists_of_listed {working : Command.Working} (member : working ∈ listed) :
    ∃ command ∈ builtin.commands, command.working = working := by
  rw [← working_builtin] at member
  exact List.mem_map.mp member

/-- A command that is recognised by its name is given the words that stand behind the name. -/
theorem find?_words {name : String} {handler : Handler}
    (isListed : ⟨.ofName name, .variadic, true, handler⟩ ∈ listed) {arguments : String}
    (gap : arguments.toList.head?.any Text.isBlank) {words : List String}
    (read : wordsOf (trimmed arguments) = .ok words) (some : words ≠ []) :
    ∃ command recognized, builtin.find? (name ++ arguments) = .some (command, recognized) ∧
      command.name = name ∧ command.handler = handler ∧
      command.arguments recognized.captures = .ok (words.map .some) := by
  obtain ⟨command, member, working⟩ := exists_of_listed isListed
  have matcher : command.matcher = .ofName name := congrArg Command.Working.matcher working
  have arity : command.arity = .variadic := congrArg Command.Working.arity working
  have interpolate : command.interpolate = true :=
    congrArg Command.Working.interpolate working
  have named : command.name = name := congrArg Matcher.name matcher
  have unpatterned : name ≠ "amend-line" ∧ name ≠ "%" ∧ name ≠ "cd" := by
    have kind := kind_of_mem member
    rw [named, working] at kind
    cases kind with
    | name plain => exact plain
    | amend _ whole => cases congrArg Command.Working.arity whole
    | cd _ whole => cases congrArg Command.Working.arity whole
  have begins : (name ++ arguments).toList = command.name.toList ++ arguments.toList := by
    rw [named, String.toList_append]
  have nonempty : (Text.trim arguments.toList).isEmpty = false := by
    rw [List.isEmpty_eq_false_iff]
    intro nothing
    rw [trimmed, nothing] at read
    exact some (Except.ok.inj read).symm
  have captured : captures? command.name arguments.toList = .some [.some (trimmed arguments)] := by
    obtain ⟨c, first, blank⟩ := (Option.any_eq_true ..).mp gap
    obtain ⟨rest, split⟩ := List.head?_eq_some_iff.mp first
    rw [split] at nonempty
    rw [named, captures?_of_plain unpatterned, trimmed, split, worded?, if_pos blank]
    dsimp only
    rw [nonempty]
    rfl
  refine ⟨command, _, find?_builtin member begins captured, named,
    congrArg Command.Working.handler working, ?_⟩
  rw [Signature.arguments, interpolate, arity, if_pos rfl]
  simp [read, Arity.fit]

/-- A command that is recognised by its name is given an option and a value as they look. -/
theorem find?_optionLine {name : String} {handler : Handler}
    (isListed : ⟨.ofName name, .variadic, true, handler⟩ ∈ listed) {long value : String}
    (plain : PlainWord ("--" ++ long)) (plainToo : PlainWord value) :
    ∃ command recognized, builtin.find? (optionLine name long value) = some (command, recognized) ∧
      command.name = name ∧ command.handler = handler ∧
      command.arguments recognized.captures = .ok [some ("--" ++ long), some value] := by
  have line : optionLine name long value = name ++ (" --" ++ long ++ " " ++ value) := by
    simp [optionLine, String.append_assoc]
  have text : (" --" ++ long ++ " " ++ value).toList =
      ' ' :: (("--" ++ long).toList ++ ' ' :: value.toList) := by
    simp [String.toList_append]
  have read : wordsOf (trimmed (" --" ++ long ++ " " ++ value)) = .ok ["--" ++ long, value] := by
    rw [trimmed, text, Text.trim_space, plain.trim_pair plainToo]
    exact plain.wordsOf_pair plainToo
  rw [line]
  exact find?_words isListed (by rw [text]; rfl) read (List.cons_ne_nil _ _)

end Registry

end Console
