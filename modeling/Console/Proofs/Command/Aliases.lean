import Console.Proofs.Command.Dispatch
import Console.Proofs.Command.Recognition

/-!
# Other names of commands

A line that begins with another name of a command runs the handler of that command.  But what stands
behind the other name is one text, even if the command has a pattern that would take it apart.

Another name gives the name of the command that it stands for, and has the handler that this command
had when the other name was added.  The two are still the same later on as long as no change puts
something else in where the command was.
-/

namespace Console

namespace Registry

/-- The handler that is run for a line, and the arguments that it is given, if there are any. -/
def called? (registry : Registry) (line : String) :
    Option (Handler × Except Error (List (Option String))) :=
  (registry.find? line).map fun (command, recognized) =>
    (command.handler, command.arguments recognized.captures)

/-- A name that is not otherwise recognised: no line in which it is recognised invokes a command. -/
def Fresh (registry : Registry) (name : String) : Prop :=
  ∀ line, ((Matcher.ofName name).recognize? line).isSome → registry.find? line = none

/-- Under another name a command is given as many arguments, and split into words if it is under its
own. -/
theorem arguments_aliasFor (command : Command) (nickname target : String)
    (captures : List (Option String)) :
    (aliasFor (.ofName nickname) target command).arguments captures =
      command.arguments captures := by
  simp [aliasFor, Signature.arguments, Matcher.isPattern, Matcher.ofName]

/-! ## Calling a command by another name -/

section Calling

open Commands Matcher

variable {command : Command} {nickname : String}

/-- Without anything behind it, a command is given the same by each of its names. -/
theorem arguments_bare (member : command ∈ builtin.commands) :
    ∃ captures, captures? command.name [] = some captures ∧
      command.arguments captures = command.arguments [none] := by
  cases kind_of_mem member with
  | name plain _ =>
      refine ⟨[none], ?_, rfl⟩
      rw [captures?_of_plain plain]
      rfl
  | amend amends working =>
      refine ⟨[none, none, none], ?_, ?_⟩
      · rw [captures?_of_amends amends]
        rfl
      · rw [arguments_of_working working, arguments_of_working working]
        rfl
  | cd isCd _ =>
      refine ⟨[none], ?_, rfl⟩
      rw [isCd]
      rfl

theorem Fresh.not_mem (fresh : builtin.Fresh nickname) : nickname ∉ builtin.names := by
  intro named
  obtain ⟨command, member, rfl⟩ := List.mem_map.mp named
  obtain ⟨captures, given, _⟩ := arguments_bare member
  have found : builtin.find? command.name = some (command, ⟨command.name, captures⟩) :=
    find?_builtin member (by simp) given
  have unknown := fresh command.name (by
    rw [recognize?_ofName, afterName?_eq_some_iff.mpr (List.append_nil _).symm]
    rfl)
  rw [found] at unknown
  cases unknown

/-- What a line calls that begins with another name. -/
theorem called?_nickname (fresh : builtin.Fresh nickname) (target : String) {line : String}
    {rest : List Char} (begins : line.toList = nickname.toList ++ rest) {argument : Option String}
    (given : worded? rest = some argument) :
    (builtin.register (aliasFor (.ofName nickname) target command)).called? line =
      some (command.handler, command.arguments [argument]) := by
  have recognized : (Matcher.ofName nickname).recognize? line = some ⟨nickname, [argument]⟩ := by
    rw [recognize?_ofName, afterName?_eq_some_iff.mpr begins, Option.bind_some, given]
    rfl
  have unknown := fresh line (by simp [recognized])
  have new : (aliasFor (.ofName nickname) target command).name ∉ builtin.names := fresh.not_mem
  have matcher : (aliasFor (.ofName nickname) target command).matcher = .ofName nickname := rfl
  rw [called?, find?_register new, unknown, Option.none_or, matcher, recognized, Option.map_some,
    Option.map_some]
  simp only [arguments_aliasFor]
  rfl

/-- What a line still calls that begins with the name of a command. -/
theorem called?_name (fresh : builtin.Fresh nickname) (member : command ∈ builtin.commands)
    (target : String) {line : String} {rest : List Char}
    (begins : line.toList = command.name.toList ++ rest) {captures : List (Option String)}
    (given : captures? command.name rest = some captures) :
    (builtin.register (aliasFor (.ofName nickname) target command)).called? line =
      some (command.handler, command.arguments captures) := by
  have new : (aliasFor (.ofName nickname) target command).name ∉ builtin.names := fresh.not_mem
  rw [called?, find?_register new, find?_builtin member begins given]
  rfl

end Calling

/-! ## What both names are given -/

section Arguments

open Commands Matcher

variable {command : Command} {text : List Char}

/-- Whether a command takes a text that follows its name as one text, as its pattern has it: an
amendment a line number, and `cd` nothing at all or something that is not blank. -/
def TakesWhole (name : String) (text : List Char) : Prop :=
  (name = "amend-line" ∨ name = "%" →
    number? (Text.trimStart text) = some (Text.trimStart text, [])) ∧
  (name = "cd" → text = [] ∨ Text.allBlank text = false)

/-- What stands behind a name, as one argument. -/
def argument (text : List Char) : Option String :=
  if (Text.trim text).isEmpty then none else some (.ofList (Text.trim text))

theorem worded?_blank (text : List Char) : worded? (' ' :: text) = some (argument text) := rfl

theorem argument_of_number
    (isNumber : number? (Text.trimStart text) = some (Text.trimStart text, [])) :
    argument text = some (.ofList (Text.trimStart text)) := by
  have trimmed : Text.trim text = Text.trimStart text :=
    Text.trimEnd_of_visible (visible_of_number? isNumber)
  have isSome : Text.trimStart text ≠ [] := by
    intro nothing
    rw [nothing] at isNumber
    cases isNumber
  simp [argument, trimmed, isSome]

theorem targeted?_blank (whole : '\n' ∉ text) (visible : Text.allBlank text = false) :
    targeted? (' ' :: text) = some [(1, Text.trim text)] := by
  have noNewline : '\n' ∉ Text.trim text := mt Text.mem_of_mem_trim whole
  simp [targeted?, visible, noNewline]

theorem argument_of_visible (visible : Text.allBlank text = false) :
    argument text = some (.ofList (Text.trim text)) := by
  have isSome : Text.trim text ≠ [] := by simp [Text.trim_eq_nil_iff, visible]
  simp [argument, isSome]

theorem ranged?_eq_some {first : List Char} {result : Regex.Matched} {rest : List Char}
    (ranged : ranged? [(1, first)] rest = some result) (noText : result.lookup 3 = none)
    (noSecond : result.lookup 2 = none) : rest = [] := by
  unfold ranged? at ranged
  split at ranged
  · split at ranged
    · rcases ending?_eq_some ranged with ⟨_, rfl⟩ | ⟨found, rfl⟩
      · cases noSecond
      · cases noText
    · cases ranged
  · rcases ending?_eq_some ranged with ⟨nothing, _⟩ | ⟨found, rfl⟩
    · exact nothing
    · cases noText

/-- An amendment that has captured nothing but one number has found nothing else. -/
theorem number?_of_amendment? {groups : Regex.Matched}
    (amended : amendment? (' ' :: text) = some groups) (noSecond : groups.lookup 2 = none)
    (noText : groups.lookup 3 = none) :
    number? (Text.trimStart text) = some (Text.trimStart text, []) := by
  rw [amendment?, Text.trimStart_space, Option.or_eq_some_iff] at amended
  rcases amended with numbered | ⟨_, ended⟩
  · unfold numbered? at numbered
    split at numbered
    next first rest found =>
      obtain rfl := ranged?_eq_some numbered noText noSecond
      have same := append_of_number? found
      rw [List.append_nil] at same
      rw [found, same]
    · cases numbered
  · rcases ending?_eq_some ended with ⟨nothing, _⟩ | ⟨found, rfl⟩
    · cases nothing
    · cases noText

/-- Where there is nothing but blank characters, `cd` captures one of them. -/
theorem eq_nil_of_targeted? {groups : Regex.Matched}
    (targeted : targeted? (' ' :: text) = some groups) (nothing : groups.lookup 1 = none)
    (hidden : Text.allBlank text = true) (whole : '\n' ∉ text) : text = [] := by
  have blank : Text.allBlank (' ' :: text) = true := hidden
  rw [targeted?, if_pos blank, List.tail_cons] at targeted
  cases targeted
  cases found : text.reverse.find? (· != '\n') with
  | some c =>
      rw [found] at nothing
      cases nothing
  | none =>
      rw [List.find?_eq_none] at found
      apply List.eq_nil_iff_forall_not_mem.mpr
      intro c member
      have newline : c = '\n' := by simpa using found c (by simpa using member)
      exact whole (newline ▸ member)

/-- A command is given the same behind its name and behind another one. -/
theorem arguments_of_takesWhole (member : command ∈ builtin.commands) (whole : '\n' ∉ text)
    (takesWhole : TakesWhole command.name text) :
    ∃ captures, captures? command.name (' ' :: text) = some captures ∧
      command.arguments captures = command.arguments [argument text] := by
  obtain ⟨amended, targeted⟩ := takesWhole
  cases kind_of_mem member with
  | name plain _ =>
      refine ⟨[argument text], ?_, rfl⟩
      rw [captures?_of_plain plain, worded?_blank]
      rfl
  | amend amends working =>
      have isNumber := amended amends
      refine ⟨[argument text, none, none], ?_, ?_⟩
      · rw [captures?_of_amends amends, amendment?_of_number isNumber, argument_of_number isNumber]
        rfl
      · rw [arguments_of_working working, arguments_of_working working]
        rfl
  | cd isCd _ =>
      refine ⟨[argument text], ?_, rfl⟩
      rw [isCd] at targeted ⊢
      rcases targeted rfl with rfl | visible
      · rfl
      · rw [captures?_cd, targeted?_blank whole visible, argument_of_visible visible]
        rfl

/-- It is given the same only then. -/
theorem takesWhole_of_arguments (member : command ∈ builtin.commands) (whole : '\n' ∉ text)
    {captures : List (Option String)} (given : captures? command.name (' ' :: text) = some captures)
    (same : command.arguments captures = command.arguments [argument text]) :
    TakesWhole command.name text := by
  cases kind_of_mem member with
  | name plain _ =>
      exact ⟨fun amends => by simp [plain] at amends, fun isCd => absurd isCd plain.2.2⟩
  | amend amends working =>
      rw [captures?_of_amends amends, Option.map_eq_some_iff] at given
      obtain ⟨groups, amended, rfl⟩ := given
      rw [arguments_of_working working, arguments_of_working working, Except.ok.injEq] at same
      have parts : [(groups.lookup 1).map .ofList, (groups.lookup 2).map .ofList,
          (groups.lookup 3).map .ofList] = [argument text, none, none] := same
      simp only [List.cons.injEq, Option.map_eq_none_iff, and_true] at parts
      exact ⟨fun _ => number?_of_amendment? amended parts.2.1 parts.2.2,
        fun isCd => by simp [isCd] at amends⟩
  | cd isCd working =>
      rw [isCd] at given ⊢
      rw [arguments_of_working working, arguments_of_working working, Except.ok.injEq] at same
      refine ⟨fun amends => by simp at amends, fun _ => ?_⟩
      · cases hidden : Text.allBlank text with
        | false => exact .inr rfl
        | true =>
            rw [captures?_cd, Option.map_eq_some_iff] at given
            obtain ⟨groups, targeted, rfl⟩ := given
            have nothing : argument text = none := by
              simp [argument, Text.trim_eq_nil_iff, hidden]
            have parts : [(groups.lookup 1).map .ofList] = [argument text] := same
            simp only [nothing, List.cons.injEq, Option.map_eq_none_iff, and_true] at parts
            exact .inl (eq_nil_of_targeted? targeted parts hidden whole)

end Arguments

/-! ## Lines that begin with a name -/

section Lines

open Commands Matcher

variable {command : Command} {nickname : String} {text : List Char}

/-- Something that is not blank, in one line, is recognised behind every name. -/
theorem isSome_captures?_of_visible (name : String) (whole : '\n' ∉ text)
    (visible : Text.allBlank text = false) : (captures? name (' ' :: text)).isSome := by
  unfold captures?
  split
  · have isSome : Text.trimStart text ≠ [] := by simp [Text.trimStart_eq_nil_iff, visible]
    have noNewline : '\n' ∉ Text.trimStart text := by
      intro newline
      obtain ⟨front, _, split⟩ := Text.exists_append_trimStart text
      exact whole (by rw [split]; simp [newline])
    have ended : (ending? [] (' ' :: text)).isSome := by simp [ending?, isSome, noNewline]
    simp [amendment?, ended]
  · split
    · simp [targeted?_blank whole visible]
    · rfl

/-- A fresh name is not recognised in a line that begins with the name of a command. -/
theorem Fresh.recognize?_eq_none (fresh : builtin.Fresh nickname)
    (member : command ∈ builtin.commands) {line : String}
    (begins : line.toList = command.name.toList ++ ' ' :: text) (whole : '\n' ∉ text) :
    (Matcher.ofName nickname).recognize? line = none := by
  have named : command.name ∈ builtin.names := List.mem_map_of_mem member
  have other : nickname.toList ≠ command.name.toList := by
    intro same
    exact fresh.not_mem (String.toList_inj.mp same ▸ named)
  rw [recognize?_ofName, begins]
  cases found : afterName? nickname.toList (command.name.toList ++ ' ' :: text) with
  | none => rfl
  | some after =>
      rw [Option.bind_some, Option.map_eq_none_iff]
      have split := afterName?_eq_some_iff.mp found
      rcases List.append_eq_append_iff.mp split with ⟨more, longer, rest⟩ | ⟨more, shorter, rest⟩
      · cases more with
        | nil => exact absurd (by simpa using longer) other
        | cons c more =>
            obtain ⟨rfl, rfl⟩ := List.cons.inj rest
            have visible : Text.allBlank (more ++ [' ', 'x']) = false := by
              rw [Text.allBlank_append, Bool.and_eq_false_iff]
              exact .inr rfl
            have noNewline : '\n' ∉ more ++ [' ', 'x'] := by
              intro newline
              have earlier : '\n' ∈ more := by simpa using newline
              exact whole (by simp [earlier])
            obtain ⟨captures, given⟩ := Option.isSome_iff_exists.mp
              (isSome_captures?_of_visible command.name noNewline visible)
            have invoked : builtin.find? (nickname ++ " x") =
                some (command, ⟨command.name, captures⟩) :=
              find?_builtin member (by simp [longer]) given
            have recognized : ((Matcher.ofName nickname).recognize? (nickname ++ " x")).isSome := by
              rw [recognize?_ofName, afterName?_eq_some_iff.mpr String.toList_append]
              rfl
            rw [fresh _ recognized] at invoked
            cases invoked
      · cases more with
        | nil => exact absurd (by simpa using shorter.symm) other
        | cons c more =>
            have visible : Text.isBlank c = false :=
              not_isBlank_of_mem_names named c (by simp [shorter])
            simp [rest, worded?, visible]

/-- A line for which a command captures nothing is not recognised at all. -/
theorem called?_eq_none (fresh : builtin.Fresh nickname) (member : command ∈ builtin.commands)
    (target : String) {line : String} (begins : line.toList = command.name.toList ++ ' ' :: text)
    (whole : '\n' ∉ text) (missing : captures? command.name (' ' :: text) = none) :
    (builtin.register (aliasFor (.ofName nickname) target command)).called? line = none := by
  have new : (aliasFor (.ofName nickname) target command).name ∉ builtin.names := fresh.not_mem
  have matcher : (aliasFor (.ofName nickname) target command).matcher = .ofName nickname := rfl
  have unknown : builtin.find? line = none := by
    rw [find?, List.findSome?_eq_none_iff]
    intro other otherMember
    rw [Option.map_eq_none_iff, ← Option.not_isSome_iff_eq_none]
    intro recognized
    have same := name_of_recognized member otherMember begins (by simp) recognized
    rw [recognize?_builtin otherMember, same, afterName?_eq_some_iff.mpr begins] at recognized
    simp [missing] at recognized
  rw [called?, find?_register new, unknown, matcher, fresh.recognize?_eq_none member begins whole]
  rfl

/-- A command is run by each of its names.  Without anything behind it, it is given the same; with
something behind it, it is given the same unless it has a pattern that takes this apart, or takes a
blank character for it. -/
theorem called?_addAlias (member : command ∈ builtin.commands) (fresh : builtin.Fresh nickname) :
    ∃ registry, builtin.addAlias (.ofName nickname) command.name = .ok registry ∧
      (registry.called? nickname).map (·.1) = some command.handler ∧
      registry.called? nickname = registry.called? command.name ∧
      ∀ text : String, '\n' ∉ text.toList →
        (registry.called? (nickname ++ " " ++ text)).map (·.1) = some command.handler ∧
        (registry.called? (nickname ++ " " ++ text) =
            registry.called? (command.name ++ " " ++ text) ↔
          TakesWhole command.name text.toList) := by
  refine ⟨builtin.register (aliasFor (.ofName nickname) command.name command), ?_, ?_, ?_, ?_⟩
  · rw [addAlias, get?_of_mem member]
  · rw [called?_nickname fresh _ (List.append_nil _).symm rfl]
    rfl
  · obtain ⟨captures, given, same⟩ := arguments_bare member
    rw [called?_nickname fresh _ (List.append_nil _).symm rfl,
      called?_name fresh member _ (List.append_nil _).symm given, same]
  · intro text whole
    have behind (name : String) :
        (name ++ " " ++ text).toList = name.toList ++ ' ' :: text.toList := by simp
    rw [called?_nickname fresh _ (behind nickname) (worded?_blank _)]
    refine ⟨rfl, ?_⟩
    constructor
    · intro same
      cases given : captures? command.name (' ' :: text.toList) with
      | none =>
          rw [called?_eq_none fresh member _ (behind command.name) whole given] at same
          cases same
      | some captures =>
          rw [called?_name fresh member _ (behind command.name) given] at same
          have arguments := congrArg Prod.snd (Option.some.inj same)
          exact takesWhole_of_arguments member whole given arguments.symm
    · intro takesWhole
      obtain ⟨captures, given, same⟩ := arguments_of_takesWhole member whole takesWhole
      rw [called?_name fresh member _ (behind command.name) given, same]

/-- A name is fresh if it and the names of the commands do not begin with one another. -/
theorem fresh_of_apart (apart : (builtin.names.all fun name =>
      !name.toList.isPrefixOf nickname.toList && !nickname.toList.isPrefixOf name.toList) = true) :
    builtin.Fresh nickname := by
  intro line recognized
  rw [recognize?_ofName] at recognized
  cases begins : afterName? nickname.toList line.toList with
  | none =>
      rw [begins] at recognized
      cases recognized
  | some rest =>
      rw [find?, List.findSome?_eq_none_iff]
      intro command member
      have differs := List.all_eq_true.mp apart command.name (List.mem_map_of_mem member)
      have missing : afterName? command.name.toList line.toList = none := by
        rw [afterName?_eq_none_iff]
        intro isFront
        have nickFront : nickname.toList <+: line.toList :=
          ⟨rest, (afterName?_eq_some_iff.mp begins).symm⟩
        rcases List.prefix_or_prefix_of_prefix isFront nickFront with front | front
        · simp [List.isPrefixOf_iff_prefix.mpr front] at differs
        · simp [List.isPrefixOf_iff_prefix.mpr front] at differs
      rw [recognize?_builtin member, missing]
      rfl

theorem fresh_al : builtin.Fresh "al" := by
  apply fresh_of_apart
  rw [names_builtin]
  decide

theorem called?_addAlias_of_amendment :
    ∃ command ∈ builtin.commands, command.name = "amend-line" ∧ builtin.Fresh "al" ∧
      ∃ registry, builtin.addAlias (.ofName "al") command.name = .ok registry ∧
        (registry.called? "al").map (·.1) = some command.handler ∧
        registry.called? "al" = registry.called? command.name ∧
        ∀ text : String, '\n' ∉ text.toList →
          (registry.called? ("al" ++ " " ++ text)).map (·.1) = some command.handler ∧
          (registry.called? ("al" ++ " " ++ text) = registry.called? (command.name ++ " " ++ text) ↔
            TakesWhole command.name text.toList) := by
  obtain ⟨command, member, isAmend, _⟩ := exists_amendment List.mem_cons_self
  exact ⟨command, member, isAmend, fresh_al, called?_addAlias member fresh_al⟩

/-- Behind another name of an amendment, the number of a line and the new text are one text. -/
theorem amendment_by_another_name :
    ∃ registry, builtin.addAlias (.ofName "al") "amend-line" = .ok registry ∧
      (registry.called? "al 1 x").map (·.2) = some (.ok [some "1 x", none, none]) ∧
      (registry.called? "amend-line 1 x").map (·.2) = some (.ok [some "1", none, some "x"]) := by
  obtain ⟨command, member, isAmend, working⟩ := exists_amendment List.mem_cons_self
  have amended : captures? command.name [' ', '1', ' ', 'x'] = some [some "1", none, some "x"] := by
    rw [isAmend]
    rfl
  refine ⟨builtin.register (aliasFor (.ofName "al") command.name command), ?_, ?_, ?_⟩
  · rw [← isAmend, addAlias, get?_of_mem member]
  · have worded : worded? [' ', '1', ' ', 'x'] = some (some "1 x") := rfl
    rw [called?_nickname fresh_al _ (by simp) worded, arguments_of_working working]
    rfl
  · rw [called?_name fresh_al member _ (by simp [isAmend]) amended,
      arguments_of_working working]
    rfl

end Lines

/-! ## What other names promise -/

end Registry

/-- What another name of a command promises of the command that is there under the name it gives: it
is not another name itself, it has the same handler, and it takes as many arguments. -/
structure Command.Backs (meant other : Command) : Prop where
  original : meant.aliasOf = none
  handler : meant.handler = other.handler
  arity : meant.arity = other.arity

namespace Registry

section Promises

variable {registry : Registry} {command meant : Command}

/-- Another name of a command that is none itself promises what it has taken from it. -/
theorem backs_aliasFor (original : command.aliasOf = none) (matcher : Matcher) (target : String) :
    command.Backs (aliasFor matcher target command) := ⟨original, rfl, rfl⟩

/-- Another name of another name promises the same. -/
theorem backs_aliasFor_of_backs (backs : meant.Backs command) (matcher : Matcher)
    (target : String) : meant.Backs (aliasFor matcher target command) :=
  ⟨backs.original, backs.handler, backs.arity⟩

/-- All other names keep their promise. -/
def Truthful (registry : Registry) : Prop :=
  ∀ other ∈ registry.commands, ∀ name, other.aliasOf = some name →
    ∀ meant, registry.get? name = some meant → meant.Backs other

/-- A command keeps the promises that are made of its name, and what it is another name of keeps its
own. -/
structure Fits (registry : Registry) (command : Command) : Prop where
  backs : ∀ other ∈ registry.commands, other.name ≠ command.name →
    other.aliasOf = some command.name → command.Backs other
  backed : ∀ name, command.aliasOf = some name → name ≠ command.name ∧
    ∀ meant, registry.get? name = some meant → meant.Backs command

theorem truthful_register_iff (distinct : registry.names.Nodup) (truthful : registry.Truthful) :
    (registry.register command).Truthful ↔ registry.Fits command := by
  constructor
  · intro stillTruthful
    refine ⟨?_, ?_⟩
    · intro other member differs points
      refine stillTruthful other ((mem_register_iff distinct).mpr (.inr ⟨member, differs⟩)) _ points
        command ?_
      rw [get?_register, if_pos rfl]
    · intro name points
      have own := stillTruthful command ((mem_register_iff distinct).mpr (.inl rfl)) name points
      have differs : name ≠ command.name := by
        intro same
        have backed := own command (by rw [get?_register, if_pos same])
        rw [backed.original] at points
        cases points
      refine ⟨differs, fun meant found => own meant ?_⟩
      rw [get?_register, if_neg differs, found]
  · intro fits other member name points meant found
    rw [get?_register] at found
    rcases (mem_register_iff distinct).mp member with rfl | ⟨old, differs⟩
    · obtain ⟨elsewhere, backed⟩ := fits.backed name points
      rw [if_neg elsewhere] at found
      exact backed meant found
    · split at found
      next same =>
        cases found
        exact fits.backs other old differs (same ▸ points)
      next => exact truthful other old name points meant found

theorem Truthful.unregister (truthful : registry.Truthful) (gone : String) :
    (registry.unregister gone).Truthful := by
  intro other member name points meant found
  rw [get?_unregister] at found
  split at found
  next => cases found
  next => exact truthful other (List.mem_of_mem_filter member) name points meant found

/-- Another name fits if it is not the name that it is another name of, and nothing else is another
name of it. -/
theorem fits_aliasFor_iff (truthful : registry.Truthful) {target : String} (matcher : Matcher)
    (found : registry.get? target = some command) :
    registry.Fits (aliasFor matcher target command) ↔
      command.aliasOf.getD target ≠ matcher.name ∧
        ∀ other ∈ registry.commands, other.aliasOf = some matcher.name →
          other.name = matcher.name := by
  constructor
  · intro fits
    refine ⟨(fits.backed _ rfl).1, ?_⟩
    intro other member points
    by_contra differs
    cases (fits.backs other member differs points).original
  · rintro ⟨elsewhere, unnamed⟩
    refine ⟨?_, ?_⟩
    · intro other member differs points
      exact absurd (unnamed other member points) differs
    · intro name points
      obtain rfl := Option.some.inj points
      refine ⟨elsewhere, fun meant meantFound => ?_⟩
      cases isAlias : command.aliasOf with
      | none =>
          rw [isAlias, Option.getD_none, found] at meantFound
          cases meantFound
          exact backs_aliasFor isAlias matcher target
      | some root =>
          rw [isAlias, Option.getD_some] at meantFound
          have backed := truthful command (mem_of_get? found) root isAlias meant meantFound
          exact backs_aliasFor_of_backs backed matcher target

end Promises

end Registry

/-- A change that puts nothing in which breaks a promise: a command has to fit, and another name
must not be the name that it is another name of, nor one that something else is another name of. -/
def Change.Harmless (registry : Registry) : Change → Prop
  | register command => registry.Fits command
  | addAlias matcher target =>
      ∀ command, registry.get? target = some command →
        command.aliasOf.getD target ≠ matcher.name ∧
          ∀ other ∈ registry.commands, other.aliasOf = some matcher.name →
            other.name = matcher.name
  | unregister _ => True

namespace Registry

section Changes

variable {registry : Registry} {changes : List Change} {name : String}

theorem truthful_apply_iff (distinct : registry.names.Nodup) (truthful : registry.Truthful)
    (change : Change) : (registry.apply change).Truthful ↔ change.Harmless registry := by
  cases change with
  | register command => exact truthful_register_iff distinct truthful
  | addAlias matcher target =>
      cases found : registry.get? target with
      | none =>
          rw [apply_addAlias_of_missing matcher found]
          simp [truthful, Change.Harmless, found]
      | some command =>
          rw [apply_addAlias matcher found, truthful_register_iff distinct truthful,
            fits_aliasFor_iff truthful matcher found]
          simp [Change.Harmless, found]
  | unregister gone =>
      simp only [Change.Harmless, iff_true]
      exact truthful.unregister gone

/-- What another name has of a command, the command it names once had. -/
theorem exists_origin (originals : ∀ command, .register command ∈ changes → command.aliasOf = none)
    {other : Command} (member : other ∈ (ofChanges changes).commands)
    (points : other.aliasOf = some name) :
    other.help = "Alias for `" ++ name ++ "`" ∧
      ∃ before meant, before <+: changes ∧ (ofChanges before).get? name = some meant ∧
        meant.Backs other := by
  induction changes using List.reverseRecOn generalizing other name with
  | nil => cases member
  | append_singleton changes change ih =>
      have earlier : changes <+: changes ++ [change] := List.prefix_append ..
      have still : ∀ command, .register command ∈ changes → command.aliasOf = none :=
        fun command known => originals command (List.mem_append_left _ known)
      have old {other : Command} {name : String} (member : other ∈ (ofChanges changes).commands)
          (points : other.aliasOf = some name) :
          other.help = "Alias for `" ++ name ++ "`" ∧
            ∃ before meant, before <+: changes ++ [change] ∧
              (ofChanges before).get? name = some meant ∧ meant.Backs other := by
        obtain ⟨help, before, meant, isFront, found, backs⟩ := ih still member points
        exact ⟨help, before, meant, isFront.trans earlier, found, backs⟩
      have distinct := (shows_ofChanges changes).nodup
      rw [ofChanges_concat] at member
      cases change with
      | register command =>
          rcases (mem_register_iff distinct).mp member with rfl | ⟨known, _⟩
          · rw [originals other (by simp)] at points
            cases points
          · exact old known points
      | addAlias matcher target =>
          cases found : (ofChanges changes).get? target with
          | none =>
              rw [apply_addAlias_of_missing matcher found] at member
              exact old member points
          | some command =>
              rw [apply_addAlias matcher found] at member
              rcases (mem_register_iff distinct).mp member with rfl | ⟨known, _⟩
              · obtain rfl := Option.some.inj points
                refine ⟨rfl, ?_⟩
                cases isAlias : command.aliasOf with
                | none =>
                    exact ⟨changes, command, earlier, found,
                      backs_aliasFor isAlias matcher target⟩
                | some root =>
                    obtain ⟨_, before, meant, isFront, known, backs⟩ :=
                      old (mem_of_get? found) isAlias
                    exact ⟨before, meant, isFront, known,
                      backs_aliasFor_of_backs backs matcher target⟩
              · exact old known points
      | unregister gone => exact old (List.mem_of_mem_filter member) points

/-- Other names of commands keep their promises all along exactly if all changes are harmless.  In
any case another name has the handler and the arity that a command of the name it gives once had. -/
theorem other_names_tell_truth_iff (changes : List Change) :
    ((∀ before, before <+: changes → (ofChanges before).Truthful) ↔
        ∀ before change, before ++ [change] <+: changes → change.Harmless (ofChanges before)) ∧
      ((∀ command, .register command ∈ changes → command.aliasOf = none) →
        ∀ other ∈ (ofChanges changes).commands, ∀ name, other.aliasOf = some name →
          other.help = "Alias for `" ++ name ++ "`" ∧
            ∃ before meant, before <+: changes ∧ (ofChanges before).get? name = some meant ∧
              meant.Backs other) := by
  refine ⟨⟨?_, ?_⟩, fun originals _ member _ points => exists_origin originals member points⟩
  · intro truthful before change isFront
    have distinct := (shows_ofChanges before).nodup
    rw [← truthful_apply_iff distinct (truthful before ((List.prefix_append ..).trans isFront)),
      ← ofChanges_concat]
    exact truthful _ isFront
  · intro harmless before isFront
    induction before using List.reverseRecOn with
    | nil => nofun
    | append_singleton before change ih =>
        have distinct := (shows_ofChanges before).nodup
        rw [ofChanges_concat,
          truthful_apply_iff distinct (ih ((List.prefix_append ..).trans isFront))]
        exact harmless before change isFront

theorem other_names_tell_truth_iff_of_chain :
    let play := Command.named "play" "Play" .variadic Commands.play
    let again := aliasFor (.ofName "again") "play" play
    let changes : List Change := [.register play, .addAlias (.ofName "replay") "play",
      .addAlias (.ofName "again") "replay"]
    (∀ before, before <+: changes → (ofChanges before).Truthful) ∧
      again ∈ (ofChanges changes).commands ∧ again.aliasOf = some "play" ∧
      again.help = "Alias for `" ++ "play" ++ "`" ∧
        ∃ before meant, before <+: changes ∧ (ofChanges before).get? "play" = some meant ∧
          meant.Backs again := by
  intro play again changes
  obtain ⟨truthful, origin⟩ := other_names_tell_truth_iff changes
  have member : again ∈ (ofChanges changes).commands := .tail _ (.tail _ List.mem_cons_self)
  refine ⟨truthful.mpr ?_, member, rfl, origin ?_ again member "play" rfl⟩
  · intro before change isFront
    rcases before with _ | ⟨first, _ | ⟨second, _ | ⟨third, rest⟩⟩⟩
    · obtain rfl : change = .register play := by simpa [changes] using isFront
      exact ⟨nofun, nofun⟩
    · obtain ⟨rfl, rfl⟩ :
          first = .register play ∧ change = .addAlias (.ofName "replay") "play" := by
        simpa [changes] using isFront
      rintro _ ⟨⟩
      refine ⟨by decide, ?_⟩
      intro other member points
      obtain rfl := List.mem_singleton.mp member
      cases points
    · obtain ⟨rfl, rfl, rfl⟩ : first = .register play ∧
          second = .addAlias (.ofName "replay") "play" ∧
          change = .addAlias (.ofName "again") "replay" := by
        simpa [changes] using isFront
      rintro _ ⟨⟩
      refine ⟨by decide, ?_⟩
      intro other member points
      rcases List.mem_pair.mp member with rfl | rfl
      · cases points
      · exact absurd (Option.some.inj points) (by decide)
    · have short := isFront.length_le
      simp [changes] at short
      omega
  · intro command registered
    obtain rfl : command = play := by simpa [changes] using registered
    rfl

/-- Another name of a command that is replaced goes on standing for what it stood for. -/
theorem alias_of_replaced_command :
    ¬(ofChanges [.register (.named "a" "first" (.fixed 1) Commands.help),
      .addAlias (.ofName "b") "a",
      .register (.named "a" "second" (.fixed 2) Commands.exit)]).Truthful := by
  intro truthful
  have backs := truthful _ (List.mem_cons_of_mem _ List.mem_cons_self) "a" rfl _ rfl
  cases backs.arity

end Changes

end Registry

end Console
