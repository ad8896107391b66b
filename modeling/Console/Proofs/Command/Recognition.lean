import Console.Proofs.Command.Captures
import Console.Proofs.Command.Registering

/-!
# Which lines invoke a built-in command

Every built-in command is recognised by its name and by what follows it.  No line has two of them in
front of it such that both go on with something that they recognise, so a line invokes one built-in
command at most, in whatever order they are registered.
-/

namespace Console

/-! ## What follows a name -/

namespace Matcher

variable {name line rest : List Char}

theorem afterName?_eq_some_iff : afterName? name line = some rest ↔ line = name ++ rest := by
  induction name generalizing line with
  | nil => simp [afterName?, eq_comm]
  | cons c name ih =>
      cases line with
      | nil => simp [afterName?]
      | cons d line =>
          by_cases same : c = d
          · simp [afterName?, same, ih]
          · simp [afterName?, same, Ne.symm same]

theorem afterName?_eq_none_iff : afterName? name line = none ↔ ¬name <+: line := by
  simp only [← Option.not_isSome_iff_eq_none, Option.isSome_iff_exists, afterName?_eq_some_iff,
    List.IsPrefix, eq_comm (a := line)]

/-- What a command that is recognised by its name is given of what follows the name. -/
def worded? : List Char → Option (Option String)
  | [] => some none
  | c :: rest =>
      if Text.isBlank c then
        let arguments := Text.trim (c :: rest)
        some (if arguments.isEmpty then none else some (.ofList arguments))
      else none

theorem recognize?_ofName (name line : String) :
    (ofName name).recognize? line =
      (afterName? name.toList line.toList).bind fun rest =>
        (worded? rest).map fun argument => ⟨name, [argument]⟩ := by
  rw [recognize?, ofName]
  dsimp only
  rw [rest?]
  cases afterName? name.toList line.toList with
  | none => rfl
  | some rest =>
      cases rest with
      | nil => rfl
      | cons c rest => rfl

/-- A command of a name without blank characters is recognised in the lines that have its name in
front of their first blank character. -/
theorem isSome_recognize?_ofName {name : String}
    (visible : ∀ c ∈ name.toList, Text.isBlank c = false) (line : String) :
    ((ofName name).recognize? line).isSome ↔
      line.toList.takeWhile (fun c => !Text.isBlank c) = name.toList := by
  rw [recognize?_ofName]
  constructor
  · intro recognized
    cases found : afterName? name.toList line.toList with
    | none =>
        rw [found] at recognized
        cases recognized
    | some rest =>
        rw [found, Option.bind_some, Option.isSome_map] at recognized
        rw [afterName?_eq_some_iff.mp found, List.takeWhile_append_of_pos (by simpa using visible)]
        cases rest with
        | nil => exact List.append_nil _
        | cons c rest =>
            cases blank : Text.isBlank c with
            | true => simp [blank]
            | false => simp [worded?, blank] at recognized
  · intro begins
    have split : line.toList = name.toList ++ line.toList.dropWhile (fun c => !Text.isBlank c) := by
      rw [← begins, List.takeWhile_append_dropWhile]
    rw [afterName?_eq_some_iff.mpr split, Option.bind_some, Option.isSome_map]
    have stops := List.head?_dropWhile_not (fun c => !Text.isBlank c) line.toList
    cases rest : line.toList.dropWhile (fun c => !Text.isBlank c) with
    | nil => rfl
    | cons c rest =>
        rw [rest] at stops
        have blank : Text.isBlank c = true := by simpa using stops
        simp [worded?, blank]

/-- The texts of the first groups. -/
def captured (count : Nat) (groups : Regex.Matched) : List (Option String) :=
  (List.range count).map fun index => (groups.lookup (index + 1)).map .ofList

theorem captured_three (groups : Regex.Matched) :
    captured 3 groups = [(groups.lookup 1).map .ofList, (groups.lookup 2).map .ofList,
      (groups.lookup 3).map .ofList] := rfl

theorem recognize?_ofRegex (name source : String) (regex : Regex) (line : String) :
    (ofRegex name source regex).recognize? line =
      (regex.groupsByWays? line.toList).map fun groups =>
        ⟨name, captured regex.groupCount groups⟩ := by
  simp [recognize?, ofRegex, Pattern.captures?, captured, Option.map_map]
  rfl

end Matcher

namespace Commands

open Matcher

/-- What a built-in command captures of what follows its name. -/
def captures? (name : String) (rest : List Char) : Option (List (Option String)) :=
  if name = "amend-line" ∨ name = "%" then (amendment? rest).map (captured 3)
  else if name = "cd" then (targeted? rest).map (captured 1)
  else (worded? rest).map fun argument => [argument]

section Captures

variable {name : String}

theorem captures?_of_plain (plain : name ≠ "amend-line" ∧ name ≠ "%" ∧ name ≠ "cd")
    (rest : List Char) : captures? name rest = (worded? rest).map fun argument => [argument] := by
  rw [captures?, if_neg (by simp [plain]), if_neg plain.2.2]

theorem captures?_of_amends (amends : name = "amend-line" ∨ name = "%") (rest : List Char) :
    captures? name rest = (amendment? rest).map (captured 3) := if_pos amends

theorem captures?_cd (rest : List Char) :
    captures? "cd" rest = (targeted? rest).map (captured 1) := rfl

end Captures

theorem recognize?_amendMatcher (name line : String) :
    (amendMatcher name).recognize? line =
      (afterName? name.toList line.toList).bind fun rest =>
        (amendment? rest).map fun groups => ⟨name, captured 3 groups⟩ := by
  rw [amendMatcher, recognize?_ofRegex]
  cases found : afterName? name.toList line.toList with
  | none =>
      rw [groups_amend_of_absent (afterName?_eq_none_iff.mp found)]
      rfl
  | some rest =>
      rw [afterName?_eq_some_iff.mp found, groups_amend]
      rfl

theorem recognize?_cdMatcher (line : String) :
    cdMatcher.recognize? line =
      (afterName? ['c', 'd'] line.toList).bind fun rest =>
        (targeted? rest).map fun groups => ⟨"cd", captured 1 groups⟩ := by
  rw [cdMatcher, recognize?_ofRegex]
  cases found : afterName? ['c', 'd'] line.toList with
  | none =>
      rw [groups_cd_of_absent (afterName?_eq_none_iff.mp found)]
      rfl
  | some rest =>
      rw [afterName?_eq_some_iff.mp found]
      change Option.map _ (Regex.groupsByWays? _ ('c' :: 'd' :: rest)) = _
      rw [groups_cd]
      rfl

end Commands

namespace Registry

open Matcher Commands

/-- How a built-in command is recognised, and what it does if that is by a pattern. -/
inductive Kind (name : String) (working : Command.Working) : Prop where
  | name (plain : name ≠ "amend-line" ∧ name ≠ "%" ∧ name ≠ "cd")
      (matcher : working.matcher = .ofName name)
  | amend (amends : name = "amend-line" ∨ name = "%")
      (whole : working = ⟨amendMatcher name, .fixed 3, false, amendLine⟩)
  | cd (isCd : name = "cd") (whole : working = ⟨cdMatcher, .fixed 1, false, changeSession⟩)

theorem kind_of_mem_listed : ∀ working ∈ listed, Kind working.matcher.name working := by
  have named (name : String) (arity : Arity) (handler : Handler)
      (plain : name ≠ "amend-line" ∧ name ≠ "%" ∧ name ≠ "cd") :
      Kind name ⟨.ofName name, arity, true, handler⟩ := .name plain rfl
  simp only [listed, List.forall_mem_cons]
  refine ⟨named _ _ _ (by decide), named _ _ _ (by decide), .amend (.inl rfl) rfl,
    .amend (.inr rfl) rfl, named _ _ _ (by decide), named _ _ _ (by decide),
    named _ _ _ (by decide), .cd rfl rfl, named _ _ _ (by decide), named _ _ _ (by decide),
    named _ _ _ (by decide), named _ _ _ (by decide), named _ _ _ (by decide),
    named _ _ _ (by decide), named _ _ _ (by decide), named _ _ _ (by decide),
    named _ _ _ (by decide), named _ _ _ (by decide), List.forall_mem_nil _⟩

theorem kind_of_mem {command : Command} (member : command ∈ builtin.commands) :
    Kind command.name command.working :=
  kind_of_mem_listed _ (working_builtin ▸ List.mem_map_of_mem member)

/-- A command with a pattern is given its captures as they are. -/
theorem arguments_of_working {command : Command} {matcher : Matcher} {arity : Arity}
    {handler : Handler} (working : command.working = ⟨matcher, arity, false, handler⟩)
    (captures : List (Option String)) :
    command.arguments captures = .ok (arity.fit captures) := by
  have same : command.arity = arity := congrArg Command.Working.arity working
  have plain : command.interpolate = false := congrArg Command.Working.interpolate working
  rw [Signature.arguments, plain, same]
  rfl

/-- A built-in command is recognised by its name and by what follows the name. -/
theorem recognize?_builtin {command : Command} (member : command ∈ builtin.commands)
    (line : String) :
    command.matcher.recognize? line =
      (afterName? command.name.toList line.toList).bind fun rest =>
        (captures? command.name rest).map fun captures => ⟨command.name, captures⟩ := by
  have same : command.matcher = command.working.matcher := rfl
  rw [same]
  cases kind_of_mem member with
  | name plain matcher =>
      rw [matcher, recognize?_ofName]
      simp [captures?, plain, Option.map_map, Function.comp_def]
  | amend amends whole =>
      rw [whole, recognize?_amendMatcher]
      simp [captures?, amends, Option.map_map, Function.comp_def]
  | cd isCd whole =>
      rw [whole, recognize?_cdMatcher, isCd]
      simp [captures?, Option.map_map, Function.comp_def]

/-! ## Lines that begin with a name -/

theorem names_builtin : builtin.names = listed.map (·.matcher.name) := by
  rw [← working_builtin, List.map_map]
  rfl

/-- The commands that amend lines. -/
theorem exists_amendment {name : String} (amends : name ∈ ["amend-line", "%"]) :
    ∃ command ∈ builtin.commands, command.name = name ∧
      command.working = ⟨amendMatcher name, .fixed 3, false, amendLine⟩ := by
  have named : name ∈ builtin.names := by
    rw [names_builtin]
    have among : ["amend-line", "%"].all (listed.map (·.matcher.name)).contains := rfl
    simpa using List.all_eq_true.mp among name amends
  obtain ⟨command, member, rfl⟩ := List.mem_map.mp named
  refine ⟨command, member, rfl, ?_⟩
  cases kind_of_mem member with
  | name plain _ => simp [plain] at amends
  | amend _ working => exact working
  | cd isCd _ => simp [isCd] at amends

theorem nodup_names_builtin : builtin.names.Nodup := by
  rw [names_builtin]
  decide

/-- There is no blank character in a name. -/
theorem not_isBlank_of_mem_names {name : String} (member : name ∈ builtin.names) :
    ∀ c ∈ name.toList, Text.isBlank c = false := by
  have blankless : (listed.map (·.matcher.name)).all fun name =>
      name.toList.all fun c => !Text.isBlank c := rfl
  rw [← names_builtin] at blankless
  simpa using List.all_eq_true.mp blankless name member

/-- Whether two names are the same, or the first one does not begin with the second one, or goes on
with a character that is not blank while the second one has no pattern. -/
def areApart (name other : String) : Bool :=
  name == other ||
    match afterName? other.toList name.toList with
    | none => true
    | some [] => false
    | some (c :: _) => !Text.isBlank c && !(["amend-line", "%", "cd"].contains other)

theorem areApart_of_mem {name other : String} (member : name ∈ builtin.names)
    (otherMember : other ∈ builtin.names) : areApart name other = true := by
  have apart : (listed.map (·.matcher.name)).all fun name =>
      (listed.map (·.matcher.name)).all (areApart name) := rfl
  rw [← names_builtin] at apart
  exact List.all_eq_true.mp (List.all_eq_true.mp apart name member) other otherMember

/-- A name that begins with another one goes on with a character that is not blank, and the shorter
name has no pattern. -/
theorem longer_name {name other : String} {more : List Char} (member : name ∈ builtin.names)
    (otherMember : other ∈ builtin.names) (longer : name.toList = other.toList ++ more) :
    name = other ∨ ∃ c rest, more = c :: rest ∧ Text.isBlank c = false ∧
      other ∉ ["amend-line", "%", "cd"] := by
  have apart := areApart_of_mem member otherMember
  rw [areApart, afterName?_eq_some_iff.mpr longer] at apart
  rcases Bool.or_eq_true_iff.mp apart with same | differs
  · exact .inl (by simpa using same)
  · cases more with
    | nil => cases differs
    | cons c rest => exact .inr ⟨c, rest, rfl, by simpa using differs⟩

/-- What does not begin with a blank character follows the name of a command only if that has a
pattern. -/
theorem captures?_of_visible {name : String} {c : Char} {rest : List Char}
    (plain : name ∉ ["amend-line", "%", "cd"]) (visible : Text.isBlank c = false) :
    captures? name (c :: rest) = none := by
  simp only [List.mem_cons, List.not_mem_nil, or_false, not_or] at plain
  simp [captures?, plain, worded?, visible]

/-- A command that is recognised in a line which begins with a name is the one of that name, as long
as a name without a pattern ends where a word ends. -/
theorem name_of_recognized {command other : Command} (member : command ∈ builtin.commands)
    (otherMember : other ∈ builtin.commands) {line : String} {rest : List Char}
    (begins : line.toList = command.name.toList ++ rest)
    (ends : command.name ∉ ["amend-line", "%", "cd"] → ∀ c ∈ rest.head?, Text.isBlank c = true)
    (recognized : (other.matcher.recognize? line).isSome) : other.name = command.name := by
  have named : command.name ∈ builtin.names := List.mem_map_of_mem member
  have otherNamed : other.name ∈ builtin.names := List.mem_map_of_mem otherMember
  rw [recognize?_builtin otherMember] at recognized
  cases found : afterName? other.name.toList line.toList with
  | none =>
      rw [found] at recognized
      cases recognized
  | some after =>
      rw [found] at recognized
      have split := afterName?_eq_some_iff.mp found
      rw [begins] at split
      rcases List.append_eq_append_iff.mp split with ⟨more, longer, rfl⟩ | ⟨more, longer, rfl⟩
      · rcases longer_name otherNamed named longer with same | ⟨c, tail, rfl, visible, plain⟩
        · exact same
        · have blank := ends plain c (by simp)
          rw [visible] at blank
          cases blank
      · rcases longer_name named otherNamed longer with same | ⟨c, tail, rfl, visible, plain⟩
        · exact same.symm
        · rw [List.cons_append, Option.bind_some, captures?_of_visible plain visible] at recognized
          cases recognized

/-- What does not begin with a blank character is captured by a command with a pattern only. -/
theorem ends_of_captures? {name : String} {rest : List Char}
    (captured : (captures? name rest).isSome) :
    name ∉ ["amend-line", "%", "cd"] → ∀ c ∈ rest.head?, Text.isBlank c = true := by
  intro plain c first
  obtain ⟨tail, rfl⟩ := List.head?_eq_some_iff.mp first
  rw [← Bool.not_eq_false]
  intro visible
  rw [captures?_of_visible plain visible] at captured
  cases captured

/-- A line that begins with a name, and goes on with something that the command of that name can
capture, invokes that command. -/
theorem find?_builtin {command : Command} (member : command ∈ builtin.commands) {line : String}
    {rest : List Char} (begins : line.toList = command.name.toList ++ rest)
    {captures : List (Option String)} (captured : captures? command.name rest = some captures) :
    builtin.find? line = some (command, ⟨command.name, captures⟩) := by
  apply find?_of_only nodup_names_builtin member
  · rw [recognize?_builtin member, afterName?_eq_some_iff.mpr begins]
    simp [captured]
  · intro other otherMember recognized
    exact name_of_recognized member otherMember begins (ends_of_captures? (by simp [captured]))
      recognized

/-! ## The one command that recognises a line -/

theorem get?_of_mem {command : Command} (member : command ∈ builtin.commands) :
    builtin.get? command.name = some command := get?_of_nodup nodup_names_builtin member

theorem eq_of_name {command other : Command} (member : command ∈ builtin.commands)
    (otherMember : other ∈ builtin.commands) (same : other.name = command.name) :
    other = command := by
  have found := get?_of_mem otherMember
  rw [same, get?_of_mem member] at found
  exact (Option.some.inj found).symm

theorem exists_rest_of_recognized {command : Command} (member : command ∈ builtin.commands)
    {line : String} (recognized : (command.matcher.recognize? line).isSome) :
    ∃ rest, line.toList = command.name.toList ++ rest ∧ (captures? command.name rest).isSome := by
  rw [recognize?_builtin member] at recognized
  cases found : afterName? command.name.toList line.toList with
  | none =>
      rw [found] at recognized
      cases recognized
  | some rest =>
      rw [found, Option.bind_some, Option.isSome_map] at recognized
      exact ⟨rest, afterName?_eq_some_iff.mp found, recognized⟩

/-- No two commands recognise a line. -/
theorem eq_of_recognized {command other : Command} (member : command ∈ builtin.commands)
    (otherMember : other ∈ builtin.commands) {line : String}
    (recognized : (command.matcher.recognize? line).isSome)
    (otherRecognized : (other.matcher.recognize? line).isSome) : other = command := by
  obtain ⟨rest, begins, captured⟩ := exists_rest_of_recognized member recognized
  exact eq_of_name member otherMember
    (name_of_recognized member otherMember begins (ends_of_captures? captured) otherRecognized)

theorem matcher_of_name {command : Command} (member : command ∈ builtin.commands)
    (named : command.matcher.isPattern = false) : command.matcher = .ofName command.name := by
  have same : command.matcher = command.working.matcher := rfl
  cases kind_of_mem member with
  | name _ matcher => exact matcher
  | amend _ whole =>
      rw [same, whole] at named
      cases named
  | cd _ whole =>
      rw [same, whole] at named
      cases named

/-- In another order, the built-in commands are registered as they come. -/
theorem commands_of_perm {order : List Command} (permuted : order.Perm builtin.commands) :
    (ofChanges (order.map .register)).commands = order := by
  have distinct : (order.map Command.name).Nodup :=
    (permuted.map Command.name).nodup_iff.mpr nodup_names_builtin
  have added : ((order.map Change.register).foldl apply empty).commands = [] ++ order :=
    commands_foldl_register (by simpa [names, empty] using distinct)
  rwa [List.nil_append] at added

theorem find?_of_perm {order : List Command} (permuted : order.Perm builtin.commands)
    (line : String) : (ofChanges (order.map .register)).find? line = builtin.find? line := by
  have commands := commands_of_perm permuted
  cases found : builtin.find? line with
  | none =>
      rw [find?, List.findSome?_eq_none_iff] at found ⊢
      rw [commands]
      exact fun command member => found command (permuted.mem_iff.mp member)
  | some invoked =>
      obtain ⟨command, member, isFound⟩ := List.exists_of_findSome?_eq_some found
      obtain ⟨recognized, own, rfl⟩ := Option.map_eq_some_iff.mp isFound
      apply find?_of_only (shows_ofChanges _).nodup
      · rw [commands]
        exact permuted.mem_iff.mpr member
      · exact own
      · rw [commands]
        intro other otherMember otherRecognized
        rw [eq_of_recognized member (permuted.mem_iff.mp otherMember) (by simp [own])
          otherRecognized]

/-- At most one built-in command recognises a line, so that it does not matter in which order they
are registered.  One without a pattern recognises the lines whose first word is its name. -/
theorem recognized_by_one_at_most (line : String) :
    (∀ command ∈ builtin.commands, ∀ other ∈ builtin.commands,
        (command.matcher.recognize? line).isSome → (other.matcher.recognize? line).isSome →
          other = command) ∧
      (∀ order : List Command, order.Perm builtin.commands →
        (ofChanges (order.map .register)).find? line = builtin.find? line) ∧
      ∀ command ∈ builtin.commands, command.matcher.isPattern = false →
        ((command.matcher.recognize? line).isSome ↔
          line.toList.takeWhile (fun c => !Text.isBlank c) = command.name.toList) := by
  refine ⟨fun _ member _ otherMember => eq_of_recognized member otherMember,
    fun _ permuted => find?_of_perm permuted line, ?_⟩
  intro command member named
  rw [matcher_of_name member named]
  exact isSome_recognize?_ofName (not_isBlank_of_mem_names (List.mem_map_of_mem member)) line

theorem recognized_by_one_at_most_reversed :
    ∃ command ∈ builtin.commands, command.name = "exit-all" ∧ command.matcher.isPattern = false ∧
      (command.matcher.recognize? "exit-all now").isSome ∧
      (∀ other ∈ builtin.commands, (other.matcher.recognize? "exit-all now").isSome →
        other = command) ∧
      builtin.commands.reverse.Perm builtin.commands ∧
      (ofChanges (builtin.commands.reverse.map .register)).find? "exit-all now" =
        builtin.find? "exit-all now" := by
  have among : "exit-all" ∈ builtin.names := by
    rw [names_builtin]
    decide
  obtain ⟨command, member, named⟩ := List.mem_map.mp among
  have plain : command.matcher.isPattern = false := by
    have same : command.matcher = command.working.matcher := rfl
    cases kind_of_mem member with
    | name _ matcher =>
        rw [same, matcher]
        rfl
    | amend amends _ => simp [named] at amends
    | cd isCd _ => simp [named] at isCd
  obtain ⟨one, reordered, word⟩ := recognized_by_one_at_most "exit-all now"
  have own := (word command member plain).mpr (by rw [named]; rfl)
  have reversed := List.reverse_perm builtin.commands
  exact ⟨command, member, named, plain, own,
    fun other otherMember => one _ member _ otherMember own,
    reversed, reordered _ reversed⟩

end Registry

end Console
