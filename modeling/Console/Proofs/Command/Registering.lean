import Console.Command.Registry
import Console.Proofs.Command.Patterns

/-!
# Registering and removing commands

A registry is an ordered map from names to commands: a name stands where it was put in since it was
last taken away, and the command that is put in under it later takes its place.  What the registry
shows is read off a roster, which knows of each name since which change it has been there and which
command it stands for.  The first command in that order which recognises a line gets it, so a
command can lose its line only to one that takes its own place or a place in front of it.
-/

namespace Console

/-- A change of a registry. -/
inductive Change where
  | register (command : Command)
  | addAlias (matcher : Matcher) (target : String)
  | unregister (name : String)

/-- The name that a change puts in or takes away. -/
def Change.name : Change → String
  | register command => command.name
  | addAlias matcher _ => matcher.name
  | unregister name => name

namespace Registry

variable {registry : Registry} {command : Command} {name line : String} {recognized : Recognized}

/-! ## Names -/

theorem map_name_insert (command : Command) (commands : List Command) :
    (insert command commands).map Command.name =
      if command.name ∈ commands.map Command.name then commands.map Command.name
      else commands.map Command.name ++ [command.name] := by
  induction commands with
  | nil => rfl
  | cons other rest ih =>
      by_cases same : other.name = command.name
      · simp [insert, same]
      · rw [insert, if_neg same, List.map_cons, ih, List.map_cons]
        by_cases later : command.name ∈ rest.map Command.name
        · simp [later]
        · simp [later, Ne.symm same]

theorem names_register (registry : Registry) (command : Command) :
    (registry.register command).names =
      if command.name ∈ registry.names then registry.names else registry.names ++ [command.name] :=
  map_name_insert command registry.commands

theorem names_unregister (registry : Registry) (gone : String) :
    (registry.unregister gone).names = registry.names.filter (· != gone) := by
  rw [names, unregister, names, List.filter_map]
  rfl

theorem nodup_register (distinct : registry.names.Nodup) (command : Command) :
    (registry.register command).names.Nodup := by
  rw [names_register]
  split
  next => exact distinct
  next new =>
    rw [← List.concat_eq_append]
    exact distinct.concat new

/-! ## Finding commands by their names -/

theorem get?_register (registry : Registry) (command : Command) (name : String) :
    (registry.register command).get? name =
      if name = command.name then some command else registry.get? name := by
  obtain ⟨commands⟩ := registry
  change (insert command commands).find? _ = if _ then _ else commands.find? _
  induction commands with
  | nil =>
      by_cases same : name = command.name
      · simp [insert, same]
      · simp [insert, same, Ne.symm same]
  | cons other rest ih =>
      by_cases replaced : other.name = command.name
      · by_cases same : name = command.name
        · simp [insert, replaced, same]
        · simp [insert, replaced, same, Ne.symm same]
      · rw [insert, if_neg replaced, List.find?_cons, List.find?_cons, ih]
        by_cases same : other.name = name
        · simp [same, show name ≠ command.name from same ▸ replaced]
        · have differs : (other.name == name) = false := by simpa using same
          rw [differs]

theorem get?_unregister (registry : Registry) (gone name : String) :
    (registry.unregister gone).get? name = if name = gone then none else registry.get? name := by
  rw [get?, unregister, get?, List.find?_filter]
  split
  next same =>
    rw [List.find?_eq_none]
    intro other _ both
    simp [same] at both
  next other =>
    congr 1
    funext command
    by_cases same : command.name = name
    · simp [same, other]
    · simp [same]

theorem name_of_get? (found : registry.get? name = some command) : command.name = name := by
  simpa using List.find?_some found

theorem mem_of_get? (found : registry.get? name = some command) : command ∈ registry.commands :=
  List.mem_of_find?_eq_some found

theorem isSome_get?_iff : (registry.get? name).isSome ↔ name ∈ registry.names := by
  simp [get?, names, List.find?_isSome]

/-- Where no two commands have the same name, each is found by its own. -/
theorem get?_of_nodup (distinct : registry.names.Nodup) (member : command ∈ registry.commands) :
    registry.get? command.name = some command := by
  obtain ⟨before, after, split⟩ := List.append_of_mem member
  rw [names, split, List.map_append, List.nodup_append] at distinct
  rw [get?, List.find?_eq_some_iff_append]
  refine ⟨by simp, before, after, split, ?_⟩
  intro other earlier
  have apart := distinct.2.2 _ (List.mem_map_of_mem earlier) command.name (by simp)
  simpa using apart

theorem get?_eq_some_iff (distinct : registry.names.Nodup) :
    registry.get? name = some command ↔ command ∈ registry.commands ∧ command.name = name := by
  constructor
  · exact fun found => ⟨mem_of_get? found, name_of_get? found⟩
  · rintro ⟨member, rfl⟩
    exact get?_of_nodup distinct member

theorem mem_register_iff (distinct : registry.names.Nodup) {other : Command} :
    other ∈ (registry.register command).commands ↔
      other = command ∨ other ∈ registry.commands ∧ other.name ≠ command.name := by
  have found : (registry.register command).get? other.name = some other ↔
      other ∈ (registry.register command).commands := by
    rw [get?_eq_some_iff (nodup_register distinct command), and_iff_left rfl]
  rw [get?_register] at found
  rw [← found]
  split
  next same => simp [same, eq_comm]
  next differs =>
    rw [get?_eq_some_iff distinct]
    have isOther : other ≠ command := fun same => differs (congrArg Command.name same)
    simp [isOther, differs]

theorem addAlias_eq_error_iff (registry : Registry) (matcher : Matcher) (target : String) :
    registry.addAlias matcher target = .error (.unknownCommand target) ↔
      target ∉ registry.names := by
  rw [← isSome_get?_iff, addAlias]
  cases registry.get? target with
  | none => simp
  | some command => simp

/-! ## Where commands are put in -/

/-- A command is put in behind commands of other names. -/
theorem insert_append {front : List Command} (new : command.name ∉ front.map Command.name)
    (behind : List Command) :
    insert command (front ++ behind) = front ++ insert command behind := by
  induction front with
  | nil => rfl
  | cons other front ih =>
      rw [List.map_cons, List.mem_cons, not_or] at new
      rw [List.cons_append, insert, if_neg (Ne.symm new.1), ih new.2]
      rfl

/-- A command of a new name is registered behind the others. -/
theorem commands_register_of_new (new : command.name ∉ registry.names) :
    (registry.register command).commands = registry.commands ++ [command] := by
  have behind := insert_append new []
  rwa [List.append_nil] at behind

theorem find?_register (new : command.name ∉ registry.names) :
    (registry.register command).find? line =
      (registry.find? line).or
        ((command.matcher.recognize? line).map fun recognized => (command, recognized)) := by
  rw [find?, commands_register_of_new new, List.findSome?_append]
  simp [find?]

/-- The first command that recognises a line gets it, whatever stands behind it. -/
theorem find?_of_front {front : List Command} (isFront : front ++ [command] <+: registry.commands)
    (missed : ∀ other ∈ front, other.matcher.recognize? line = none)
    (own : command.matcher.recognize? line = some recognized) :
    registry.find? line = some (command, recognized) := by
  obtain ⟨behind, split⟩ := isFront
  rw [find?, List.findSome?_eq_some_iff]
  refine ⟨front, command, behind, by rw [← split, List.append_assoc, List.singleton_append],
    by rw [own, Option.map_some], ?_⟩
  intro other member
  rw [missed other member, Option.map_none]

/-- A command that recognises a line gets it if no other one does. -/
theorem find?_of_only (distinct : registry.names.Nodup) (member : command ∈ registry.commands)
    (own : command.matcher.recognize? line = some recognized)
    (only : ∀ other ∈ registry.commands, (other.matcher.recognize? line).isSome →
      other.name = command.name) :
    registry.find? line = some (command, recognized) := by
  obtain ⟨before, after, split⟩ := List.append_of_mem member
  rw [names, split, List.map_append, List.nodup_append] at distinct
  have isFront : before ++ [command] <+: registry.commands :=
    ⟨after, by rw [split, List.append_assoc, List.singleton_append]⟩
  apply find?_of_front isFront ?_ own
  intro other earlier
  rw [← Option.not_isSome_iff_eq_none]
  intro recognized
  have same := only other (by simp [split, earlier]) recognized
  exact distinct.2.2 _ (List.mem_map_of_mem earlier) _ (by simp) same

theorem invokes_iff :
    registry.invokes line = true ↔
      ∃ command ∈ registry.commands, (command.matcher.recognize? line).isSome := by
  simp [invokes, find?, List.findSome?_isSome_iff]

/-! ## Changes -/

/-- The registry after a change.  Another name of a command that is not there changes nothing. -/
def apply (registry : Registry) : Change → Registry
  | .register command => registry.register command
  | .addAlias matcher target => (registry.addAlias matcher target).toOption.getD registry
  | .unregister name => registry.unregister name

theorem apply_addAlias {target : String} (matcher : Matcher)
    (found : registry.get? target = some command) :
    registry.apply (.addAlias matcher target) =
      registry.register (aliasFor matcher target command) := by
  rw [apply, addAlias, found]
  rfl

theorem apply_addAlias_of_missing {target : String} (matcher : Matcher)
    (missing : registry.get? target = none) :
    registry.apply (.addAlias matcher target) = registry := by
  rw [apply, addAlias, missing]
  rfl

/-- A change puts a command in under its name, or takes one away, or is refused. -/
theorem apply_cases (registry : Registry) (change : Change) :
    (∃ command, command.name = change.name ∧ registry.apply change = registry.register command) ∨
      registry.apply change = registry.unregister change.name ∨
        registry.apply change = registry := by
  cases change with
  | register command => exact .inl ⟨command, rfl, rfl⟩
  | addAlias matcher target =>
      cases found : registry.get? target with
      | none => exact .inr (.inr (apply_addAlias_of_missing matcher found))
      | some command => exact .inl ⟨_, rfl, apply_addAlias matcher found⟩
  | unregister gone => exact .inr (.inl rfl)

/-- The commands in front stay where they are as long as no change is about one of them. -/
theorem front_apply {front : List Command} {change : Change}
    (isFront : front <+: registry.commands) (apart : change.name ∉ front.map Command.name) :
    front <+: (registry.apply change).commands := by
  obtain ⟨behind, split⟩ := isFront
  rcases registry.apply_cases change with ⟨command, named, same⟩ | same | same
  · rw [← named] at apart
    rw [same, register, ← split, insert_append apart]
    exact List.prefix_append ..
  · rw [same, unregister, ← split, List.filter_append, List.filter_eq_self.mpr]
    · exact List.prefix_append ..
    · intro other member
      simp only [bne_iff_ne]
      exact fun isGone => apart (isGone ▸ List.mem_map_of_mem member)
  · rw [same]
    exact ⟨behind, split⟩

theorem front_foldl_apply {front : List Command} {more : List Change}
    (isFront : front <+: registry.commands)
    (apart : ∀ change ∈ more, change.name ∉ front.map Command.name) :
    front <+: (more.foldl apply registry).commands := by
  induction more generalizing registry with
  | nil => exact isFront
  | cons change more ih =>
      rw [List.forall_mem_cons] at apart
      exact ih (front_apply isFront apart.1) apart.2

/-- Commands of new names are registered one behind the other. -/
theorem commands_foldl_register {commands : List Command}
    (distinct : (registry.names ++ commands.map Command.name).Nodup) :
    ((commands.map Change.register).foldl apply registry).commands =
      registry.commands ++ commands := by
  induction commands generalizing registry with
  | nil => exact (List.append_nil _).symm
  | cons command commands ih =>
      rw [List.map_cons] at distinct
      have new : command.name ∉ registry.names := by
        intro known
        exact (List.nodup_append.mp distinct).2.2 _ known _ List.mem_cons_self rfl
      rw [List.map_cons, List.foldl_cons, apply, ih, commands_register_of_new new,
        List.append_assoc, List.singleton_append]
      rwa [names_register, if_neg new, List.append_assoc, List.singleton_append]

/-- The registry after changes of an empty one. -/
def ofChanges (changes : List Change) : Registry := changes.foldl apply empty

theorem ofChanges_append (changes more : List Change) :
    ofChanges (changes ++ more) = more.foldl apply (ofChanges changes) := List.foldl_append

theorem ofChanges_concat (changes : List Change) (change : Change) :
    ofChanges (changes ++ [change]) = (ofChanges changes).apply change := ofChanges_append ..

end Registry

/-! ## The roster -/

/-- A command, and the number of the change since which its name has been there. -/
structure Registered where
  since : Nat
  command : Command

/-- What each name stands for, if it is there. -/
abbrev Roster := String → Option Registered

namespace Roster

variable {roster : Roster} {now i : Nat} {name other : String} {change : Change}

/-- The change since which a name has been there. -/
def since? (roster : Roster) (name : String) : Option Nat := (roster name).map Registered.since

/-- Keeps a command under its name.  A name that is there already has been there as long as
before. -/
def put (roster : Roster) (now : Nat) (command : Command) : Roster :=
  Function.update roster command.name
    (some ⟨(roster.since? command.name).getD now, command⟩)

/-- The roster after a change of that number. -/
def apply (roster : Roster) (now : Nat) : Change → Roster
  | .register command => roster.put now command
  | .addAlias matcher target =>
      match roster target with
      | some entry => roster.put now (Registry.aliasFor matcher target entry.command)
      | none => roster
  | .unregister name => Function.update roster name none

/-- The roster after changes of an empty one. -/
def ofChanges (changes : List Change) : Roster :=
  changes.zipIdx.foldl (fun roster (change, now) => roster.apply now change) fun _ => none

/-- One name has been there for longer than another one. -/
def Earlier (roster : Roster) (name other : String) : Prop :=
  ∃ i j, roster.since? name = some i ∧ roster.since? other = some j ∧ i < j

theorem apply_addAlias {target : String} {entry : Registered} (now : Nat) (matcher : Matcher)
    (kept : roster target = some entry) :
    roster.apply now (.addAlias matcher target) =
      roster.put now (Registry.aliasFor matcher target entry.command) := by
  rw [apply, kept]

theorem apply_addAlias_of_missing {target : String} (now : Nat) (matcher : Matcher)
    (missing : roster target = none) : roster.apply now (.addAlias matcher target) = roster := by
  rw [apply, missing]

theorem ofChanges_concat (changes : List Change) (change : Change) :
    ofChanges (changes ++ [change]) = (ofChanges changes).apply changes.length change := by
  simp [ofChanges, List.zipIdx_append]

theorem since?_put (roster : Roster) (now : Nat) (command : Command) (name : String) :
    (roster.put now command).since? name =
      if name = command.name then some ((roster.since? name).getD now) else roster.since? name := by
  rw [since?, put, Function.update_apply]
  split
  next same => rw [same, Option.map_some]
  next => rfl

theorem since?_put_eq_some {command : Command}
    (since : (roster.put now command).since? name = some i) :
    roster.since? name = some i ∨ i = now ∧ roster.since? name = none ∧ command.name = name := by
  rw [since?_put] at since
  split at since
  next same =>
    cases old : roster.since? name with
    | none =>
        rw [old, Option.getD_none, Option.some.injEq] at since
        exact .inr ⟨since.symm, rfl, same.symm⟩
    | some j =>
        rw [old, Option.getD_some] at since
        exact .inl since
  next => exact .inl since

/-- A name that is there after a change was there before, and is not taken away, or it is new. -/
theorem since?_apply (since : (roster.apply now change).since? name = some i) :
    roster.since? name = some i ∧ change ≠ .unregister name ∨
      i = now ∧ roster.since? name = none ∧ change.name = name := by
  cases change with
  | register command => exact (since?_put_eq_some since).imp_left fun old => ⟨old, nofun⟩
  | addAlias matcher target =>
      cases kept : roster target with
      | none =>
          rw [apply_addAlias_of_missing now matcher kept] at since
          exact .inl ⟨since, nofun⟩
      | some entry =>
          rw [apply_addAlias now matcher kept] at since
          exact (since?_put_eq_some since).imp_left fun old => ⟨old, nofun⟩
  | unregister gone =>
      rw [apply, since?, Function.update_apply] at since
      split at since
      next => cases since
      next other =>
        refine .inl ⟨since, ?_⟩
        intro same
        cases same
        exact other rfl

theorem since?_lt {changes : List Change} (since : (ofChanges changes).since? name = some i) :
    i < changes.length := by
  induction changes using List.reverseRecOn with
  | nil => cases since
  | append_singleton changes change ih =>
      rw [ofChanges_concat] at since
      rw [List.length_append, List.length_singleton]
      rcases since?_apply since with ⟨old, _⟩ | ⟨rfl, _, _⟩
      · exact Nat.lt_succ_of_lt (ih old)
      · exact Nat.lt_succ_self _

theorem Earlier.ne (earlier : roster.Earlier name other) : name ≠ other := by
  rintro rfl
  obtain ⟨i, j, first, second, less⟩ := earlier
  rw [first, Option.some.injEq] at second
  omega

theorem Earlier.asymm (earlier : roster.Earlier name other) : ¬roster.Earlier other name := by
  rintro ⟨i, j, first, second, less⟩
  obtain ⟨k, l, third, fourth, lessToo⟩ := earlier
  rw [first, Option.some.injEq] at fourth
  rw [second, Option.some.injEq] at third
  omega

end Roster

namespace Registry

variable {registry : Registry} {roster : Roster} {now : Nat} {command : Command}
  {name line : String} {recognized : Recognized}

/-- A registry shows what a roster keeps, in the order in which the names came. -/
structure Shows (registry : Registry) (roster : Roster) : Prop where
  get? : ∀ name, registry.get? name = (roster name).map Registered.command
  ordered : registry.names.Pairwise roster.Earlier

namespace Shows

theorem nodup (shows : registry.Shows roster) : registry.names.Nodup :=
  shows.ordered.imp fun earlier => earlier.ne

theorem isSome_since?_iff (shows : registry.Shows roster) :
    (roster.since? name).isSome ↔ name ∈ registry.names := by
  rw [← isSome_get?_iff, shows.get?, Roster.since?, Option.isSome_map, Option.isSome_map]

theorem put (shows : registry.Shows roster)
    (past : ∀ name i, roster.since? name = some i → i < now) (command : Command) :
    (registry.register command).Shows (roster.put now command) where
  get? name := by
    rw [get?_register, shows.get?, Roster.put, Function.update_apply]
    split <;> rfl
  ordered := by
    rw [names_register]
    split
    next known =>
      -- the name has been there as long as before, and so have all others
      have same : (roster.put now command).since? = roster.since? := by
        funext name
        rw [Roster.since?_put]
        split
        next isName =>
          obtain ⟨i, old⟩ := Option.isSome_iff_exists.mp (shows.isSome_since?_iff.mpr known)
          rw [isName, old]
          rfl
        next => rfl
      unfold Roster.Earlier
      rw [same]
      exact shows.ordered
    next unknown =>
      have newest : (roster.put now command).since? command.name = some now := by
        have absent : roster.since? command.name = none := by
          rw [← Option.not_isSome_iff_eq_none, shows.isSome_since?_iff]
          exact unknown
        rw [Roster.since?_put, if_pos rfl, absent]
        rfl
      have older : ∀ name ∈ registry.names,
          (roster.put now command).since? name = roster.since? name := by
        intro name member
        rw [Roster.since?_put, if_neg]
        rintro rfl
        exact unknown member
      rw [List.pairwise_append]
      refine ⟨?_, List.pairwise_singleton .., ?_⟩
      · refine shows.ordered.imp_of_mem ?_
        intro name other member otherMember earlier
        unfold Roster.Earlier
        rwa [older name member, older other otherMember]
      · intro name member other isNew
        obtain rfl := List.mem_singleton.mp isNew
        obtain ⟨i, old⟩ := Option.isSome_iff_exists.mp (shows.isSome_since?_iff.mpr member)
        exact ⟨i, now, (older name member).trans old, newest, past name i old⟩

theorem remove (shows : registry.Shows roster) (gone : String) :
    (registry.unregister gone).Shows (Function.update roster gone none) where
  get? name := by
    rw [get?_unregister, shows.get?, Function.update_apply]
    split <;> rfl
  ordered := by
    rw [names_unregister]
    refine (shows.ordered.filter _).imp_of_mem ?_
    intro name other member otherMember earlier
    have kept : ∀ name ∈ registry.names.filter (· != gone),
        Roster.since? (Function.update roster gone none) name = roster.since? name := by
      intro name member
      have other : name ≠ gone := by simpa using (List.mem_filter.mp member).2
      rw [Roster.since?, Function.update_of_ne other]
      rfl
    unfold Roster.Earlier
    rwa [kept name member, kept other otherMember]

theorem apply (shows : registry.Shows roster)
    (past : ∀ name i, roster.since? name = some i → i < now) (change : Change) :
    (registry.apply change).Shows (roster.apply now change) := by
  cases change with
  | register command => exact shows.put past command
  | addAlias matcher target =>
      have found := shows.get? target
      cases kept : roster target with
      | none =>
          rw [kept] at found
          rw [apply_addAlias_of_missing matcher found,
            Roster.apply_addAlias_of_missing now matcher kept]
          exact shows
      | some entry =>
          rw [kept] at found
          rw [apply_addAlias matcher found, Roster.apply_addAlias now matcher kept]
          exact shows.put past _
  | unregister gone => exact shows.remove gone

/-- The command that recognises a line and has been there for longest gets it. -/
theorem find?_eq_some_iff (shows : registry.Shows roster) :
    registry.find? line = some (command, recognized) ↔
      registry.get? command.name = some command ∧
        command.matcher.recognize? line = some recognized ∧
        ∀ other ∈ registry.commands, roster.Earlier other.name command.name →
          other.matcher.recognize? line = none := by
  have ordered := shows.ordered
  rw [find?, List.findSome?_eq_some_iff]
  constructor
  · rintro ⟨before, found, after, split, captured, missed⟩
    obtain ⟨_, own, same⟩ := Option.map_eq_some_iff.mp captured
    cases same
    refine ⟨get?_of_nodup shows.nodup (by simp [split]), own, ?_⟩
    intro other member earlier
    rw [names, split, List.map_append, List.map_cons, List.pairwise_append,
      List.pairwise_cons] at ordered
    rw [split, List.mem_append, List.mem_cons] at member
    rcases member with inFront | rfl | behind
    · exact Option.map_eq_none_iff.mp (missed other inFront)
    · exact absurd rfl earlier.ne
    · exact absurd (ordered.2.1.1 _ (List.mem_map_of_mem behind)) earlier.asymm
  · rintro ⟨found, own, missed⟩
    obtain ⟨before, after, split⟩ := List.append_of_mem (mem_of_get? found)
    rw [names, split, List.map_append, List.map_cons, List.pairwise_append] at ordered
    refine ⟨before, command, after, split, by simp [own], ?_⟩
    intro other inFront
    rw [Option.map_eq_none_iff]
    exact missed other (by simp [split, inFront])
      (ordered.2.2 _ (List.mem_map_of_mem inFront) _ List.mem_cons_self)

end Shows

/-! ## What a registry is like after any changes -/

theorem shows_ofChanges (changes : List Change) :
    (ofChanges changes).Shows (Roster.ofChanges changes) := by
  induction changes using List.reverseRecOn with
  | nil => exact ⟨fun _ => rfl, .nil⟩
  | append_singleton changes change ih =>
      rw [ofChanges_concat, Roster.ofChanges_concat]
      exact ih.apply (fun _ _ => Roster.since?_lt) change

/-- A name has been there since a change that put it in when it was not there, and no change has
taken it away since. -/
theorem exists_of_since? {changes : List Change} {i : Nat}
    (since : (Roster.ofChanges changes).since? name = some i) :
    ∃ before change later, changes = before ++ change :: later ∧ before.length = i ∧
      change.name = name ∧ name ∉ (ofChanges before).names ∧
      name ∈ (ofChanges (before ++ [change])).names ∧ .unregister name ∉ later := by
  induction changes using List.reverseRecOn with
  | nil => cases since
  | append_singleton changes change ih =>
      have known := since
      rw [Roster.ofChanges_concat] at since
      rcases Roster.since?_apply since with ⟨old, other⟩ | ⟨rfl, absent, named⟩
      · obtain ⟨before, first, later, rfl, number, named, absent, present, kept⟩ := ih old
        refine ⟨before, first, later ++ [change], by simp, number, named, absent, present, ?_⟩
        rw [List.mem_append, List.mem_singleton, not_or]
        exact ⟨kept, other.symm⟩
      · refine ⟨changes, change, [], rfl, rfl, named, ?_, ?_, List.not_mem_nil⟩
        · rw [← (shows_ofChanges changes).isSome_since?_iff, absent]
          exact nofun
        · rw [← (shows_ofChanges (changes ++ [change])).isSome_since?_iff, known]
          rfl

/-- A command keeps its line as long as no change is about it or about one in front of it. -/
theorem find?_foldl_apply (shows : registry.Shows roster) {front behind : List Command}
    {more : List Change} (split : registry.commands = front ++ command :: behind)
    (found : registry.find? line = some (command, recognized))
    (apart : ∀ change ∈ more, change.name ∉ (front ++ [command]).map Command.name) :
    (more.foldl apply registry).find? line = some (command, recognized) := by
  have ordered := shows.ordered
  obtain ⟨_, own, missed⟩ := shows.find?_eq_some_iff.mp found
  rw [names, split, List.map_append, List.map_cons, List.pairwise_append] at ordered
  have isFront : front ++ [command] <+: registry.commands := by
    rw [split]
    exact ⟨behind, List.append_assoc ..⟩
  refine find?_of_front (front_foldl_apply isFront apart) ?_ own
  intro other member
  exact missed other (by simp [split, member])
    (ordered.2.2 _ (List.mem_map_of_mem member) _ List.mem_cons_self)

/-- The names of a registry stand in the order in which they were put in since they were last taken
away, each with the command that was last put in under it; another name of a command that is not
there is refused.  The first command in that order which recognises a line gets it, and keeps it as
long as nothing is put in or taken away under its name or under that of a command in front of it. -/
theorem registry_is_ordered_map (changes : List Change) :
    (ofChanges changes).Shows (Roster.ofChanges changes) ∧
      (ofChanges changes).names.Nodup ∧
      (∀ name command, (ofChanges changes).get? name = some command ↔
        command ∈ (ofChanges changes).commands ∧ command.name = name) ∧
      (∀ name i, (Roster.ofChanges changes).since? name = some i →
        ∃ before change later, changes = before ++ change :: later ∧ before.length = i ∧
          change.name = name ∧ name ∉ (ofChanges before).names ∧
          name ∈ (ofChanges (before ++ [change])).names ∧ .unregister name ∉ later) ∧
      (∀ matcher target,
        ((ofChanges changes).addAlias matcher target = .error (.unknownCommand target) ↔
            target ∉ (ofChanges changes).names) ∧
          (target ∉ (ofChanges changes).names →
            ofChanges (changes ++ [.addAlias matcher target]) = ofChanges changes)) ∧
      (∀ line command recognized,
        (ofChanges changes).find? line = some (command, recognized) ↔
          (ofChanges changes).get? command.name = some command ∧
            command.matcher.recognize? line = some recognized ∧
            ∀ other ∈ (ofChanges changes).commands,
              (Roster.ofChanges changes).Earlier other.name command.name →
                other.matcher.recognize? line = none) ∧
      (∀ line, (ofChanges changes).invokes line = true ↔
        ∃ command ∈ (ofChanges changes).commands, (command.matcher.recognize? line).isSome) ∧
      ∀ line front command behind recognized,
        (ofChanges changes).commands = front ++ command :: behind →
          (ofChanges changes).find? line = some (command, recognized) →
            ∀ more : List Change,
              (∀ change ∈ more, change.name ∉ (front ++ [command]).map Command.name) →
                (ofChanges (changes ++ more)).find? line = some (command, recognized) := by
  have shows := shows_ofChanges changes
  refine ⟨shows, shows.nodup, fun _ _ => get?_eq_some_iff shows.nodup,
    fun _ _ => exists_of_since?, fun matcher target => ⟨addAlias_eq_error_iff _ _ _, ?_⟩,
    fun _ _ _ => shows.find?_eq_some_iff, fun _ => invokes_iff, ?_⟩
  · intro missing
    rw [← isSome_get?_iff, Option.not_isSome_iff_eq_none] at missing
    rw [ofChanges_concat, apply_addAlias_of_missing matcher missing]
  · intro line front command behind recognized split found more apart
    rw [ofChanges_append]
    exact find?_foldl_apply shows split found apart

theorem registry_is_ordered_map_put_in_again :
    let play := Command.named "play" "Play" .variadic Commands.play
    let clear := Command.named "!" "Clear" (.fixed 0) Commands.clearBuffer
    let again := aliasFor (.ofName "again") "play" play
    let changes : List Change := [.register play, .addAlias (.ofName "again") "play",
      .register clear, .unregister "play", .register play]
    (ofChanges changes).names = ["again", "!", "play"] ∧
      (Roster.ofChanges changes).since? "play" = some 4 ∧
      (∃ before change later, changes = before ++ change :: later ∧ before.length = 4 ∧
        change.name = "play" ∧ "play" ∉ (ofChanges before).names ∧
        "play" ∈ (ofChanges (before ++ [change])).names ∧ .unregister "play" ∉ later) ∧
      (ofChanges changes).commands = [] ++ again :: [clear, play] ∧
      (ofChanges changes).find? "again" = some (again, ⟨"again", [none]⟩) ∧
      (ofChanges (changes ++ [.unregister "!", .register play])).find? "again" =
        some (again, ⟨"again", [none]⟩) :=
  ⟨rfl, rfl, (registry_is_ordered_map _).2.2.2.1 "play" 4 rfl, rfl, rfl,
    (registry_is_ordered_map _).2.2.2.2.2.2.2 "again" [] _ _ _ rfl rfl _
      (by simp [Change.name, Command.name, Command.named, aliasFor, Matcher.ofName])⟩

theorem reads_a : Matcher.ofSimplePattern "a" "^a" =
    .ok (.ofRegex "a" "^a" (.seq (.look .start) (.literal ['a']))) :=
  Matcher.ofSimplePattern_eq_ofRegex _ rfl (by decide)

/-- A command that is put in where another one of its name was gets a line that had been that of a
command behind it. -/
theorem earlier_place_takes_line :
    ∃ matcher, Matcher.ofSimplePattern "a" "^a" = .ok matcher ∧
      let first := Command.named "a" "Help" .variadic Commands.help
      let second := Command.named "ab" "Leave" .variadic Commands.exit
      let third := first.withMatcher matcher
      third.name ≠ second.name ∧
        (ofChanges [.register first, .register second]).find? "ab" =
          some (second, ⟨"ab", [none]⟩) ∧
        (ofChanges [.register first, .register second, .register third]).find? "ab" =
          some (third, ⟨"a", []⟩) :=
  ⟨_, reads_a, by decide, rfl, rfl⟩

end Registry

end Console
