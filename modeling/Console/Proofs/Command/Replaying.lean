import Console.Proofs.Buffer
import Console.Proofs.Command.Recalling
import Console.Proofs.Range
import Mathlib.Data.Set.Card

/-!
# What `hist` replays

Put together and cut again, lines that are replayed are those of each of them, as a line may itself
hold several.  The session goes on to read them.
-/

namespace Console

namespace HistorySlice

/-- A selection has some lines, all of them lines it is selected from. -/
theorem lines_of_select? {slice selected : HistorySlice} {range : LineRange}
    (found : slice.select? range = some selected) :
    selected.lines ≠ [] ∧ selected.lines ⊆ slice.lines := by
  obtain ⟨span, cut, rfl⟩ := Option.map_eq_some_iff.mp found
  obtain ⟨some, within⟩ := LineRange.clamp_spec cut
  constructor
  · intro none
    have counted := congrArg List.length none
    rw [Span.of, Span.length, List.length_take, List.length_drop, List.length_nil] at counted
    omega
  · exact List.Subset.trans (List.take_subset ..) (List.drop_subset ..)

/-- Each line of a text that is replayed is a line of a line of the history. -/
theorem mem_linesOf_joined {slice : HistorySlice} (some : slice.lines ≠ []) {line : String}
    (member : line ∈ linesOf slice.joined) :
    ∃ entry ∈ slice.lines, line ∈ linesOf (entry ++ "\n") := by
  rw [joined, linesOf_joinWith some] at member
  exact List.mem_flatMap.mp member

/-- Lines that are single ones are read back as they are, blank ones and the last one too. -/
theorem linesOf_joined {slice : HistorySlice} (some : slice.lines ≠ [])
    (plain : ∀ entry ∈ slice.lines, Text.Plain entry.toList) :
    linesOf slice.joined = slice.lines := by
  have each : ∀ entry ∈ slice.lines, linesOf (entry ++ "\n") = [entry] :=
    fun entry member => linesOf_line (plain entry member)
  rw [joined, linesOf_joinWith some, List.flatMap_congr each, List.flatMap_singleton']

end HistorySlice

/-- Only lines of the history are replayed. -/
theorem Commands.mem_of_replayedText? {past : HistorySlice} {given : Flags.Given} {text : String}
    (replayed : replayedText? past given = some text) {line : String}
    (member : line ∈ linesOf text) : ∃ entry ∈ past.lines, line ∈ linesOf (entry ++ "\n") := by
  unfold replayedText? at replayed
  split at replayed
  · cases replayed
  · simp only [Option.bind_eq_bind, Option.bind_eq_some_iff, Option.some.injEq] at replayed
    obtain ⟨_, _, range, _, slice, selected, rfl⟩ := replayed
    obtain ⟨some, within⟩ := HistorySlice.lines_of_select? selected
    obtain ⟨entry, inSlice, inEntry⟩ := HistorySlice.mem_linesOf_joined some member
    exact ⟨entry, within inSlice, inEntry⟩

namespace Registry

/-- With some past, a line puts another one in front of the input. -/
def Replays (registry : Registry) (past : HistorySlice) (line later : String) : Prop :=
  ∃ text, registry.replayedText? past line = some text ∧
    ∃ piece ∈ linesOf text, withoutFinalBreaks piece = later

/-- A line replays itself, at once or by way of lines that it replays. -/
def Circular (registry : Registry) (past : HistorySlice) (line : String) : Prop :=
  Relation.TransGen (registry.Replays past) line line

variable {registry : Registry} {past : HistorySlice} {line later : String}

/-- What is replayed is found in the history. -/
theorem Replays.exists_entry (replays : registry.Replays past line later) :
    ∃ entry ∈ past.lines, ∃ piece ∈ linesOf (entry ++ "\n"), withoutFinalBreaks piece = later := by
  obtain ⟨text, replayed, piece, inText, same⟩ := replays
  obtain ⟨given, _, replayed⟩ := Option.bind_eq_some_iff.mp replayed
  obtain ⟨entry, inPast, inEntry⟩ := Commands.mem_of_replayedText? replayed inText
  exact ⟨entry, inPast, piece, inEntry, same⟩

/-- There are only so many lines to be replayed. -/
theorem finite_replayed (registry : Registry) (past : HistorySlice) (line : String) :
    {later | Relation.TransGen (registry.Replays past) line later}.Finite := by
  let pieces := (past.lines.flatMap fun entry => linesOf (entry ++ "\n")).map withoutFinalBreaks
  refine (List.finite_toSet pieces).subset ?_
  intro later reached
  obtain ⟨_, _, replays⟩ := Relation.TransGen.tail'_iff.mp reached
  obtain ⟨entry, inPast, piece, inEntry, same⟩ := replays.exists_entry
  exact List.mem_map.mpr ⟨piece, List.mem_flatMap.mpr ⟨entry, inPast, inEntry⟩, same⟩

open Classical in
/-- How far a line is from replaying nothing; a circular line is not to be replayed at all. -/
noncomputable def height (registry : Registry) (past : HistorySlice) (line : String) : ℕ :=
  if registry.Circular past line then 0
  else {later | Relation.TransGen (registry.Replays past) line later}.ncard + 1

/-- The lines that are replayed have fewer lines to replay. -/
theorem Replays.height_lt (replays : registry.Replays past line later)
    (straight : ¬registry.Circular past line) :
    registry.height past later < registry.height past line := by
  unfold height
  rw [if_neg straight]
  split
  · exact Nat.succ_pos _
  next laterStraight =>
    apply Nat.succ_lt_succ
    apply Set.ncard_lt_ncard _ (registry.finite_replayed past line)
    -- The later line is one that the first one comes to, but not one that it comes to itself.
    constructor
    · intro last reached
      exact Relation.TransGen.head replays reached
    · intro back
      exact laterStraight (back (Relation.TransGen.single replays))

/-- A line is not for a command that brings text in, whether it is typed or replayed line by
line. -/
def Domestic (registry : Registry) (line : String) : Prop :=
  ¬registry.imports line ∧
    ∀ piece ∈ linesOf (line ++ "\n"), ¬registry.imports (withoutFinalBreaks piece)

end Registry

open Console.Action in
/-- The session goes on after `hist`. -/
theorem Commands.next_hist (around : Surroundings) (arguments : List (Option String))
    (desk : Desk) :
    (hist around arguments).Ensures desk (fun outcome _ => outcome = .next) fun _ _ => True := by
  have goesOn {α : Type} (action : Action α) (desk : Desk) :
      (action >>= fun _ => pure .next : Action Outcome).Ensures desk
        (fun outcome _ => outcome = .next) fun _ _ => True :=
    .bind ((Ensures.any action desk).mono (fun _ _ _ => rfl) fun _ _ _ => trivial)
  unfold hist
  apply Ensures.bind
  refine (Ensures.any _ _).mono ?_ fun _ _ _ => trivial
  intro given _ _
  split
  · rfl
  · dsimp only
    split
    · apply Ensures.bind
      exact (Ensures.any _ _).mono (fun _ _ _ => goesOn _ _) fun _ _ _ => trivial
    · split
      · exact goesOn _ _
      · exact goesOn _ _

namespace Registry

/-- Whether a line is dispatched to `hist`. -/
def invokesHist (registry : Registry) (line : String) : Bool :=
  (registry.find? line).any fun found => found.1.name = "hist"

theorem exists_of_invokesHist {registry : Registry} {line : String}
    (invokes : registry.invokesHist line) :
    ∃ command recognized, registry.find? line = some (command, recognized) ∧
      command.name = "hist" := by
  unfold invokesHist at invokes
  cases found : registry.find? line with
  | none =>
      rw [found] at invokes
      cases invokes
  | some invoked =>
      rw [found] at invokes
      exact ⟨_, _, rfl, of_decide_eq_true invokes⟩

theorem invokesHist_of_replayedText? {registry : Registry} {past : HistorySlice}
    {line text : String} (replayed : registry.replayedText? past line = some text) :
    registry.invokesHist line := by
  obtain ⟨given, options, _⟩ := Option.bind_eq_some_iff.mp replayed
  unfold histGiven? at options
  split at options
  · cases options
  next command recognized found =>
    split at options
    next named => simp [invokesHist, found, named]
    · cases options

theorem not_imports_of_invokesHist {registry : Registry} {line : String}
    (invokes : registry.invokesHist line) : ¬registry.imports line := by
  rintro ⟨command, recognized, found, isImporting⟩
  obtain ⟨_, _, same, named⟩ := exists_of_invokesHist invokes
  rw [found] at same
  cases same
  rw [named] at isImporting
  exact absurd isImporting (by decide)

/-- The session goes on after a line that is dispatched to `hist`. -/
theorem next_dispatch {line : String} (invokes : builtin.invokesHist line) (around : Surroundings)
    (desk : Desk) :
    (builtin.dispatch around line).Ensures desk (fun dispatched _ => dispatched = .handled .next)
      fun _ _ => True := by
  obtain ⟨command, recognized, found, named⟩ := exists_of_invokesHist invokes
  have isHist : command.handler = Commands.hist :=
    (recalls_builtin command (mem_of_find?_eq_some found)).hist named
  unfold dispatch
  rw [found]
  apply Action.Ensures.bind
  refine (Action.Ensures.any _ _).mono (fun _ _ _ => ?_) fun _ _ _ => trivial
  apply Action.Ensures.bind
  refine (Action.Ensures.any _ _).mono (fun arguments _ _ => ?_) fun _ _ _ => trivial
  rw [isHist]
  apply Action.Ensures.bind
  exact (Commands.next_hist _ _ _).mono (fun _ _ same => congrArg _ same) fun _ _ _ => trivial

end Registry

end Console
