import Console.Proofs.History
import Console.Proofs.Text.Utf8

/-!
# How a history file is read

Each line of a history file is read by itself, in whatever encoding it is and whatever stands in the
lines around it.

So whatever a history file holds before a save, its lines are read as before and the lines that were
saved behind them.  Only if the last line of the file is not ended, the first saved line goes on
with it: a save adds lines to the bytes that are there and no line end of its own.
-/

namespace Console.History

/-- A line that is read back if it is written on a line of its own. -/
def Plain (line : String) : Prop := Text.Plain line.toList

/-- All lines of a file are ended. -/
def Ended (bytes : Utf8.Bytes) : Prop := ∀ byte, bytes.getLast? = some byte → byte = 0x0A

/-- The line that a piece of a file is read as: it is decoded alone, and a newline at its end takes
the carriage return before it with it. -/
def lineOfPiece (piece : Utf8.Bytes) : String :=
  if piece.getLast? = some 0x0A then
    let text := Utf8.decodeLossy piece.dropLast
    .ofList (if text.getLast? = some '\r' then text.dropLast else text)
  else .ofList (Utf8.decodeLossy piece)

theorem linesOfFile_eq (bytes : Utf8.Bytes) :
    linesOfFile bytes = (Text.lines (Utf8.decodeLossy bytes)).map .ofList := by
  rw [linesOfFile, linesOf, Utf8.toTextLossy, String.toList_ofList]

theorem linesOfFile_append {front : Utf8.Bytes} (ended : Ended front) (rest : Utf8.Bytes) :
    linesOfFile (front ++ rest) = linesOfFile front ++ linesOfFile rest := by
  have endedText := (Utf8.ended_decodeLossy front).mpr ended
  have split : Utf8.decodeLossy (front ++ rest) =
      Utf8.decodeLossy front ++ Utf8.decodeLossy rest := by
    rcases List.eq_nil_or_concat' front with rfl | ⟨front, byte, rfl⟩
    · rfl
    · obtain rfl : byte = 0x0A := ended byte List.getLast?_concat
      rw [List.append_assoc, List.singleton_append, Utf8.decodeLossy_append_newline,
        Utf8.decodeLossy_append_newline, List.append_assoc]
      rfl
  rw [linesOfFile_eq, split, Text.lines_append_of_ended endedText, List.map_append,
    ← linesOfFile_eq,
    ← linesOfFile_eq]

theorem ended_concat_newline (line : Utf8.Bytes) : Ended (line ++ [0x0A]) := by
  intro byte last
  rw [List.getLast?_concat] at last
  exact (Option.some.inj last).symm

theorem linesOfFile_line {line : Utf8.Bytes} (whole : 0x0A ∉ line) :
    linesOfFile (line ++ [0x0A]) = [lineOfPiece (line ++ [0x0A])] := by
  rw [linesOfFile_eq, Utf8.decodeLossy_append_newline, lineOfPiece, List.getLast?_concat,
    if_pos rfl, List.dropLast_concat, Text.lines]
  have cut := Text.pieces_concat_newline (Utf8.newline_not_mem_decodeLossy whole)
  change (List.map _ (Text.pieces (Utf8.decodeLossy line ++ ['\n']))).map _ = _
  rw [cut, List.map_singleton, List.map_singleton, Text.withoutLineEnd_concat_newline]

/-- The lines of a file are those of its pieces, each read by itself. -/
theorem linesOfFile_eq_map (bytes : Utf8.Bytes) :
    linesOfFile bytes = (Utf8.pieces bytes).map lineOfPiece := by
  by_cases newline : 0x0A ∈ bytes
  · obtain ⟨line, rest, rfl, whole⟩ := List.eq_append_cons_of_mem newline
    have regrouped : line ++ 0x0A :: rest = line ++ [0x0A] ++ rest := by simp
    have shorter : rest.length < (line ++ 0x0A :: rest).length := by
      rw [List.length_append, List.length_cons]
      omega
    rw [Utf8.pieces_append_newline whole, List.map_cons, ← linesOfFile_eq_map rest, regrouped,
      linesOfFile_append (ended_concat_newline line), linesOfFile_line whole, List.singleton_append]
  · by_cases empty : bytes = []
    · subst empty
      rfl
    · have noEnd : bytes.getLast? ≠ some 0x0A := fun last => newline (List.mem_of_getLast? last)
      have whole := Utf8.newline_not_mem_decodeLossy newline
      rw [Utf8.pieces_of_not_mem newline empty, List.map_singleton, lineOfPiece, if_neg noEnd,
        linesOfFile_eq, Text.lines, Text.pieces_of_not_mem whole (Utf8.decodeLossy_ne_nil empty),
        List.map_singleton, List.map_singleton, Text.withoutLineEnd_of_not_mem whole]
termination_by bytes.length

/-- Loading a file puts the lines of its pieces behind those that are there, each piece read by
itself.  So whatever bytes stand in a line of the file, valid or not, the lines before it and behind
it are read as if they stood alone. -/
theorem foreign_lines_stay_apart (history : History) (path : String) (bytes : Utf8.Bytes)
    (storage after : Storage) (read : storage.read (.path path) = (.ok bytes, after)) :
    (∃ lines, lines = (Utf8.pieces bytes).map lineOfPiece ∧
      history.load path storage =
        (.ok (some lines.length),
          ⟨history.entries ++ lines, history.entries.length + lines.length⟩, after)) ∧
    ∀ front line rest, bytes = front ++ line ++ 0x0A :: rest → Ended front → 0x0A ∉ line →
      linesOfFile bytes =
        linesOfFile front ++ lineOfPiece (line ++ [0x0A]) :: linesOfFile rest := by
  constructor
  · refine ⟨_, rfl, ?_⟩
    unfold load
    rw [read, ← linesOfFile_eq_map, ← List.length_append]
  · rintro front line rest rfl ended whole
    have regrouped : front ++ line ++ 0x0A :: rest = front ++ (line ++ [0x0A] ++ rest) := by simp
    rw [regrouped, linesOfFile_append ended, linesOfFile_append (ended_concat_newline line),
      linesOfFile_line whole]
    rfl

/-- A sequence that breaks off before a carriage return, one that is too long, and a line that is
not ended. -/
theorem foreign_lines_stay_apart_behind_kept_line :
    ∃ after, load ⟨["kept"], 0⟩ "history"
        (onlyFile [0x61, 0xE2, 0x82, 0x0D, 0x0A, 0xC0, 0x80, 0x0A, 0x62, 0x0D]) =
      (.ok (some 3), ⟨["kept", "a\uFFFD", "\uFFFD\uFFFD", "b\r"], 4⟩, after) := by
  have provides := provides_onlyFile [0x61, 0xE2, 0x82, 0x0D, 0x0A, 0xC0, 0x80, 0x0A, 0x62, 0x0D]
  obtain ⟨after, read, _⟩ := provides.calm.read provides.leads
  obtain ⟨⟨lines, same, loads⟩, _⟩ :=
    foreign_lines_stay_apart ⟨["kept"], 0⟩ "history" _ _ after read
  have cut : lines = ["a\uFFFD", "\uFFFD\uFFFD", "b\r"] := same.trans (by decide)
  rw [cut] at loads
  exact ⟨after, loads⟩

/-! ## Saved lines -/

/-- What an unterminated line of a file becomes when another line is written behind it. -/
def continued (last line : String) : String := .ofList (Text.continued last.toList line.toList)

theorem bytesOf_eq_encode (lines : List String) :
    bytesOf lines = Utf8.encode ((lines.map String.toList).flatMap (· ++ ['\n'])) := by
  unfold bytesOf Utf8.encode
  rw [List.flatMap_assoc, List.flatMap_map]
  congr 1
  funext line
  rw [List.flatMap_append]
  rfl

/-- The saved lines stand behind what the file is read as, and nothing in it concerns them. -/
theorem linesOfFile_append_bytesOf (bytes : Utf8.Bytes) (lines : List String) :
    linesOfFile (bytes ++ bytesOf lines) =
      (Text.lines (Utf8.decodeLossy bytes ++
        (lines.map String.toList).flatMap (· ++ ['\n']))).map .ofList := by
  rw [bytesOf_eq_encode, linesOfFile_eq,
    Utf8.decodeLossy_append_encode]

theorem lines_flatMap_toList {lines : List String} (plain : ∀ line ∈ lines, Plain line) :
    (Text.lines ((lines.map String.toList).flatMap (· ++ ['\n']))).map .ofList = lines := by
  rw [Text.lines_flatMap]
  · simp [Function.comp_def]
  · intro line member
    obtain ⟨text, inLines, rfl⟩ := List.mem_map.mp member
    exact plain text inLines

theorem linesOfFile_of_ended {bytes : Utf8.Bytes} (ended : Ended bytes) {lines : List String}
    (plain : ∀ line ∈ lines, Plain line) :
    linesOfFile (bytes ++ bytesOf lines) = linesOfFile bytes ++ lines := by
  have endedText := (Utf8.ended_decodeLossy bytes).mpr ended
  rw [linesOfFile_append_bytesOf, Text.lines_append_of_ended endedText, List.map_append,
    lines_flatMap_toList plain, linesOfFile_eq]

theorem linesOfFile_of_not_ended {bytes : Utf8.Bytes} (unended : ¬Ended bytes) {line : String}
    {rest : List String} (plain : ∀ other ∈ line :: rest, Plain other) :
    ∃ earlier last, linesOfFile bytes = earlier ++ [last] ∧
      linesOfFile (bytes ++ bytesOf (line :: rest)) = earlier ++ continued last line :: rest := by
  have plainLine : Text.Plain line.toList := plain line List.mem_cons_self
  obtain ⟨earlier, last, before, after⟩ :=
    Text.lines_append_line (mt (Utf8.ended_decodeLossy bytes).mp unended) plainLine
      ((rest.map String.toList).flatMap (· ++ ['\n']))
  refine ⟨earlier.map .ofList, .ofList last, ?_, ?_⟩
  · rw [linesOfFile_eq, before]
    simp
  · rw [linesOfFile_append_bytesOf, List.map_cons, List.flatMap_cons, after, List.map_append,
      List.map_cons, lines_flatMap_toList fun other member => plain other (.tail _ member),
      continued, String.toList_ofList]

/-- A new history has just the lines of the file it loads. -/
theorem loaded_fresh (bytes : Utf8.Bytes) :
    ({} : History).loaded (some bytes) = ⟨linesOfFile bytes, (linesOfFile bytes).length⟩ := by
  simp only [loaded, flushed, size, List.nil_append]

/-- After a save that succeeded, a history that is loaded afresh has the lines that the file had
before, in whatever encoding, and behind them just the saved ones.  If the last line of the file was
not ended, the first saved line is read as the rest of that one. -/
theorem saved_lines_are_read_back (history next : History) (saved : Saved) (path : String)
    (names : List String) (file : Option Utf8.Bytes) (storage after later : Storage)
    (leads : storage.LeadsTo path names file) (plain : ∀ line ∈ history.pending, Plain line)
    (saves : history.save path storage = (.ok saved, next, after))
    (same : later.nodes = after.nodes) (calm : later.Calm) :
    ∃ lines last, ({} : History).load path later =
        (.ok (some lines.length), ⟨lines, lines.length⟩, last) ∧
      (Ended (file.getD []) ∨ history.pending = [] →
        lines = linesOfFile (file.getD []) ++ history.pending) ∧
      (¬Ended (file.getD []) → ∀ line rest, history.pending = line :: rest →
        ∃ earlier unended, linesOfFile (file.getD []) = earlier ++ [unended] ∧
          lines = earlier ++ continued unended line :: rest) := by
  have provides : later.Provides path names _ := ⟨calm, (leads_of_save leads saves).of_nodes same⟩
  obtain ⟨last, loads, _⟩ := ({} : History).load_spec provides
  rw [Option.map_some, loaded_fresh] at loads
  refine ⟨_, last, loads, ?_, ?_⟩
  · rintro (ended | nothing)
    · exact linesOfFile_of_ended ended plain
    · rw [nothing, bytesOf, List.flatMap_nil, List.append_nil, List.append_nil]
  · intro unended line rest pending
    rw [pending] at plain ⊢
    exact linesOfFile_of_not_ended unended plain

/-- A save behind a sequence that breaks off. -/
theorem saved_lines_are_read_back_behind_broken_sequence :
    ∃ saved next after lines last,
      History.save ⟨["a", "x"], 1⟩ "history" (onlyFile [0x61, 0x0A, 0xE2, 0x82, 0x0A]) =
        (.ok saved, next, after) ∧
      ({} : History).load "history" after = (.ok (some 3), ⟨lines, 3⟩, last) ∧
      lines = ["a", "\uFFFD", "x"] := by
  have provides := provides_onlyFile [0x61, 0x0A, 0xE2, 0x82, 0x0A]
  obtain ⟨after, saves, becomes⟩ := save_spec ⟨["a", "x"], 1⟩ provides
  have plain : ∀ line ∈ pending ⟨["a", "x"], 1⟩, Plain line := by
    simp [pending, Plain, Text.Plain]
  obtain ⟨lines, last, loads, ended, _⟩ :=
    saved_lines_are_read_back _ _ _ _ _ _ _ _ after provides.leads plain saves rfl becomes.calm
  have read : lines = ["a", "\uFFFD", "x"] := ended (.inl (by simp [Ended]))
  rw [read] at loads
  exact ⟨_, _, after, _, last, saves, loads, rfl⟩

/-- A line that is saved behind one that is not ended is no line of its own. -/
theorem saved_line_goes_on_with_unended_line :
    ∃ saved next after loaded last,
      (∀ line ∈ pending ⟨["x"], 0⟩, Plain line) ∧
      History.save ⟨["x"], 0⟩ "history" (onlyFile (Utf8.ofText "a")) = (.ok saved, next, after) ∧
      ({} : History).load "history" after = (.ok (some 1), loaded, last) ∧
      loaded.entries ≠ linesOfFile (Utf8.ofText "a") ++ pending ⟨["x"], 0⟩ := by
  have provides := provides_onlyFile (Utf8.ofText "a")
  obtain ⟨after, saves, becomes⟩ := save_spec ⟨["x"], 0⟩ provides
  obtain ⟨last, loads, _⟩ := ({} : History).load_spec (becomes.provides provides)
  have read : linesOfFile ((some (Utf8.ofText "a")).getD [] ++ bytesOf (pending ⟨["x"], 0⟩)) =
      ["ax"] := by decide
  rw [Option.map_some, loaded_fresh, read] at loads
  refine ⟨_, _, after, _, last, ?_, saves, loads, ?_⟩
  · simp [pending, Plain, Text.Plain]
  · decide

end Console.History
