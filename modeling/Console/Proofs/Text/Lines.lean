import Console.Text.Lines
import Mathlib.Data.List.Basic
import Mathlib.Data.List.DropRight
import Mathlib.Data.List.Induction

/-!
# How texts are cut

A text is cut behind a newline as if nothing were before it, so what is written behind a text that
ends its lines has its lines behind those of the text.  Behind any other text, what is written goes
on with its last line.
-/

namespace Console

namespace Text

theorem pieces_eq_nil_iff {text : List Char} : pieces text = [] ↔ text = [] := by
  constructor
  · intro none
    rw [← flatten_pieces text, none, List.flatten_nil]
  · intro empty
    rw [empty, pieces_nil]

/-- Every piece of a text that ends in a newline ends in a newline. -/
theorem getLast?_of_mem_pieces {text piece : List Char} (ended : text.getLast? = some '\n')
    (member : piece ∈ pieces text) : piece.getLast? = some '\n' := by
  induction text generalizing piece with
  | nil => cases member
  | cons c rest ih =>
      have restEnded : rest ≠ [] → rest.getLast? = some '\n' := by
        intro nonempty
        rwa [List.getLast?_cons_of_ne_nil nonempty] at ended
      by_cases newline : c = '\n'
      · subst newline
        rw [pieces_newline, List.mem_cons] at member
        rcases member with rfl | member
        · rfl
        · have nonempty : rest ≠ [] := by
            intro empty
            rw [empty] at member
            cases member
          exact ih (restEnded nonempty) member
      · have nonempty : rest ≠ [] := by
          intro empty
          rw [empty, List.getLast?_singleton, Option.some.injEq] at ended
          exact newline ended
        have heads : ∀ piece ∈ pieces rest, piece.getLast? = some '\n' :=
          fun piece => ih (restEnded nonempty)
        cases found : pieces rest with
        | nil => exact absurd (pieces_eq_nil_iff.mp found) nonempty
        | cons first more =>
            simp only [pieces, newline, if_false, found, List.mem_cons] at member
            simp only [found, List.mem_cons] at heads
            rcases member with rfl | member
            · have firstEnded := heads first (.inl rfl)
              have firstNonempty : first ≠ [] := by
                intro empty
                rw [empty] at firstEnded
                cases firstEnded
              rw [List.getLast?_cons_of_ne_nil firstNonempty, firstEnded]
            · exact heads piece (.inr member)

/-- A text is cut on behind a newline as if nothing were before it. -/
theorem pieces_append_newline (front rest : List Char) :
    pieces (front ++ '\n' :: rest) = pieces (front ++ ['\n']) ++ pieces rest := by
  induction front with
  | nil => simp only [List.nil_append, pieces_newline, pieces_nil, List.cons_append]
  | cons c front ih =>
      by_cases newline : c = '\n'
      · subst newline
        simp only [List.cons_append, pieces_newline, ih]
      · simp only [List.cons_append, pieces, newline, if_false, ih]
        cases found : pieces (front ++ ['\n']) with
        | nil => simp [pieces_eq_nil_iff] at found
        | cons first more => rfl

/-- All lines but the first have a separator before them. -/
theorem joinWith_cons (separator line : List Char) (rest : List (List Char)) :
    joinWith separator (line :: rest) = line ++ rest.flatMap (separator ++ ·) := by
  induction rest generalizing line with
  | nil => simp
  | cons next rest ih => simp [joinWith, ih]

/-- A character in front of each line that is joined makes the whole longer. -/
theorem length_joinWith_map_cons (separator : List Char) (c : Char) (lines : List (List Char)) :
    (joinWith separator (lines.map (c :: ·))).length =
      (joinWith separator lines).length + lines.length := by
  induction lines with
  | nil => rfl
  | cons line rest ih =>
      cases rest with
      | nil => rfl
      | cons next rest =>
          simp only [List.map_cons, joinWith, List.length_append, List.length_cons] at ih ⊢
          omega

/-- Joined lines are cut line by line. -/
theorem pieces_joinWith (line : List Char) (rest : List (List Char)) :
    pieces (joinWith ['\n'] (line :: rest) ++ ['\n']) =
      (line :: rest).flatMap fun line => pieces (line ++ ['\n']) := by
  induction rest generalizing line with
  | nil => simp
  | cons next rest ih =>
      have joined : joinWith ['\n'] (line :: next :: rest) ++ ['\n'] =
          line ++ '\n' :: (joinWith ['\n'] (next :: rest) ++ ['\n']) := by
        simp [joinWith]
      rw [joined, pieces_append_newline, ih]
      rfl

/-- The last line of a text, if it has any, is ended by a newline. -/
def Ended (text : List Char) : Prop := ∀ c, text.getLast? = some c → c = '\n'

theorem ended_nil : Ended [] := by
  intro c last
  cases last

theorem ended_concat (text : List Char) (c : Char) : Ended (text ++ [c]) ↔ c = '\n' := by
  unfold Ended
  rw [List.getLast?_concat]
  constructor
  · intro ended
    exact ended c rfl
  · rintro rfl other same
    exact (Option.some.inj same).symm

theorem lines_append_of_ended {text : List Char} (ended : Ended text) (rest : List Char) :
    lines (text ++ rest) = lines text ++ lines rest := by
  rcases List.eq_nil_or_concat' text with rfl | ⟨front, c, rfl⟩
  · rfl
  · rw [ended_concat] at ended
    subst ended
    unfold lines
    rw [List.append_assoc, List.singleton_append, pieces_append_newline, List.map_append]

theorem pieces_of_not_mem {line : List Char} (whole : '\n' ∉ line) (some : line ≠ []) :
    pieces line = [line] := by
  induction line with
  | nil => exact absurd rfl some
  | cons c rest ih =>
      rw [List.mem_cons, not_or] at whole
      obtain ⟨other, wholeRest⟩ := whole
      rw [pieces, if_neg (Ne.symm other)]
      by_cases empty : rest = []
      · subst empty
        rfl
      · rw [ih wholeRest empty]

theorem pieces_concat_newline {line : List Char} (whole : '\n' ∉ line) :
    pieces (line ++ ['\n']) = [line ++ ['\n']] := by
  induction line with
  | nil => rfl
  | cons c rest ih =>
      rw [List.mem_cons, not_or] at whole
      obtain ⟨other, wholeRest⟩ := whole
      rw [List.cons_append, pieces, if_neg (Ne.symm other), ih wholeRest]

theorem withoutLineEnd_of_not_mem {line : List Char} (whole : '\n' ∉ line) :
    withoutLineEnd line = line := by
  unfold withoutLineEnd
  split
  next before reversed =>
    have member : '\n' ∈ line.reverse := reversed ▸ List.mem_cons_self
    exact absurd (List.mem_reverse.mp member) whole
  next before _ reversed =>
    have member : '\n' ∈ line.reverse := reversed ▸ List.mem_cons_self
    exact absurd (List.mem_reverse.mp member) whole
  next => rfl

/-- A newline takes the carriage return before it with it. -/
theorem withoutLineEnd_concat_newline (line : List Char) :
    withoutLineEnd (line ++ ['\n']) =
      if line.getLast? = some '\r' then line.dropLast else line := by
  rcases List.eq_nil_or_concat' line with rfl | ⟨front, c, rfl⟩
  · rfl
  · rw [List.getLast?_concat, List.dropLast_concat]
    by_cases isReturn : c = '\r'
    · simp [withoutLineEnd, isReturn]
    · simp [withoutLineEnd, isReturn]

/-- A newline, and in front of it a text without one. -/
def IsLine (piece : List Char) : Prop := ∃ front, '\n' ∉ front ∧ piece = front ++ ['\n']

theorem not_mem_or_isLine_of_mem_pieces {text piece : List Char} (member : piece ∈ pieces text) :
    '\n' ∉ piece ∨ IsLine piece := by
  induction text generalizing piece with
  | nil => cases member
  | cons c rest ih =>
      by_cases newline : c = '\n'
      · subst newline
        rw [pieces_newline, List.mem_cons] at member
        rcases member with rfl | member
        · exact .inr ⟨[], List.not_mem_nil, rfl⟩
        · exact ih member
      · rw [pieces, if_neg newline] at member
        cases found : pieces rest with
        | nil =>
            rw [found, List.mem_singleton] at member
            subst member
            exact .inl (by simpa using Ne.symm newline)
        | cons first more =>
            rw [found, List.mem_cons] at member
            rcases member with rfl | member
            · rcases ih (found ▸ List.mem_cons_self) with whole | ⟨front, whole, rfl⟩
              · exact .inl (by simpa using ⟨Ne.symm newline, whole⟩)
              · exact .inr ⟨c :: front, by simpa using ⟨Ne.symm newline, whole⟩, rfl⟩
            · exact ih (found ▸ List.mem_cons_of_mem _ member)

/-- Nothing is added where characters are taken away at the end. -/
theorem mem_of_mem_trimEndWhere {drop : Char → Bool} {text : List Char} {c : Char}
    (member : c ∈ trimEndWhere drop text) : c ∈ text :=
  List.mem_reverse.mp ((List.dropWhile_sublist drop).mem (List.mem_reverse.mp member))

theorem trimEndWhere_concat {drop : Char → Bool} {c : Char} (dropped : drop c = true)
    (text : List Char) : trimEndWhere drop (text ++ [c]) = trimEndWhere drop text := by
  simp [trimEndWhere, dropped]

theorem trimEndWhere_trimEndWhere (drop : Char → Bool) (text : List Char) :
    trimEndWhere drop (trimEndWhere drop text) = trimEndWhere drop text := by
  rw [trimEndWhere, trimEndWhere, List.reverse_reverse, List.dropWhile_idempotent]

/-- Where newlines and carriage returns are dropped, nothing is left of a line end. -/
theorem trimEndWhere_withoutLineEnd {drop : Char → Bool} (newline : drop '\n' = true)
    (carriage : drop '\r' = true) (piece : List Char) :
    trimEndWhere drop (withoutLineEnd piece) = trimEndWhere drop piece := by
  unfold withoutLineEnd
  split
  next rest reversed => simp [trimEndWhere, reversed, newline, carriage]
  next rest _ reversed => simp [trimEndWhere, reversed, newline]
  next => rfl

theorem not_mem_of_mem_lines {text line : List Char} (member : line ∈ lines text) :
    '\n' ∉ line := by
  obtain ⟨piece, isPiece, rfl⟩ := List.mem_map.mp member
  rcases not_mem_or_isLine_of_mem_pieces isPiece with whole | ⟨front, whole, rfl⟩
  · rwa [withoutLineEnd_of_not_mem whole]
  · rw [withoutLineEnd_concat_newline]
    split
    · exact fun inFront => whole ((List.dropLast_sublist front).mem inFront)
    · exact whole

/-- A text that stays one line if a newline is written behind it. -/
def Plain (line : List Char) : Prop := '\n' ∉ line ∧ line.getLast? ≠ some '\r'

/-- Lines that are written one after the other are read back. -/
theorem lines_flatMap {texts : List (List Char)} (plain : ∀ line ∈ texts, Plain line) :
    lines (texts.flatMap (· ++ ['\n'])) = texts := by
  induction texts with
  | nil => rfl
  | cons line rest ih =>
      obtain ⟨whole, noReturn⟩ := plain line List.mem_cons_self
      rw [List.flatMap_cons, lines_append_of_ended ((ended_concat line '\n').mpr rfl),
        ih fun other member => plain other (List.mem_cons_of_mem _ member), lines,
        pieces_concat_newline whole, List.map_singleton, withoutLineEnd_concat_newline,
        if_neg noReturn]
      rfl

/-- Every text is one that ends its lines and, behind it, a line that is not ended. -/
theorem exists_ended_append (text : List Char) :
    ∃ front last, text = front ++ last ∧ Ended front ∧ '\n' ∉ last := by
  induction text using List.reverseRecOn with
  | nil => exact ⟨[], [], rfl, ended_nil, List.not_mem_nil⟩
  | append_singleton text c ih =>
      obtain ⟨front, last, rfl, ended, whole⟩ := ih
      by_cases newline : c = '\n'
      · exact ⟨_, [], (List.append_nil _).symm, (ended_concat _ c).mpr newline, List.not_mem_nil⟩
      · refine ⟨front, last ++ [c], List.append_assoc .., ended, ?_⟩
        rw [List.mem_append, not_or, List.mem_singleton]
        exact ⟨whole, Ne.symm newline⟩

/-- What an unterminated line becomes when another one is written behind it.  If that one is empty,
only the line end is: a carriage return before it goes with it. -/
def continued (last line : List Char) : List Char :=
  if line = [] ∧ last.getLast? = some '\r' then last.dropLast else last ++ line

theorem withoutLineEnd_continued (last : List Char) {line : List Char} (plain : Plain line) :
    withoutLineEnd (last ++ line ++ ['\n']) = continued last line := by
  rw [withoutLineEnd_concat_newline, continued]
  rcases List.eq_nil_or_concat' line with rfl | ⟨front, c, rfl⟩
  · simp
  · have noReturn := plain.2
    rw [List.getLast?_concat] at noReturn
    rw [← List.append_assoc, List.getLast?_concat, if_neg noReturn, if_neg (by simp)]

/-- Behind a text whose last line is not ended, the first line that is written goes on with that
one; the others are lines of their own. -/
theorem lines_append_line {text : List Char} (unended : ¬Ended text) {line : List Char}
    (plain : Plain line) (rest : List Char) :
    ∃ earlier last, lines text = earlier ++ [last] ∧
      lines (text ++ (line ++ ['\n'] ++ rest)) = earlier ++ continued last line :: lines rest := by
  obtain ⟨front, last, rfl, ended, whole⟩ := exists_ended_append text
  have some : last ≠ [] := by
    rintro rfl
    rw [List.append_nil] at unended
    exact unended ended
  refine ⟨lines front, last, ?_, ?_⟩
  · rw [lines_append_of_ended ended]
    congr 1
    rw [lines, pieces_of_not_mem whole some, List.map_singleton, withoutLineEnd_of_not_mem whole]
  · have wholeLine : '\n' ∉ last ++ line := by
      rw [List.mem_append, not_or]
      exact ⟨whole, plain.1⟩
    have regrouped : front ++ last ++ (line ++ ['\n'] ++ rest) =
        front ++ ((last ++ line ++ ['\n']) ++ rest) := by simp
    rw [regrouped, lines_append_of_ended ended,
      lines_append_of_ended ((ended_concat (last ++ line) '\n').mpr rfl)]
    congr 1
    rw [lines, pieces_concat_newline wholeLine, List.map_singleton,
      withoutLineEnd_continued last plain]
    rfl

theorem withoutLineEnd_subset (piece : List Char) : withoutLineEnd piece ⊆ piece := by
  intro c member
  unfold withoutLineEnd at member
  rw [← List.mem_reverse]
  split at member
  next rest split =>
    rw [split]
    exact List.mem_cons_of_mem _ (List.mem_cons_of_mem _ (List.mem_reverse.mp member))
  next rest _ split =>
    rw [split]
    exact List.mem_cons_of_mem _ (List.mem_reverse.mp member)
  next => exact List.mem_reverse.mpr member

theorem subset_of_mem_lines {text line : List Char} (isLine : line ∈ lines text) : line ⊆ text := by
  obtain ⟨piece, isPiece, rfl⟩ := List.mem_map.mp isLine
  have within : piece ⊆ text := by
    rw [← flatten_pieces text]
    exact fun c member => List.mem_flatten_of_mem isPiece member
  exact List.Subset.trans (withoutLineEnd_subset piece) within

/-- The lines of a text without carriage returns stay lines wherever they are written. -/
theorem plain_of_mem_lines {text line : List Char} (noReturn : '\r' ∉ text)
    (isLine : line ∈ lines text) : Plain line :=
  ⟨not_mem_of_mem_lines isLine,
    fun last => noReturn (subset_of_mem_lines isLine (List.mem_of_getLast? last))⟩

/-- A newline at the end of a text without carriage returns leaves its lines as they are, or adds an
empty one to them. -/
theorem lines_prefix_concat_newline {text : List Char} (noReturn : '\r' ∉ text) :
    lines text <+: lines (text ++ ['\n']) := by
  by_cases ended : Ended text
  · rw [lines_append_of_ended ended]
    exact List.prefix_append ..
  · have plain : Plain [] := ⟨List.not_mem_nil, nofun⟩
    obtain ⟨earlier, last, before, behind⟩ := lines_append_line ended plain []
    have within : last ⊆ text := subset_of_mem_lines (before ▸ List.mem_concat_self)
    have noReturnLast : last.getLast? ≠ some '\r' :=
      fun ends => noReturn (within (List.mem_of_getLast? ends))
    have kept : continued last [] = last := by
      rw [continued, if_neg fun ends => noReturnLast ends.2, List.append_nil]
    have same : lines (text ++ ['\n']) = lines text := by
      rw [before, ← kept]
      exact behind
    exact ⟨[], (List.append_nil _).trans same.symm⟩

/-- Leaving the newlines out at the end of a text leaves lines out at the end and changes none. -/
theorem lines_prefix_of_trimEnd {text : List Char} (noReturn : '\r' ∉ text) :
    lines (trimEndWhere (· == '\n') text) <+: lines text := by
  induction text using List.reverseRecOn with
  | nil => exact List.prefix_rfl
  | append_singleton text c ih =>
      by_cases newline : c = '\n'
      · subst newline
        have noReturnBefore : '\r' ∉ text := fun member => noReturn (List.mem_append_left _ member)
        rw [trimEndWhere_concat rfl]
        exact (ih noReturnBefore).trans (lines_prefix_concat_newline noReturnBefore)
      · have kept : trimEndWhere (· == '\n') (text ++ [c]) = text ++ [c] := by
          simp [trimEndWhere, newline]
        exact ⟨[], (List.append_nil _).trans (congrArg lines kept)⟩

end Text

theorem not_mem_of_mem_linesOf {text line : String} (member : line ∈ linesOf text) :
    '\n' ∉ line.toList := by
  obtain ⟨characters, isLine, rfl⟩ := List.mem_map.mp member
  rw [String.toList_ofList]
  exact Text.not_mem_of_mem_lines isLine

/-- A line that is written is read back. -/
theorem linesOf_line {line : String} (plain : Text.Plain line.toList) :
    linesOf (line ++ "\n") = [line] := by
  have same : (line ++ "\n").toList = [line.toList].flatMap (· ++ ['\n']) := by
    rw [String.toList_append, List.flatMap_singleton]
    rfl
  rw [linesOf, same, Text.lines_flatMap (List.forall_mem_singleton.mpr plain), List.map_singleton,
    String.ofList_toList]

/-- Without the newlines at its end, a text without carriage returns has the first of its lines. -/
theorem linesOf_prefix_of_withoutFinalNewlines {text : String} (noReturn : '\r' ∉ text.toList) :
    linesOf (withoutFinalNewlines text) <+: linesOf text := by
  unfold linesOf withoutFinalNewlines
  rw [String.toList_ofList]
  exact (Text.lines_prefix_of_trimEnd noReturn).map _

theorem not_mem_withoutFinalBreaks {text : String} (whole : '\n' ∉ text.toList) :
    '\n' ∉ (withoutFinalBreaks text).toList := by
  rw [withoutFinalBreaks, String.toList_ofList]
  exact mt Text.mem_of_mem_trimEndWhere whole

theorem withoutFinalBreaks_withoutFinalBreaks (text : String) :
    withoutFinalBreaks (withoutFinalBreaks text) = withoutFinalBreaks text := by
  simp only [withoutFinalBreaks, String.toList_ofList, Text.trimEndWhere_trimEndWhere]

theorem length_joinWith_map_space (separator : String) (lines : List String) :
    (joinWith separator (lines.map (" " ++ ·))).toList.length =
      (joinWith separator lines).toList.length + lines.length := by
  have characters : (lines.map (" " ++ ·)).map String.toList =
      (lines.map String.toList).map (' ' :: ·) := by
    simp only [List.map_map]
    apply List.map_congr_left
    intro line _
    exact String.toList_append
  rw [joinWith, joinWith, String.toList_ofList, String.toList_ofList, characters,
    Text.length_joinWith_map_cons, List.length_map]

/-- Joined texts have the lines of each of them. -/
theorem linesOf_joinWith {texts : List String} (some : texts ≠ []) :
    linesOf (joinWith "\n" texts ++ "\n") = texts.flatMap fun text => linesOf (text ++ "\n") := by
  obtain ⟨first, rest, rfl⟩ := List.exists_cons_of_ne_nil some
  unfold linesOf joinWith Text.lines
  rw [String.toList_append, String.toList_ofList]
  have cut := Text.pieces_joinWith first.toList (rest.map String.toList)
  rw [← List.map_cons] at cut
  change (((Text.pieces (Text.joinWith ['\n'] ((first :: rest).map String.toList) ++ ['\n'])).map
    Text.withoutLineEnd).map String.ofList) = _
  rw [cut]
  simp only [List.flatMap_map, List.map_flatMap, String.toList_append]
  rfl

end Console
