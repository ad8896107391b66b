import Console.Command.Help
import Console.Proofs.Text.Decimal
import Console.Proofs.Text.Lines

/-!
# Listings of a buffer

A buffer is listed with its numbers in a column that has room for the number behind the last one,
and a method in a column that has room for the last one.  The two columns are as wide as each other
unless the number behind the last one is the first that needs a further digit.
-/

namespace Console

/-- A number in a wider column stands behind a further blank. -/
theorem natColumn_succ {width n : Nat} (fits : (Text.natDigits n).length ≤ width) :
    natColumn (width + 1) n = " " ++ natColumn width n := by
  have wider : width + 1 - (Text.natDigits n).length = width - (Text.natDigits n).length + 1 := by
    omega
  apply String.toList_inj.mp
  simp only [natColumn, String.toList_append, String.toList_ofList, wider, List.replicate_succ,
    List.cons_append]
  rfl

theorem numberedLine_succ {width number : Nat} (fits : (Text.natDigits number).length ≤ width)
    (line : String) :
    numberedLine false (width + 1) number line = " " ++ numberedLine false width number line := by
  unfold numberedLine
  rw [Colour.paintIf, if_neg (by decide), natColumn_succ fits, Colour.paintIf, if_neg (by decide)]
  simp only [String.append_assoc]

namespace Buffer

/-- The lines of a buffer without their newlines, each behind its number. -/
def entries (buffer : Buffer) (base : IndexBase) : List (Nat × String) :=
  (buffer.lines.map withoutFinalNewlines).zipIdx base.first |>.map fun (line, number) =>
    (number, line)

theorem numbered_eq (buffer : Buffer) (base : IndexBase) :
    buffer.numbered base = joinWith "\n" ((buffer.entries base).map fun (number, line) =>
      numberedLine false (Text.natDigits (buffer.count + base.first)).length number line) := by
  rw [numbered, entries, List.zipIdx_map, List.map_map, List.map_map]
  rfl

theorem length_entries (buffer : Buffer) (base : IndexBase) :
    (buffer.entries base).length = buffer.count := by
  simp [entries, count]

theorem lt_of_mem_entries {buffer : Buffer} {base : IndexBase} {number : Nat} {line : String}
    (member : (number, line) ∈ buffer.entries base) : number < buffer.count + base.first := by
  obtain ⟨⟨_, _⟩, known, same⟩ := List.mem_map.mp member
  cases same
  have bounds := List.mem_zipIdx known
  rw [List.length_map] at bounds
  rw [count]
  omega

theorem getLast?_entries (buffer : Buffer) (base : IndexBase) :
    (buffer.entries base).getLast? =
      (buffer.lines.map withoutFinalNewlines).getLast?.map fun line =>
        (buffer.count + base.first - 1, line) := by
  rw [entries, List.getLast?_map, List.getLast?_zipIdx, Option.map_map, List.length_map,
    Nat.add_comm, count]
  rfl

/-- The listing whose column is as wide as the last number. -/
theorem numberedLines_entries (buffer : Buffer) (base : IndexBase) :
    numberedLines false (buffer.entries base) =
      joinWith "\n" ((buffer.entries base).map fun (number, line) =>
        numberedLine false (Text.natDigits (buffer.count + base.first - 1)).length number
          line) := by
  have last := getLast?_entries buffer base
  cases found : (buffer.lines.map withoutFinalNewlines).getLast? with
  | none =>
      rw [found, Option.map_none, List.getLast?_eq_none_iff] at last
      rw [last]
      rfl
  | some line =>
      rw [found, Option.map_some] at last
      rw [numberedLines, last]

theorem fits_column {buffer : Buffer} {base : IndexBase} {number : Nat} {line : String}
    (member : (number, line) ∈ buffer.entries base) :
    (Text.natDigits number).length ≤ (Text.natDigits (buffer.count + base.first - 1)).length := by
  have less := lt_of_mem_entries member
  exact Text.length_natDigits_mono (by omega)

section Widths

variable {buffer : Buffer} {base : IndexBase} {k : Nat}

/-- The column has room for the last number if the next one is no power of ten. -/
theorem numbered_of_ne_power (other : ∀ k, buffer.count + base.first ≠ 10 ^ (k + 1)) :
    buffer.numbered base = numberedLines false (buffer.entries base) := by
  rw [numbered_eq, numberedLines_entries]
  cases next : buffer.count + base.first with
  | zero => rfl
  | succ last =>
      rw [next] at other
      rw [Text.length_natDigits_succ other, Nat.add_sub_cancel]

theorem length_natDigits_last (power : buffer.count + base.first = 10 ^ (k + 1)) :
    (Text.natDigits (buffer.count + base.first - 1)).length = k + 1 := by
  have positive : 0 < 10 ^ k := Nat.pow_pos (by decide)
  rw [power, Nat.pow_succ]
  apply Text.length_natDigits
  · omega
  · rw [Nat.pow_succ]
    omega

theorem numberedLines_of_power (power : buffer.count + base.first = 10 ^ (k + 1)) :
    numberedLines false (buffer.entries base) =
      joinWith "\n" ((buffer.entries base).map fun (number, line) =>
        numberedLine false (k + 1) number line) := by
  rw [numberedLines_entries, length_natDigits_last power]

/-- If the number behind the last one is a power of ten, the column is too wide by one. -/
theorem numbered_of_power (power : buffer.count + base.first = 10 ^ (k + 1)) :
    buffer.numbered base =
      joinWith "\n" ((buffer.entries base).map fun (number, line) =>
        " " ++ numberedLine false (k + 1) number line) := by
  have width : (Text.natDigits (buffer.count + base.first)).length = k + 1 + 1 := by
    rw [power]
    exact Text.length_natDigits (Nat.le_refl _) (Nat.pow_lt_pow_right (by decide) (by omega))
  rw [numbered_eq, width]
  congr 1
  apply List.map_congr_left
  intro (number, line) member
  have fits := fits_column member
  rw [length_natDigits_last power] at fits
  exact numberedLine_succ fits line

theorem numbered_ne_of_power (power : buffer.count + base.first = 10 ^ (k + 1)) :
    buffer.numbered base ≠ numberedLines false (buffer.entries base) := by
  intro same
  have spaced : buffer.numbered base =
      joinWith "\n" (((buffer.entries base).map fun (number, line) =>
        numberedLine false (k + 1) number line).map (" " ++ ·)) := by
    rw [numbered_of_power power, List.map_map]
    rfl
  have lengths := length_joinWith_map_space "\n" ((buffer.entries base).map fun (number, line) =>
    numberedLine false (k + 1) number line)
  rw [← spaced, ← numberedLines_of_power power, same, List.length_map, length_entries] at lengths
  have first : base.first ≤ 1 := by cases base <;> decide
  have large : 10 ≤ 10 ^ (k + 1) := by
    rw [Nat.pow_succ]
    exact Nat.le_mul_of_pos_left 10 (Nat.pow_pos (by decide))
  omega

end Widths

/-- A buffer is listed as its lines are, or with a further blank in front of each of them. -/
theorem listings_differ_at_powers_of_ten (buffer : Buffer) (base : IndexBase) :
    (buffer.numbered base = numberedLines false (buffer.entries base) ↔
        ∀ k, buffer.count + base.first ≠ 10 ^ (k + 1)) ∧
      (∀ k, buffer.count + base.first = 10 ^ (k + 1) →
        numberedLines false (buffer.entries base) =
            joinWith "\n" ((buffer.entries base).map fun (number, line) =>
              numberedLine false (k + 1) number line) ∧
          buffer.numbered base =
            joinWith "\n" ((buffer.entries base).map fun (number, line) =>
              " " ++ numberedLine false (k + 1) number line)) ∧
      ∀ code, linesOf code = buffer.lines.map withoutFinalNewlines →
        Commands.shownSource false (some base.first) code =
          numberedLines false (buffer.entries base) := by
  refine ⟨⟨fun same k power => numbered_ne_of_power power same, numbered_of_ne_power⟩,
    fun k power => ⟨numberedLines_of_power power, numbered_of_power power⟩, ?_⟩
  intro code same
  rw [Commands.shownSource, same]
  rfl

theorem listings_differ_at_powers_of_ten_nine_lines :
    let buffer : Buffer := ⟨"1\n2\n3\n4\n5\n6\n7\n8\n9\n"⟩
    buffer.count + IndexBase.one.first = 10 ^ (0 + 1) ∧
      buffer.numbered .one = joinWith "\n" ((buffer.entries .one).map fun (number, line) =>
        " " ++ numberedLine false (0 + 1) number line) ∧
      linesOf "1\n2\n3\n4\n5\n6\n7\n8\n9" = buffer.lines.map withoutFinalNewlines ∧
      Commands.shownSource false (some IndexBase.one.first) "1\n2\n3\n4\n5\n6\n7\n8\n9" =
        numberedLines false (buffer.entries .one) :=
  ⟨rfl, ((listings_differ_at_powers_of_ten _ .one).2.1 0 rfl).2, rfl,
    (listings_differ_at_powers_of_ten _ .one).2.2 _ rfl⟩

/-- Nine lines are listed as if the tenth had to fit in. -/
theorem nine_lines_are_indented :
    let buffer : Buffer := ⟨"1\n2\n3\n4\n5\n6\n7\n8\n9\n"⟩
    buffer.numbered .one =
        " 1: 1\n 2: 2\n 3: 3\n 4: 4\n 5: 5\n 6: 6\n 7: 7\n 8: 8\n 9: 9" ∧
      numberedLines false (buffer.entries .one) =
        "1: 1\n2: 2\n3: 3\n4: 4\n5: 5\n6: 6\n7: 7\n8: 8\n9: 9" ∧
      buffer.numbered .one ≠ numberedLines false (buffer.entries .one) :=
  ⟨rfl, rfl, numbered_ne_of_power (k := 0) rfl⟩

end Buffer

end Console
