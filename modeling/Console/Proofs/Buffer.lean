import Console.Buffer
import Console.Proofs.Text.Lines

/-!
# Texts that end their lines

A buffer is terminated if nothing waits in it or its text ends in a newline, so that the next line
begins afresh.  Everything that is done to a buffer leaves a terminated one behind.
-/

namespace Console

namespace Buffer

/-- Nothing waits, or the text ends in a newline. -/
def Terminated (buffer : Buffer) : Prop :=
  ∀ c, buffer.text.toList.getLast? = some c → c = '\n'

theorem terminated_empty : empty.Terminated := by
  intro c last
  cases last

theorem terminated_of_newline {buffer : Buffer} (last : buffer.text.toList.getLast? = some '\n') :
    buffer.Terminated := by
  intro c found
  rw [last, Option.some.injEq] at found
  exact found.symm

/-- A line that is added is ended. -/
theorem getLast?_push (buffer : Buffer) (line : String) :
    (buffer.push line).text.toList.getLast? = some '\n' := by
  simp only [push, String.toList_append]
  exact List.getLast?_concat

theorem terminated_push (buffer : Buffer) (line : String) : (buffer.push line).Terminated :=
  terminated_of_newline (getLast?_push buffer line)

theorem terminated_ofText (text : String) : (ofText text).Terminated := by
  unfold ofText
  split
  next => exact terminated_empty
  next c last =>
    split
    next newline => exact terminated_of_newline (newline ▸ last)
    next =>
      apply terminated_of_newline
      rw [String.toList_append]
      exact List.getLast?_concat

/-- The lines of a terminated buffer end in newlines. -/
theorem Terminated.getLast?_of_mem_lines {buffer : Buffer} (terminated : buffer.Terminated)
    {line : String} (member : line ∈ buffer.lines) : line.toList.getLast? = some '\n' := by
  obtain ⟨piece, inPieces, rfl⟩ := List.mem_map.mp member
  rw [String.toList_ofList]
  cases last : buffer.text.toList.getLast? with
  | none =>
      rw [List.getLast?_eq_none_iff.mp last] at inPieces
      cases inPieces
  | some c =>
      rw [terminated c last] at last
      exact Text.getLast?_of_mem_pieces last inPieces

theorem terminated_ofLines {lines : List String}
    (ended : ∀ line ∈ lines, line.toList.getLast? = some '\n') : (ofLines lines).Terminated := by
  unfold Terminated ofLines
  rw [String.toList_join]
  induction lines with
  | nil =>
      intro c last
      cases last
  | cons line rest ih =>
      intro c last
      rw [List.flatMap_cons, List.getLast?_append] at last
      cases later : (rest.flatMap String.toList).getLast? with
      | none =>
          rw [later, Option.none_or, ended line List.mem_cons_self, Option.some.injEq] at last
          exact last.symm
      | some d =>
          rw [later, Option.some_or, Option.some.injEq] at last
          subst last
          exact ih (fun line member => ended line (List.mem_cons_of_mem _ member)) d later

/-- Amending a terminated buffer leaves a terminated one. -/
theorem Terminated.amend {buffer amended : Buffer} (terminated : buffer.Terminated)
    {range : LineRange} {base : IndexBase} {replacement : String} {what : Amended}
    (done : buffer.amend range base replacement = .ok (what, amended)) : amended.Terminated := by
  unfold Buffer.amend at done
  split at done
  · cases done
    exact terminated
  · simp only at done
    split at done
    · cases done
    next span _ =>
      have kept : ∀ line ∈ buffer.lines.take span.first ++ buffer.lines.drop span.last,
          line.toList.getLast? = some '\n' := by
        intro line member
        rcases List.mem_append.mp member with before | after
        · exact terminated.getLast?_of_mem_lines (List.mem_of_mem_take before)
        · exact terminated.getLast?_of_mem_lines (List.mem_of_mem_drop after)
      split at done
      · cases done
        exact terminated_ofLines kept
      · cases done
        apply terminated_ofLines
        intro line member
        rcases List.mem_append.mp member with before | after
        · exact kept line (List.mem_append_left _ before)
        · rcases List.mem_cons.mp after with rfl | after
          · rw [String.toList_append]
            exact List.getLast?_concat
          · exact kept line (List.mem_append_right _ after)

end Buffer

end Console
