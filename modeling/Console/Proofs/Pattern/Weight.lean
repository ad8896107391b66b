import Mathlib
import Console.Pattern.Weight

/-!
# How heavy a pattern can be

The exact weight of a pattern depends on which states its sets happen to share.  What they share
only makes a net lighter, so counting every byte range of every sequence as a state of its own gives
a bound that is summed up from the outline alone.  A pattern whose bound is within the limit is
accepted.
-/

namespace Console

namespace Load

@[simp] theorem weight_plus (load : Load) (states room : Nat) :
    (load.plus states room).weight = load.weight + stateRoom * states + room := by
  simp only [weight, plus, Nat.mul_add]
  omega

theorem checked_of_le {load : Load} (light : load.weight ≤ limit) : load.checked = some load :=
  if_pos light

end Load

/-! ## Sets -/

namespace StateTable

/-- The number of byte ranges in some sequences. -/
def extent (sequences : List (List ByteRange)) : Nat := (sequences.map List.length).sum

@[simp] theorem extent_nil : extent [] = 0 := rfl

@[simp] theorem extent_cons (sequence : List ByteRange) (sequences : List (List ByteRange)) :
    extent (sequence :: sequences) = sequence.length + extent sequences := rfl

/-- A state takes up its own place and its room at most. -/
theorem weight_state_le (table : StateTable) (load : Load) (description : List Nat) (room : Nat) :
    (table.state load description room).2.2.weight ≤ load.weight + Load.stateRoom + room := by
  unfold state
  dsimp only
  split
  · dsimp only
    omega
  · simp

/-- A group takes the byte range that its members begin with off all of them. -/
theorem extent_groups (sequences : List (List ByteRange)) :
    (groups sequences).length + ((groups sequences).map fun group => extent group.2).sum ≤
      extent sequences := by
  induction sequences with
  | nil => simp [groups]
  | cons sequence sequences ih =>
      cases sequence with
      | nil => simpa [groups] using ih
      | cons first tail =>
          simp only [groups]
          split
          next other tails more same =>
            rw [same] at ih
            simp only [List.length_cons, List.map_cons, List.sum_cons] at ih
            split
            · simp
              omega
            · simp
              omega
          next none =>
            simp
            omega

/-- The steps to the groups of sequences, where what comes after each group is bounded. -/
theorem weight_foldl_le {target length : Nat}
    (bounded : ∀ sequences table load, (trunk target length sequences (table, load)).2.2.weight ≤
      load.weight + Load.stateRoom + (Load.stateRoom + Load.stepRoom) * extent sequences)
    (groups : List (ByteRange × List (List ByteRange))) (steps : List Nat) (table : StateTable)
    (load : Load) :
    let after := groups.foldl
      (fun (steps, shared) ((first, last), tails) =>
        let (next, shared) := trunk target length tails shared
        (steps ++ [first, last, next], shared)) (steps, table, load)
    after.1.length = steps.length + 3 * groups.length ∧
      after.2.2.weight ≤ load.weight + Load.stateRoom * groups.length +
        (Load.stateRoom + Load.stepRoom) * (groups.map fun group => extent group.2).sum := by
  induction groups generalizing steps table load with
  | nil => simp
  | cons group groups ih =>
      obtain ⟨⟨first, last⟩, tails⟩ := group
      have own := bounded tails table load
      simp only [List.foldl_cons]
      generalize trunk target length tails (table, load) = reached at own
      obtain ⟨next, table, load⟩ := reached
      obtain ⟨stepped, others⟩ := ih (steps ++ [first, last, next]) table load
      refine ⟨?_, ?_⟩
      · rw [stepped]
        simp
        omega
      · simp only [List.length_cons, List.map_cons, List.sum_cons, Nat.mul_add] at *
        omega

theorem weight_trunk_le (target length : Nat) (sequences : List (List ByteRange))
    (table : StateTable) (load : Load) :
    (trunk target length sequences (table, load)).2.2.weight ≤
      load.weight + Load.stateRoom + (Load.stateRoom + Load.stepRoom) * extent sequences := by
  induction length generalizing sequences table load with
  | zero =>
      simp only [trunk]
      omega
  | succ length ih =>
      simp only [trunk]
      split
      · simp only
        omega
      · have bounded := extent_groups sequences
        obtain ⟨stepped, others⟩ := weight_foldl_le ih (groups sequences) [] table load
        refine Nat.le_trans (weight_state_le ..) ?_
        generalize List.foldl _ _ _ = after at stepped others ⊢
        obtain ⟨steps, table, after⟩ := after
        simp only [Load.stateRoom, Load.stepRoom, List.length_nil] at stepped others ⊢
        omega

theorem weight_twig_le (next : Nat) (shared : StateTable × Load) (sequence : List ByteRange) :
    (twig next shared sequence).2.2.weight ≤
      shared.2.weight + Load.stateRoom * sequence.length := by
  induction sequence generalizing next shared with
  | nil => simp [twig]
  | cons range rest ih =>
      have own := weight_state_le shared.1 shared.2 [next, range.1, range.2] 0
      have others := ih (shared.1.state shared.2 [next, range.1, range.2] 0).1
        (shared.1.state shared.2 [next, range.1, range.2] 0).2
      simp only [twig, List.length_cons, Nat.mul_add]
      omega

end StateTable

namespace Load

open StateTable

/-- A bound on what a set takes up in either direction. -/
def setCost (sequences : List (List ByteRange)) : Nat :=
  2 * stateRoom + branchRoom * sequences.length + (stateRoom + stepRoom) * extent sequences

theorem weight_withTrunk_le (sequences : List (List ByteRange)) (load : Load) :
    (load.withTrunk sequences).weight ≤ load.weight + setCost sequences := by
  have bounded := weight_trunk_le load.states 4 sequences { size := 10000 } (load.plus 1 0)
  rw [weight_plus] at bounded
  unfold withTrunk
  generalize trunk load.states 4 sequences _ = reached at bounded ⊢
  obtain ⟨_, _, after⟩ := reached
  simp only [setCost, stateRoom, stepRoom, branchRoom] at *
  omega

theorem weight_withTwigs_le (sequences : List (List ByteRange)) (load : Load) :
    (load.withTwigs sequences).weight ≤ load.weight + setCost sequences := by
  have bounded (target : Nat) (shared : StateTable × Load) :
      (sequences.foldl (fun shared sequence => (twig target shared sequence).2) shared).2.weight ≤
        shared.2.weight + stateRoom * extent sequences := by
    induction sequences generalizing shared with
    | nil => simp
    | cons sequence sequences ih =>
        have own := weight_twig_le target shared sequence
        have others := ih (twig target shared sequence).2
        simp only [List.foldl_cons, extent_cons, Nat.mul_add]
        omega
  have bounded := bounded (load.states + 1)
    ({ size := 1000 }, load.plus 2 (branchRoom * sequences.length))
  rw [weight_plus] at bounded
  simp only [withTwigs, setCost, stateRoom, stepRoom, branchRoom] at *
  omega

end Load

/-! ## Outlines -/

namespace Outline

/-- A bound on what one more round of a repetition takes up, given what its body does. -/
def roundCost (cost : Nat) : Nat := cost + Load.stateRoom + 2 * Load.branchRoom

/-- A bound on what an outline takes up in either direction. -/
def cost : Outline → Nat
  | fixed part => part.weight + Load.branchRoom
  | wide sequences => Load.setCost sequences + Load.branchRoom
  | seq first second => first.cost + second.cost + Load.branchRoom
  | alt first second => first.cost + second.cost + 2 * (Load.stateRoom + Load.branchRoom)
  | times body _ least most =>
      (least + most.getD 0 + 1) * roundCost body.cost + 4 * (Load.stateRoom + 2 * Load.branchRoom)

/-- A step succeeds where its cost is within the limit, and adds no more to the weight. -/
def Fits (step : Load → Option Load) (cost : Nat) : Prop :=
  ∀ load, load.weight + cost ≤ Load.limit →
    ∃ after, step load = some after ∧ after.weight ≤ load.weight + cost

namespace Fits

variable {first second : Load → Option Load} {cost other : Nat}

theorem mono (fits : Fits first cost) (wider : cost ≤ other) : Fits first other := by
  intro load within
  obtain ⟨after, stepped, light⟩ := fits load (by omega)
  exact ⟨after, stepped, by omega⟩

theorem plus (states room : Nat) :
    Fits (fun load => some (load.plus states room)) (Load.stateRoom * states + room) := by
  intro load _
  refine ⟨_, rfl, ?_⟩
  rw [Load.weight_plus]
  omega

theorem bind (begun : Fits first cost) (continued : Fits second other) :
    Fits (fun load => first load >>= second) (cost + other) := by
  intro load within
  obtain ⟨middle, stepped, light⟩ := begun load (by omega)
  obtain ⟨after, steppedOn, lightStill⟩ := continued middle (by omega)
  exact ⟨after, by simp [stepped, steppedOn], by omega⟩

theorem checked : Fits Load.checked 0 := by
  intro load within
  exact ⟨load, Load.checked_of_le within, Nat.le_refl _⟩

theorem often (fits : Fits first cost) (count : Nat) :
    Fits (Outline.often first count) (count * cost) := by
  induction count with
  | zero => exact fun load _ => ⟨load, rfl, by omega⟩
  | succ count ih => exact (fits.bind ih).mono (by rw [Nat.succ_mul]; omega)

/-- The load with the room for a further way of a choice, where there is one. -/
theorem further (isFurther : Bool) :
    Fits (fun load => some (if isFurther then load.plus 0 Load.branchRoom else load))
      Load.branchRoom := by
  intro load _
  refine ⟨_, rfl, ?_⟩
  split
  · rw [Load.weight_plus]
    omega
  · omega

theorem wide (isBackward : Bool) (sequences : List (List ByteRange)) :
    Fits (fun load =>
      some (if isBackward then load.withTwigs sequences else load.withTrunk sequences))
      (Load.setCost sequences) := by
  intro load _
  refine ⟨_, rfl, ?_⟩
  split
  · exact Load.weight_withTwigs_le sequences load
  · exact Load.weight_withTrunk_le sequences load

end Fits

theorem fits_exactly {step : Load → Option Load} {cost : Nat} (fits : Fits step cost)
    (count : Nat) : Fits (exactly step count) (count * cost + Load.stateRoom) := by
  unfold exactly
  split
  · exact ((Fits.plus 1 0).bind .checked).mono (by omega)
  · exact (fits.often count).mono (by omega)

theorem fits_repeated {step : Load → Option Load} {cost : Nat} (fits : Fits step cost)
    (mayBeEmpty : Bool) (least : Nat) (most : Option Nat) :
    Fits (repeated step mayBeEmpty least most)
      ((least + most.getD 0 + 1) * roundCost cost +
        3 * (Load.stateRoom + 2 * Load.branchRoom)) := by
  have forked : Fits (fun load => step (load.plus 1 (2 * Load.branchRoom))) (roundCost cost) :=
    ((Fits.plus 1 (2 * Load.branchRoom)).bind fits).mono (by unfold roundCost; omega)
  have closed {first : Load → Option Load} {cost : Nat} (begun : Fits first cost)
      (states room : Nat) :
      Fits (fun load => first load >>= fun load => (load.plus states room).checked)
        (cost + Load.stateRoom * states + room) :=
    (begun.bind ((Fits.plus states room).bind .checked)).mono (by omega)
  have lighter : cost ≤ roundCost cost := by
    unfold roundCost
    omega
  have rounds (count : Nat) : count * cost ≤ count * roundCost cost :=
    Nat.mul_le_mul_left count lighter
  unfold repeated
  dsimp only
  split
  · split
    · exact (closed fits 3 (2 * (2 * Load.branchRoom))).mono (by simp; omega)
    · exact forked.mono (by simp)
  next =>
    have rounds := rounds least
    exact (closed (fits.often least) 1 (2 * Load.branchRoom)).mono (by
      simp only [Option.getD_none, Nat.add_mul]
      omega)
  · exact (closed forked 1 0).mono (by simp only [Option.getD_some, Nat.add_mul]; omega)
  next most _ =>
    have further : Fits
        (fun load => if least = most then some load else
          Outline.often (fun load => step (load.plus 1 (2 * Load.branchRoom))) (most - least)
            (load.plus 1 0))
        (Load.stateRoom + most * roundCost cost) := by
      have fewer := Nat.mul_le_mul_right (roundCost cost) (Nat.sub_le most least)
      split
      · exact fun load _ => ⟨load, rfl, by omega⟩
      · exact ((Fits.plus 1 0).bind (forked.often (most - least))).mono (by omega)
    have rounds := rounds least
    exact ((fits_exactly fits least).bind further).mono (by
      simp only [Option.getD_some, Nat.add_mul]
      omega)

/-- An outline is laid out as long as its cost is within the limit. -/
theorem fits_lay (isBackward : Bool) :
    (outline : Outline) → (isFurther : Bool) → Fits (outline.lay isBackward isFurther) outline.cost
  | .fixed part, isFurther => by
      have plus :=
        (Fits.plus part.states (part.room + if isFurther then Load.branchRoom else 0)).bind
        .checked
      apply plus.mono
      unfold cost Load.weight
      split <;> omega
  | .wide sequences, isFurther => by
      apply ((Fits.further isFurther).bind ((Fits.wide isBackward sequences).bind .checked)).mono
      unfold cost
      omega
  | .seq first second, isFurther => by
      apply ((Fits.further isFurther).bind
        ((fits_lay isBackward first false).bind (fits_lay isBackward second false))).mono
      simp only [cost]
      omega
  | .alt first second, true => by
      apply ((fits_lay isBackward first true).bind (fits_lay isBackward second true)).mono
      simp only [cost]
      omega
  | .alt first second, false => by
      have begun := fits_lay isBackward first false
      have whole := fits_lay isBackward second false
      cases second with
      | alt second rest =>
          apply (begun.bind ((fits_lay isBackward second false).bind
            ((Fits.plus 2 (2 * Load.branchRoom)).bind (fits_lay isBackward rest true)))).mono
          simp only [cost]
          omega
      | _ =>
          apply (begun.bind (whole.bind ((Fits.plus 2 (2 * Load.branchRoom)).bind .checked))).mono
          simp only [cost]
          omega
  | .times body mayBeEmpty least most, isFurther => by
      apply ((Fits.further isFurther).bind
        (fits_repeated (fits_lay isBackward body false) mayBeEmpty least most)).mono
      simp only [cost]
      omega

theorem isSome_lay {isBackward isFurther : Bool} {outline : Outline} {load : Load}
    (light : load.weight + outline.cost ≤ Load.limit) :
    (outline.lay isBackward isFurther load).isSome := by
  obtain ⟨after, laid, _⟩ := fits_lay isBackward outline isFurther load light
  simp [laid]

end Outline

namespace Regex

/-- A pattern is small enough if the bounds on its outlines are within the limit, with some room to
spare for where it begins and ends. -/
theorem isTooLarge_of_cost {regex : Regex}
    (light : ∀ isBackward, (regex.outline isBackward false).cost + 256 ≤ Load.limit) :
    regex.isTooLarge = false := by
  have small (isBackward : Bool) : regex.isTooLargeIn isBackward = false := by
    have light := light isBackward
    simp only [isTooLargeIn, Option.isNone_eq_false_iff]
    generalize regex.outline isBackward false = body at light ⊢
    apply Outline.isSome_lay
    split <;> split <;>
      simp only [Outline.cost, Load.weight, Load.stateRoom, Load.branchRoom, Load.stepRoom] <;>
      omega
  simp [isTooLarge, small]

end Regex

end Console
