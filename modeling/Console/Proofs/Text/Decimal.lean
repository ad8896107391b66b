import Console.Text.Blank
import Console.Text.Decimal
import Mathlib.Algebra.Group.Nat.Defs

/-!
# Integers are read back

What an integer is written as is read back as that integer.  The digits are those of the library,
whose value `Nat.ofDigitChars` is; a reader of digits computes the same value and gives up as soon
as it has grown too large, which it never does on the way to a value within the limit.  A text is
read as an integer if it is that integer in decimal, with or without a sign.
-/

namespace Console.Text

theorem isDigit_eq (c : Char) : isDigit c = c.isDigit := by
  simp [isDigit, Char.isDigit, Char.le_def]

theorem bounds_of_isDigit {c : Char} (digit : isDigit c = true) : 48 ≤ c.toNat ∧ c.toNat ≤ 57 := by
  simp only [isDigit, Bool.and_eq_true, decide_eq_true_eq, Char.le_def, UInt32.le_iff_toNat_le]
    at digit
  exact digit

theorem isBlank_of_isDigit {c : Char} (digit : isDigit c = true) : isBlank c = false := by
  have bounds := bounds_of_isDigit digit
  simp [isBlank, blanks, Ranges.has, Ranges.contains]
  omega

/-- An integer is written with decimal digits only. -/
theorem isDigit_of_mem_natDigits {n : Nat} {c : Char} (member : c ∈ natDigits n) :
    isDigit c = true := by
  rw [isDigit_eq]
  exact Nat.isDigit_of_mem_toDigits (by decide) (by decide) member

@[simp] theorem natDigits_ne_nil (n : Nat) : natDigits n ≠ [] := Nat.toDigits_ne_nil

theorem length_natDigits_pos (n : Nat) : 0 < (natDigits n).length :=
  List.length_pos_iff.mpr (natDigits_ne_nil n)

theorem length_natDigits_le_iff {n k : Nat} (some : 0 < k) :
    (natDigits n).length ≤ k ↔ n < 10 ^ k := Nat.length_toDigits_le_iff (by decide) some

theorem lt_pow_length_natDigits (n : Nat) : n < 10 ^ (natDigits n).length :=
  (length_natDigits_le_iff (length_natDigits_pos n)).mp (Nat.le_refl _)

/-- How many digits a number has, between two powers of ten. -/
theorem length_natDigits {n k : Nat} (least : 10 ^ k ≤ n) (less : n < 10 ^ (k + 1)) :
    (natDigits n).length = k + 1 := by
  apply Nat.le_antisymm ((length_natDigits_le_iff (Nat.succ_pos k)).mpr less)
  rw [Nat.succ_le_iff, ← Nat.not_le]
  intro short
  have below : n < 10 ^ k :=
    Nat.lt_of_lt_of_le (lt_pow_length_natDigits n) (Nat.pow_le_pow_right (by decide) short)
  exact Nat.not_lt.mpr least below

/-- Smaller numbers have no more digits. -/
theorem length_natDigits_mono {m n : Nat} (le : m ≤ n) :
    (natDigits m).length ≤ (natDigits n).length :=
  (length_natDigits_le_iff (length_natDigits_pos n)).mpr
    (Nat.lt_of_le_of_lt le (lt_pow_length_natDigits n))

/-- The next number has as many digits, unless it is a power of ten. -/
theorem length_natDigits_succ {n : Nat} (other : ∀ k, n + 1 ≠ 10 ^ (k + 1)) :
    (natDigits (n + 1)).length = (natDigits n).length := by
  apply Nat.le_antisymm ?_ (length_natDigits_mono (Nat.le_succ n))
  rw [length_natDigits_le_iff (length_natDigits_pos n)]
  have below := lt_pow_length_natDigits n
  obtain ⟨k, length⟩ := Nat.exists_eq_add_one.mpr (length_natDigits_pos n)
  have differs := other k
  rw [← length] at differs
  omega

/-- The value read so far does not get smaller by what follows. -/
theorem le_ofDigitChars (digits : List Char) (value : Nat) :
    value ≤ Nat.ofDigitChars 10 digits value := by
  induction digits generalizing value with
  | nil => simp
  | cons c digits ih =>
      rw [Nat.ofDigitChars_cons]
      have grown := ih (10 * value + (c.toNat - '0'.toNat))
      omega

variable {limit n : Nat} {overflow : IntegerError} {digits : List Char}

theorem readDigits_eq_ok (allDigits : ∀ c ∈ digits, isDigit c = true) (value : Nat)
    (small : Nat.ofDigitChars 10 digits value ≤ limit) :
    readDigits limit overflow value digits = .ok (Nat.ofDigitChars 10 digits value) := by
  induction digits generalizing value with
  | nil => simp [readDigits]
  | cons c digits ih =>
      rw [List.forall_mem_cons] at allDigits
      obtain ⟨digit, allDigits⟩ := allDigits
      have next : value * 10 + digitValue c = 10 * value + (c.toNat - '0'.toNat) := by
        rw [digitValue, Nat.mul_comm]
      rw [Nat.ofDigitChars_cons] at small ⊢
      have within : 10 * value + (c.toNat - '0'.toNat) ≤ limit :=
        Nat.le_trans (le_ofDigitChars digits _) small
      simp only [readDigits, digit, next, within, if_true]
      exact ih allDigits _ small

theorem readDigits_eq_error (allDigits : ∀ c ∈ digits, isDigit c = true) {value : Nat}
    (within : value ≤ limit) (large : limit < Nat.ofDigitChars 10 digits value) :
    readDigits limit overflow value digits = .error overflow := by
  induction digits generalizing value with
  | nil =>
      rw [Nat.ofDigitChars_nil] at large
      omega
  | cons c digits ih =>
      rw [List.forall_mem_cons] at allDigits
      obtain ⟨digit, allDigits⟩ := allDigits
      have next : value * 10 + digitValue c = 10 * value + (c.toNat - '0'.toNat) := by
        rw [digitValue, Nat.mul_comm]
      rw [Nat.ofDigitChars_cons] at large
      simp only [readDigits, digit, next, if_true]
      split
      next small => exact ih allDigits small large
      next => rfl

/-- Digits are read as their value, unless it is too large. -/
theorem readMagnitude_of_digits (some : digits ≠ []) (allDigits : ∀ c ∈ digits, isDigit c = true) :
    readMagnitude limit overflow digits =
      if Nat.ofDigitChars 10 digits 0 ≤ limit then .ok (Nat.ofDigitChars 10 digits 0)
      else .error overflow := by
  rw [readMagnitude, if_neg (by rwa [List.isEmpty_iff])]
  split
  next small => exact readDigits_eq_ok allDigits 0 small
  next large => exact readDigits_eq_error allDigits (Nat.zero_le _) (Nat.lt_of_not_le large)

/-- What is read is digits. -/
theorem isDigit_of_readDigits {value : Nat}
    (read : readDigits limit overflow value digits = .ok n) : ∀ c ∈ digits, isDigit c = true := by
  induction digits generalizing value with
  | nil => nofun
  | cons c digits ih =>
      rw [readDigits] at read
      split at read
      next digit =>
        dsimp only at read
        split at read
        next => exact List.forall_mem_cons.mpr ⟨digit, ih read⟩
        next => cases read
      next => cases read

/-- A magnitude is read from digits, of which there is one, if their value is not too large. -/
theorem map_readMagnitude_eq_ok_iff {α : Type} {f : Int → α} {result : α} :
    (readMagnitude limit overflow digits >>= fun n => pure (n : Int)).map f = .ok result ↔
      digits ≠ [] ∧ (∀ c ∈ digits, isDigit c = true) ∧ Nat.ofDigitChars 10 digits 0 ≤ limit ∧
        f (Nat.ofDigitChars 10 digits 0) = result := by
  constructor
  · intro read
    have some : digits ≠ [] := by
      rintro rfl
      cases read
    have allDigits : ∀ c ∈ digits, isDigit c = true := by
      rw [readMagnitude, if_neg (by rwa [List.isEmpty_iff])] at read
      cases magnitude : readDigits limit overflow 0 digits with
      | ok n => exact isDigit_of_readDigits magnitude
      | error error =>
          rw [magnitude] at read
          cases read
    rw [readMagnitude_of_digits some allDigits] at read
    split at read
    next small =>
      cases read
      exact ⟨some, allDigits, small, rfl⟩
    next => cases read
  · rintro ⟨some, allDigits, small, rfl⟩
    rw [readMagnitude_of_digits some allDigits, if_pos small]
    rfl

theorem ofDigitChars_natDigits (n : Nat) : Nat.ofDigitChars 10 (natDigits n) 0 = n :=
  Nat.ofDigitChars_toDigits (by decide) (by decide)

/-- Digits without a sign are read as an integer of 64 bits, unless their value is too large. -/
theorem readInteger_of_digits (some : digits ≠ []) (allDigits : ∀ c ∈ digits, isDigit c = true) :
    readInteger digits =
      if Nat.ofDigitChars 10 digits 0 ≤ largestInteger then
        .ok (.ofInt (Nat.ofDigitChars 10 digits 0 : Nat))
      else .error .tooLarge := by
  obtain ⟨c, rest, rfl⟩ := List.exists_cons_of_ne_nil some
  have digit := allDigits c List.mem_cons_self
  have plus : c ≠ '+' := by
    rintro rfl
    cases digit
  have minus : c ≠ '-' := by
    rintro rfl
    cases digit
  have unsigned : readInteger (c :: rest) =
      (Nat.cast <$> readMagnitude largestInteger .tooLarge (c :: rest)).map Int64.ofInt := by
    simp [readInteger, plus, minus]
  rw [unsigned, readMagnitude_of_digits some allDigits]
  split <;> rfl

/-- A natural number is read back as an integer of 64 bits, if it is one. -/
theorem readInteger_natDigits (small : n ≤ largestInteger) :
    readInteger (natDigits n) = .ok (.ofInt n) := by
  rw [readInteger_of_digits (natDigits_ne_nil n) (fun c => isDigit_of_mem_natDigits),
    ofDigitChars_natDigits, if_pos small]

/-! ## Integers with a sign -/

/-- A text is an integer in decimal: digits, which a sign may precede. -/
inductive Denotes : List Char → Int → Prop where
  | unsigned {digits : List Char} (some : digits ≠ [])
      (allDigits : ∀ c ∈ digits, isDigit c = true) :
      Denotes digits (Nat.ofDigitChars 10 digits 0)
  | plus {digits : List Char} (some : digits ≠ []) (allDigits : ∀ c ∈ digits, isDigit c = true) :
      Denotes ('+' :: digits) (Nat.ofDigitChars 10 digits 0)
  | minus {digits : List Char} (some : digits ≠ []) (allDigits : ∀ c ∈ digits, isDigit c = true) :
      Denotes ('-' :: digits) (-(Nat.ofDigitChars 10 digits 0 : Nat))

theorem toInt_ofInt_of_small (small : n ≤ largestInteger) : (Int64.ofInt n).toInt = n :=
  Int64.toInt_ofInt_of_le (by omega) (by rw [largestInteger] at small; omega)

/-- An integer of 64 bits is read from a text that is it in decimal, and from no other. -/
theorem readInteger_eq_ok_iff {text : List Char} {number : Int64} :
    readInteger text = .ok number ↔ Denotes text number.toInt := by
  have least := Int64.le_toInt number
  have greatest := Int64.toInt_lt number
  constructor
  · intro read
    unfold readInteger at read
    split at read
    next => cases read
    next digits =>
      obtain ⟨some, allDigits, small, rfl⟩ := map_readMagnitude_eq_ok_iff.mp read
      rw [toInt_ofInt_of_small small]
      exact .plus some allDigits
    next digits =>
      obtain ⟨some, allDigits, small, rfl⟩ := map_readMagnitude_eq_ok_iff.mp read
      rw [Int64.toInt_ofInt_of_le (by rw [largestInteger] at small; omega) (by omega)]
      exact .minus some allDigits
    next =>
      obtain ⟨some, allDigits, small, rfl⟩ := map_readMagnitude_eq_ok_iff.mp read
      rw [toInt_ofInt_of_small small]
      exact .unsigned some allDigits
  · intro denotes
    generalize same : number.toInt = i at denotes
    have whole : Int64.ofInt i = number := by rw [← same, Int64.ofInt_toInt]
    cases denotes with
    | unsigned some allDigits =>
        rw [readInteger_of_digits some allDigits, if_pos (by rw [largestInteger]; omega), whole]
    | plus some allDigits =>
        exact map_readMagnitude_eq_ok_iff.mpr
          ⟨some, allDigits, by unfold largestInteger; omega, whole⟩
    | minus some allDigits =>
        exact map_readMagnitude_eq_ok_iff.mpr
          ⟨some, allDigits, by unfold largestInteger; omega, whole⟩

/-- An integer is written in decimal. -/
theorem denotes_intDigits (i : Int) : Denotes (intDigits i) i := by
  have digits : ∀ c ∈ natDigits i.natAbs, isDigit c = true := fun c => isDigit_of_mem_natDigits
  have some := natDigits_ne_nil i.natAbs
  have value := ofDigitChars_natDigits i.natAbs
  unfold intDigits
  split
  next negative =>
    have same : -((Nat.ofDigitChars 10 (natDigits i.natAbs) 0 : Nat) : Int) = i := by omega
    have denotes := Denotes.minus some digits
    rwa [same] at denotes
  next =>
    have same : ((Nat.ofDigitChars 10 (natDigits i.natAbs) 0 : Nat) : Int) = i := by omega
    have denotes := Denotes.unsigned some digits
    rwa [same] at denotes

/-- Every integer of 64 bits is read back. -/
theorem readInteger_intDigits (number : Int64) :
    readInteger (intDigits number.toInt) = .ok number :=
  readInteger_eq_ok_iff.mpr (denotes_intDigits _)

end Console.Text
