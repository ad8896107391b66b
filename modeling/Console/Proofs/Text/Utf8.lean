import Console.Proofs.Text.Lines
import Console.Text.Utf8

/-!
# Texts behind foreign bytes

Whatever bytes stand before it, a text is read back as it was written: its first byte begins a new
sequence, so one that broke off before it is a stretch of its own.  And no foreign sequence is read
as a newline, or passes over one.
-/

namespace Console.Utf8

/-- A byte number where a sequence may start. -/
theorem lead_ofNat {byte : Nat} (small : byte < 256) :
    lead (.ofNat byte) =
      if byte < 0x80 then ([some (Char.ofNat byte)], .lead)
      else if byte < 0xC2 then ([none], .lead)
      else if byte < 0xE0 then ([], .continuation 0x80 0xBF 0 (byte - 0xC0))
      else if byte = 0xE0 then ([], .continuation 0xA0 0xBF 1 0)
      else if byte = 0xED then ([], .continuation 0x80 0x9F 1 0xD)
      else if byte < 0xF0 then ([], .continuation 0x80 0xBF 1 (byte - 0xE0))
      else if byte = 0xF0 then ([], .continuation 0x90 0xBF 2 0)
      else if byte < 0xF4 then ([], .continuation 0x80 0xBF 2 (byte - 0xF0))
      else if byte = 0xF4 then ([], .continuation 0x80 0x8F 2 4)
      else ([none], .lead) := by
  have number : (UInt8.ofNat byte).toNat = byte := by
    rw [UInt8.toNat_ofNat', Nat.mod_eq_of_lt small]
  simp [lead, UInt8.lt_iff_toNat_lt, ← UInt8.toNat_inj, number]

theorem scanFrom_cons (state : Expecting) (byte : UInt8) (rest : Bytes) :
    scanFrom state (byte :: rest) =
      (step state byte).1 ++ scanFrom (step state byte).2 rest := by
  rw [scanFrom]

theorem scanFrom_of_step {state next : Expecting} {byte : UInt8} {stretches : List Stretch}
    (stepped : step state byte = (stretches, next)) (rest : Bytes) :
    scanFrom state (byte :: rest) = stretches ++ scanFrom next rest := by
  rw [scanFrom_cons, stepped]

/-- A byte within its bounds goes on with the sequence. -/
theorem step_of_mem {low high : UInt8} {more code byte : Nat} (above : low.toNat ≤ byte)
    (below : byte ≤ high.toNat) :
    step (.continuation low high more code) (.ofNat byte) =
      match more with
      | 0 => ([some (Char.ofNat (code * 64 + (byte - 0x80)))], .lead)
      | more + 1 => ([], .continuation 0x80 0xBF more (code * 64 + (byte - 0x80))) := by
  have small : byte < 256 := Nat.lt_of_le_of_lt below high.toNat_lt
  have number : (UInt8.ofNat byte).toNat = byte := by
    rw [UInt8.toNat_ofNat', Nat.mod_eq_of_lt small]
  have inside : (decide (low ≤ UInt8.ofNat byte) && decide (UInt8.ofNat byte ≤ high)) = true := by
    simp [UInt8.le_iff_toNat_le, number, above, below]
  cases more with
  | zero => simp only [step, if_pos inside, number]
  | succ more => simp only [step, if_pos inside, number]

theorem above_tail (bits : Nat) : (0x80 : UInt8).toNat ≤ bits % 64 + 128 := Nat.le_add_left ..

theorem below_tail (bits : Nat) : bits % 64 + 128 ≤ (0xBF : UInt8).toNat := by
  have limit : (0xBF : UInt8).toNat = 191 := rfl
  omega

/-- The last six bits of a character. -/
theorem scanFrom_last (code bits : Nat) (rest : Bytes) :
    scanFrom (.continuation 0x80 0xBF 0 code) (.ofNat (bits % 64 + 128) :: rest) =
      some (Char.ofNat (code * 64 + bits % 64)) :: scanFrom .lead rest := by
  rw [scanFrom_of_step (step_of_mem (above_tail bits) (below_tail bits)), Nat.add_sub_cancel]
  rfl

/-- Six bits of a character before the last ones. -/
theorem scanFrom_further {low high : UInt8} {bits : Nat} (above : low.toNat ≤ bits % 64 + 128)
    (below : bits % 64 + 128 ≤ high.toNat) (more code : Nat) (rest : Bytes) :
    scanFrom (.continuation low high (more + 1) code) (.ofNat (bits % 64 + 128) :: rest) =
      scanFrom (.continuation 0x80 0xBF more (code * 64 + bits % 64)) rest := by
  rw [scanFrom_of_step (step_of_mem above below), Nat.add_sub_cancel]
  rfl

theorem scanFrom_tail (more code bits : Nat) (rest : Bytes) :
    scanFrom (.continuation 0x80 0xBF (more + 1) code) (.ofNat (bits % 64 + 128) :: rest) =
      scanFrom (.continuation 0x80 0xBF more (code * 64 + bits % 64)) rest :=
  scanFrom_further (above_tail bits) (below_tail bits) more code rest

theorem step_lead_one {byte : Nat} (below : byte < 0x80) :
    step .lead (.ofNat byte) = ([some (Char.ofNat byte)], .lead) := by
  rw [step, lead_ofNat (by omega), if_pos below]

theorem step_lead_two {byte : Nat} (above : 0xC2 ≤ byte) (below : byte < 0xE0) :
    step .lead (.ofNat byte) = ([], .continuation 0x80 0xBF 0 (byte - 0xC0)) := by
  rw [step, lead_ofNat (by omega), if_neg (by omega), if_neg (by omega), if_pos below]

/-- Sequences of three bytes leave out what two bytes can say, and surrogates. -/
theorem step_lead_three (byte : Nat) (above : 0xE0 ≤ byte) (below : byte < 0xF0) :
    ∃ low high, step .lead (.ofNat byte) = ([], .continuation low high 1 (byte - 0xE0)) ∧
      low.toNat = (if byte = 0xE0 then 0xA0 else 0x80) ∧
      high.toNat = (if byte = 0xED then 0x9F else 0xBF) := by
  rw [step, lead_ofNat (by omega), if_neg (by omega), if_neg (by omega), if_neg (by omega)]
  by_cases first : byte = 0xE0
  · subst first
    exact ⟨_, _, rfl, rfl, rfl⟩
  · rw [if_neg first, if_neg first]
    by_cases surrogate : byte = 0xED
    · subst surrogate
      exact ⟨_, _, rfl, rfl, rfl⟩
    · rw [if_neg surrogate, if_neg surrogate, if_pos below]
      exact ⟨_, _, rfl, rfl, rfl⟩

/-- Sequences of four bytes leave out what three bytes can say, and numbers of no character. -/
theorem step_lead_four (byte : Nat) (above : 0xF0 ≤ byte) (below : byte ≤ 0xF4) :
    ∃ low high, step .lead (.ofNat byte) = ([], .continuation low high 2 (byte - 0xF0)) ∧
      low.toNat = (if byte = 0xF0 then 0x90 else 0x80) ∧
      high.toNat = (if byte = 0xF4 then 0x8F else 0xBF) := by
  rw [step, lead_ofNat (by omega), if_neg (by omega), if_neg (by omega), if_neg (by omega),
    if_neg (by omega), if_neg (by omega), if_neg (by omega)]
  by_cases first : byte = 0xF0
  · subst first
    exact ⟨_, _, rfl, rfl, rfl⟩
  · rw [if_neg first, if_neg first]
    by_cases last : byte = 0xF4
    · subst last
      exact ⟨_, _, rfl, rfl, rfl⟩
    · rw [if_neg last, if_neg last, if_pos (by omega)]
      exact ⟨_, _, rfl, rfl, rfl⟩

/-- A character is read back from its bytes. -/
theorem scanFrom_encodeChar (c : Char) (rest : Bytes) :
    scanFrom .lead (String.utf8EncodeChar c ++ rest) = some c :: scanFrom .lead rest := by
  have same : Char.ofNat c.val.toNat = c := Char.ofNat_toNat c
  have valid : c.val.toNat < 0xD800 ∨ 0xDFFF < c.val.toNat ∧ c.val.toNat < 0x110000 := c.valid
  unfold String.utf8EncodeChar
  dsimp only
  generalize c.val.toNat = code at same valid
  split
  next one =>
    rw [List.singleton_append, scanFrom_of_step (step_lead_one (by omega)), same]
    rfl
  next =>
    split
    next two =>
      have number : (code / 64 % 32 + 192 - 192) * 64 + code % 64 = code := by omega
      simp only [List.cons_append, List.nil_append]
      rw [scanFrom_of_step (step_lead_two (by omega) (by omega)), List.nil_append, scanFrom_last,
        number, same]
    next =>
      split
      next three =>
        obtain ⟨low, high, begins, above, below⟩ :=
          step_lead_three (code / 4096 % 16 + 224) (by omega) (by omega)
        have number : ((code / 4096 % 16 + 224 - 224) * 64 + code / 64 % 64) * 64 + code % 64 =
            code := by
          omega
        simp only [List.cons_append, List.nil_append]
        rw [scanFrom_of_step begins, List.nil_append,
          scanFrom_further (by split at above <;> omega) (by split at below <;> omega),
          scanFrom_last, number, same]
      next four =>
        obtain ⟨low, high, begins, above, below⟩ :=
          step_lead_four (code / 262144 % 8 + 240) (by omega) (by omega)
        have number : (((code / 262144 % 8 + 240 - 240) * 64 + code / 4096 % 64) * 64 +
            code / 64 % 64) * 64 + code % 64 = code := by
          omega
        simp only [List.cons_append, List.nil_append]
        rw [scanFrom_of_step begins, List.nil_append,
          scanFrom_further (by split at above <;> omega) (by split at below <;> omega),
          scanFrom_tail, scanFrom_last, number, same]

/-- The bounds of the next byte are those of a continuation byte, and before the last byte the bits
so far, those of the next byte included, are not zero or one: so no sequence says what a single byte
can say. -/
def Expecting.Regular : Expecting → Prop
  | .lead => True
  | .continuation low high more code =>
      0x80 ≤ low.toNat ∧ high.toNat ≤ 0xBF ∧
        2 ≤ code * 64 + (low.toNat - 0x80) ∧ (more = 0 → 2 ≤ code)

theorem regular_start : Expecting.lead.Regular := trivial

/-- A byte where a sequence may start is a character, invalid, or the first one of a sequence. -/
theorem lead_cases (byte : UInt8) :
    lead byte = ([some (Char.ofNat byte.toNat)], .lead) ∨ lead byte = ([none], .lead) ∨
      ∃ next, lead byte = ([], next) ∧ next ≠ .lead ∧ next.Regular := by
  have same : UInt8.ofNat byte.toNat = byte := UInt8.ofNat_toNat
  have small : byte.toNat < 256 := byte.toNat_lt
  generalize byte.toNat = number at same small
  subst same
  by_cases one : number < 0x80
  · exact .inl (step_lead_one one)
  right
  by_cases stray : number < 0xC2
  · left
    rw [lead_ofNat small, if_neg one, if_pos stray]
  by_cases two : number < 0xE0
  · have above : 0xC2 ≤ number := Nat.not_lt.mp stray
    refine .inr ⟨_, step_lead_two above two, nofun, Nat.le_refl _, Nat.le_refl _, ?_, ?_⟩
    · omega
    · omega
  by_cases three : number < 0xF0
  · obtain ⟨low, high, begins, above, below⟩ :=
      step_lead_three number (Nat.not_lt.mp two) three
    refine .inr ⟨_, begins, nofun, ?_, ?_, ?_, nofun⟩
    · split at above <;> omega
    · split at below <;> omega
    · split at above <;> omega
  by_cases four : number ≤ 0xF4
  · obtain ⟨low, high, begins, above, below⟩ := step_lead_four number (Nat.not_lt.mp three) four
    refine .inr ⟨_, begins, nofun, ?_, ?_, ?_, nofun⟩
    · split at above <;> omega
    · split at below <;> omega
    · split at above <;> omega
  · left
    rw [lead_ofNat small, if_neg one, if_neg stray, if_neg two, if_neg (by omega),
      if_neg (by omega), if_neg three, if_neg (by omega), if_neg (by omega), if_neg (by omega)]

theorem regular_lead (byte : UInt8) : (lead byte).2.Regular := by
  rcases lead_cases byte with character | invalid | ⟨next, begins, _, regular⟩
  · rw [character]
    trivial
  · rw [invalid]
    trivial
  · rw [begins]
    exact regular

theorem regular_step {state : Expecting} (regular : state.Regular) (byte : UInt8) :
    (step state byte).2.Regular := by
  cases state with
  | lead => exact regular_lead byte
  | continuation low high more code =>
      obtain ⟨tail, _, least, _⟩ := regular
      by_cases inside : low ≤ byte && byte ≤ high
      · have above : low.toNat ≤ byte.toNat := by
          rw [Bool.and_eq_true, decide_eq_true_eq, UInt8.le_iff_toNat_le] at inside
          exact inside.1
        rw [step, if_pos inside]
        cases more with
        | zero => trivial
        | succ more =>
            have enough : 2 ≤ code * 64 + (byte.toNat - 0x80) := by omega
            exact ⟨Nat.le_refl _, Nat.le_refl _, by omega, fun _ => enough⟩
      · rw [step, if_neg inside]
        exact regular_lead byte

/-- What bytes have been read as does not depend on those that follow. -/
theorem exists_scanFrom_append {state : Expecting} (regular : state.Regular) (front : Bytes) :
    ∃ stretches next, Expecting.Regular next ∧
      ∀ rest, scanFrom state (front ++ rest) = stretches ++ scanFrom next rest := by
  induction front generalizing state with
  | nil => exact ⟨[], state, regular, fun _ => rfl⟩
  | cons byte front ih =>
      obtain ⟨stretches, next, regularNext, reads⟩ := ih (regular_step regular byte)
      refine ⟨(step state byte).1 ++ stretches, next, regularNext, ?_⟩
      intro rest
      rw [List.cons_append, scanFrom_cons, reads, List.append_assoc]

/-- A byte that begins a sequence breaks off the one before it. -/
theorem scanFrom_of_begins {state : Expecting} (regular : state.Regular) {byte : UInt8}
    (begins : byte.toNat < 0x80 ∨ 0xC0 ≤ byte.toNat) (rest : Bytes) :
    scanFrom state (byte :: rest) = scanFrom state [] ++ scanFrom .lead (byte :: rest) := by
  cases state with
  | lead => rfl
  | continuation low high more code =>
      obtain ⟨above, below, _⟩ := regular
      have outside : ¬(low ≤ byte && byte ≤ high) := by
        rw [Bool.and_eq_true, decide_eq_true_eq, decide_eq_true_eq, UInt8.le_iff_toNat_le,
          UInt8.le_iff_toNat_le]
        omega
      have broken : step (.continuation low high more code) byte =
          (none :: (lead byte).1, (lead byte).2) := by
        rw [step, if_neg outside]
      rw [scanFrom_of_step broken]
      rfl

theorem exists_encodeChar_eq_cons (c : Char) :
    ∃ byte rest, String.utf8EncodeChar c = byte :: rest ∧
      (byte.toNat < 0x80 ∨ 0xC0 ≤ byte.toNat) := by
  unfold String.utf8EncodeChar
  dsimp only
  split_ifs
  all_goals
    refine ⟨_, _, rfl, ?_⟩
    rw [UInt8.toNat_ofNat']
    omega

/-- A text is read as it was written, whatever has been read before. -/
theorem scanFrom_encode {state : Expecting} (regular : state.Regular) (text : List Char) :
    scanFrom state (encode text) = scanFrom state [] ++ text.map some := by
  induction text generalizing state with
  | nil => exact (List.append_nil _).symm
  | cons c text ih =>
      obtain ⟨byte, rest, written, begins⟩ := exists_encodeChar_eq_cons c
      have here := scanFrom_encodeChar c (encode text)
      rw [ih regular_start] at here
      rw [written, List.cons_append] at here
      rw [encode, List.flatMap_cons, written, List.cons_append, scanFrom_of_begins regular begins]
      exact congrArg _ here

theorem scan_append_encode (front : Bytes) (text : List Char) :
    scan (front ++ encode text) = scan front ++ text.map some := by
  obtain ⟨stretches, next, regular, reads⟩ := exists_scanFrom_append regular_start front
  have alone := reads []
  rw [List.append_nil] at alone
  rw [scan, scan, reads, scanFrom_encode regular, alone, List.append_assoc]

theorem decodeLossy_append_encode (front : Bytes) (text : List Char) :
    decodeLossy (front ++ encode text) = decodeLossy front ++ text := by
  rw [decodeLossy, decodeLossy, scan_append_encode]
  simp [Function.comp_def]

theorem eq_of_ofNat_eq_newline {code : Nat} (newline : Char.ofNat code = '\n') : code = 10 := by
  by_cases valid : code.isValidChar
  · rw [Char.ofNat, dif_pos valid] at newline
    exact congrArg Char.toNat newline
  · rw [Char.ofNat, dif_neg valid] at newline
    exact absurd newline (by decide)

theorem eq_of_newline_mem_lead {byte : UInt8} (member : some '\n' ∈ (lead byte).1) :
    byte = 0x0A := by
  rcases lead_cases byte with character | invalid | ⟨next, begins, _⟩
  · rw [character] at member
    have newline := Option.some.inj (List.mem_singleton.mp member).symm
    exact UInt8.toNat_inj.mp (eq_of_ofNat_eq_newline newline)
  · rw [invalid] at member
    cases List.mem_singleton.mp member
  · rw [begins] at member
    cases member

/-- Only a newline is read as one. -/
theorem eq_of_newline_mem_step {state : Expecting} (regular : state.Regular) {byte : UInt8}
    (member : some '\n' ∈ (step state byte).1) : byte = 0x0A := by
  cases state with
  | lead => exact eq_of_newline_mem_lead member
  | continuation low high more code =>
      obtain ⟨_, _, _, least⟩ := regular
      by_cases inside : low ≤ byte && byte ≤ high
      · rw [step, if_pos inside] at member
        rw [Bool.and_eq_true, decide_eq_true_eq, UInt8.le_iff_toNat_le] at inside
        cases more with
        | zero =>
            have newline := Option.some.inj (List.mem_singleton.mp member).symm
            have ten := eq_of_ofNat_eq_newline newline
            have large := least rfl
            omega
        | succ more => cases member
      · rw [step, if_neg inside] at member
        rcases List.mem_cons.mp member with isBroken | member
        · cases isBroken
        · exact eq_of_newline_mem_lead member

/-- Where the bytes end, at most a sequence breaks off. -/
theorem eq_none_of_mem_scanFrom_nil {state : Expecting} {stretch : Stretch}
    (member : stretch ∈ scanFrom state []) : stretch = none := by
  cases state with
  | lead => cases member
  | continuation low high more code => exact List.mem_singleton.mp member

theorem newline_mem_of_mem_scanFrom {state : Expecting} (regular : state.Regular) {bytes : Bytes}
    (member : some '\n' ∈ scanFrom state bytes) : 0x0A ∈ bytes := by
  induction bytes generalizing state with
  | nil => cases eq_none_of_mem_scanFrom_nil member
  | cons byte rest ih =>
      rw [scanFrom_cons, List.mem_append] at member
      rcases member with here | behind
      · rw [eq_of_newline_mem_step regular here]
        exact List.mem_cons_self
      · exact List.mem_cons_of_mem _ (ih (regular_step regular byte) behind)

theorem lead_ne_nil (byte : UInt8) : (lead byte).1 ++ scanFrom (lead byte).2 [] ≠ [] := by
  rcases lead_cases byte with character | invalid | ⟨next, begins, isBegun, _⟩
  · rw [character]
    exact List.cons_ne_nil _ _
  · rw [invalid]
    exact List.cons_ne_nil _ _
  · rw [begins]
    cases next with
    | lead => exact absurd rfl isBegun
    | continuation low high more code => exact List.cons_ne_nil _ _

/-- No byte is passed over. -/
theorem scanFrom_singleton_ne_nil (state : Expecting) (byte : UInt8) :
    scanFrom state [byte] ≠ [] := by
  rw [scanFrom_cons]
  cases state with
  | lead => exact lead_ne_nil byte
  | continuation low high more code =>
      by_cases inside : low ≤ byte && byte ≤ high
      · rw [step, if_pos inside]
        cases more <;> simp [scanFrom]
      · rw [step, if_neg inside]
        exact List.cons_ne_nil _ _

/-- Bytes that are read as a text that ends its lines end in a newline themselves. -/
theorem ended_decodeLossy (bytes : Bytes) :
    Text.Ended (decodeLossy bytes) ↔ ∀ byte, bytes.getLast? = some byte → byte = 0x0A := by
  rcases List.eq_nil_or_concat' bytes with rfl | ⟨front, byte, rfl⟩
  · exact iff_of_true Text.ended_nil (by simp)
  · constructor
    · intro ended other same
      rw [List.getLast?_concat] at same
      cases same
      obtain ⟨stretches, next, regular, reads⟩ := exists_scanFrom_append regular_start front
      obtain ⟨earlier, stretch, last⟩ :=
        (List.eq_nil_or_concat' (scanFrom next [byte])).resolve_left
          (scanFrom_singleton_ne_nil next byte)
      rw [decodeLossy, scan, reads, last, ← List.append_assoc, List.map_append, List.map_singleton,
        Text.ended_concat] at ended
      have newline : stretch = some '\n' := by
        cases stretch with
        | none => exact absurd ended (by decide)
        | some c => exact congrArg some ended
      have member : some '\n' ∈ scanFrom next [byte] := by
        rw [last, newline]
        exact List.mem_append_right _ List.mem_cons_self
      exact (List.mem_singleton.mp (newline_mem_of_mem_scanFrom regular member)).symm
    · intro ended
      have newline : byte = 0x0A := ended byte List.getLast?_concat
      subst newline
      have written : [0x0A] = encode ['\n'] := rfl
      rw [written, decodeLossy_append_encode, Text.ended_concat]

/-- What stands behind a newline is read as if nothing were before it. -/
theorem decodeLossy_append_newline (front rest : Bytes) :
    decodeLossy (front ++ 0x0A :: rest) = decodeLossy front ++ '\n' :: decodeLossy rest := by
  obtain ⟨stretches, next, regular, reads⟩ := exists_scanFrom_append regular_start front
  have alone := reads []
  rw [List.append_nil] at alone
  have newline : scanFrom .lead (0x0A :: rest) = some '\n' :: scanFrom .lead rest := rfl
  have split : scan (front ++ 0x0A :: rest) = scan front ++ some '\n' :: scan rest := by
    rw [scan, scan, scan, reads, scanFrom_of_begins regular (.inl (by decide)), alone, newline,
      List.append_assoc]
  rw [decodeLossy, split, List.map_append]
  rfl

theorem newline_not_mem_decodeLossy {bytes : Bytes} (whole : 0x0A ∉ bytes) :
    '\n' ∉ decodeLossy bytes := by
  intro member
  obtain ⟨stretch, inScan, newline⟩ := List.mem_map.mp member
  cases stretch with
  | none => exact absurd newline (by decide)
  | some c =>
      obtain rfl : c = '\n' := newline
      exact whole (newline_mem_of_mem_scanFrom regular_start inScan)

theorem decodeLossy_ne_nil {bytes : Bytes} (some : bytes ≠ []) : decodeLossy bytes ≠ [] := by
  obtain ⟨front, byte, rfl⟩ := (List.eq_nil_or_concat' bytes).resolve_left some
  obtain ⟨stretches, next, _, reads⟩ := exists_scanFrom_append regular_start front
  rw [decodeLossy, scan, reads]
  simp [scanFrom_singleton_ne_nil next byte]

theorem scan_encode (text : List Char) : scan (encode text) = text.map some :=
  scan_append_encode [] text

/-- A text is read back from its bytes. -/
theorem decode?_encode (text : List Char) : decode? (encode text) = some text := by
  rw [decode?, scan_encode]
  induction text with
  | nil => rfl
  | cons c text ih =>
      rw [List.map_cons, List.mapM_cons, ih]
      rfl

/-- Only a newline is written with the byte of one. -/
theorem newline_not_mem_encodeChar {c : Char} (other : c ≠ '\n') :
    0x0A ∉ String.utf8EncodeChar c := by
  have code : c.val.toNat ≠ 10 := by
    intro same
    exact other (Char.ext (UInt32.toNat_inj.mp same))
  unfold String.utf8EncodeChar
  dsimp only
  generalize c.val.toNat = number at code
  split_ifs
  all_goals
    simp only [List.mem_cons, List.not_mem_nil, or_false, not_or, ← UInt8.toNat_inj,
      UInt8.toNat_ofNat', UInt8.reduceToNat]
    omega

/-- Bytes without a newline stand before the first piece of what follows. -/
theorem pieces_append_of_not_mem {front : Bytes} (whole : 0x0A ∉ front) (some : front ≠ [])
    (rest : Bytes) :
    pieces (front ++ rest) =
      match pieces rest with
      | [] => [front]
      | piece :: more => (front ++ piece) :: more := by
  induction front with
  | nil => exact absurd rfl some
  | cons byte front ih =>
      rw [List.mem_cons, not_or] at whole
      rw [List.cons_append, pieces, if_neg (Ne.symm whole.1)]
      by_cases empty : front = []
      · subst empty
        rfl
      · rw [ih whole.2 empty]
        cases pieces rest <;> rfl

theorem pieces_append_newline {front : Bytes} (whole : 0x0A ∉ front) (rest : Bytes) :
    pieces (front ++ 0x0A :: rest) = (front ++ [0x0A]) :: pieces rest := by
  by_cases empty : front = []
  · subst empty
    rfl
  · rw [pieces_append_of_not_mem whole empty]
    rfl

theorem pieces_of_not_mem {bytes : Bytes} (whole : 0x0A ∉ bytes) (some : bytes ≠ []) :
    pieces bytes = [bytes] := by
  have cut := pieces_append_of_not_mem whole some []
  rwa [List.append_nil] at cut

/-- The bytes of a text are cut where the text is. -/
theorem pieces_encode (text : List Char) :
    pieces (encode text) = (Text.pieces text).map encode := by
  induction text with
  | nil => rfl
  | cons c text ih =>
      rw [encode, List.flatMap_cons, ← encode]
      by_cases newline : c = '\n'
      · subst newline
        rw [Text.pieces_newline, List.map_cons, ← ih]
        rfl
      · have whole := newline_not_mem_encodeChar newline
        obtain ⟨byte, others, written, _⟩ := exists_encodeChar_eq_cons c
        have some : String.utf8EncodeChar c ≠ [] := by simp [written]
        rw [pieces_append_of_not_mem whole some, ih, Text.pieces, if_neg newline]
        cases Text.pieces text with
        | nil => simp [encode]
        | cons piece more => simp [encode]

end Console.Utf8
