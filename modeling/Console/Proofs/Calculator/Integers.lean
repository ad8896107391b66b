import Console.Proofs.Calculator.Sequencing

/-!
# Integer arithmetic

An expression of integers is written with numerals, signs, operators and parentheses, and means an
integer of any size.  What the calculator makes of a text that writes one is compared with that
meaning: the value is the integer itself, and where something on the way to it is no integer of 64
bits, or a divisor is zero, the error is that of the first such thing.  Numerals are read before
anything is computed; what is computed comes in the order in which the operands are complete.
-/

namespace Console

/-- An integer has 64 bits. -/
def IsWord (i : Int) : Prop := -9223372036854775808 ≤ i ∧ i ≤ 9223372036854775807

instance (i : Int) : Decidable (IsWord i) := inferInstanceAs (Decidable (_ ∧ _))

theorem IsWord.toInt_ofInt {i : Int} (isWord : IsWord i) : (Int64.ofInt i).toInt = i :=
  Int64.toInt_ofInt_of_le isWord.1 (Int.lt_add_one_of_le isWord.2)

theorem Value.ofInt_eq (i : Int) :
    Value.ofInt i = if IsWord i then .ok (.int (.ofInt i)) else .error .overflow := by
  have bounds : Int64.minValue.toInt ≤ i ∧ i ≤ Int64.maxValue.toInt ↔ IsWord i := by
    rw [Int64.toInt_minValue, Int64.toInt_maxValue, IsWord]
    omega
  rw [ofInt, word?]
  by_cases isWord : IsWord i
  · rw [if_pos (bounds.mpr isWord), if_pos isWord]
  · rw [if_neg (mt bounds.mp isWord), if_neg isWord]

/-! ## Checks -/

/-- Looks at items one after the other; the error is that of the first one without the property. -/
def ensureAll {α : Type} (sound : α → Prop) [DecidablePred sound] (error : α → EvalError) :
    List α → Except EvalError Unit
  | [] => .ok ()
  | item :: rest => if sound item then ensureAll sound error rest else .error (error item)

section EnsureAll

variable {α : Type} {sound : α → Prop} [DecidablePred sound] {error : α → EvalError}
  {items before rest : List α} {item : α}

theorem ensureAll_append (items more : List α) :
    ensureAll sound error (items ++ more) =
      ensureAll sound error items >>= fun _ => ensureAll sound error more := by
  induction items with
  | nil => rfl
  | cons item items ih =>
      rw [List.cons_append, ensureAll, ensureAll, ih]
      split <;> rfl

theorem ensureAll_of_all (all : ∀ item ∈ items, sound item) :
    ensureAll sound error items = .ok () := by
  induction items with
  | nil => rfl
  | cons item items ih =>
      rw [List.forall_mem_cons] at all
      rw [ensureAll, if_pos all.1, ih all.2]

theorem all_of_ensureAll (passed : ensureAll sound error items = .ok ()) :
    ∀ item ∈ items, sound item := by
  induction items with
  | nil => nofun
  | cons item items ih =>
      rw [ensureAll] at passed
      split at passed
      next isSound => exact List.forall_mem_cons.mpr ⟨isSound, ih passed⟩
      next => cases passed

theorem ensureAll_of_first (earlier : ∀ item ∈ before, sound item) (unsound : ¬sound item) :
    ensureAll sound error (before ++ item :: rest) = .error (error item) := by
  rw [ensureAll_append, ensureAll_of_all earlier, ensureAll, if_neg unsound]
  rfl

end EnsureAll

/-! ## Numerals -/

/-- An integer as it is written: digits, and underscores that may stand behind the first of them. -/
structure Numeral where
  first : Char
  others : List Char
  isDigit_first : Text.isDigit first = true
  digits_or_underscores : ∀ c ∈ others, Text.isDigit c = true ∨ c = '_'

namespace Numeral

theorem of_all {others : List Char}
    (all : others.all (fun c => Text.isDigit c || c == '_') = true) :
    ∀ c ∈ others, Text.isDigit c = true ∨ c = '_' := by
  simpa using all

/-- What a numeral is written with. -/
def chars (numeral : Numeral) : List Char := numeral.first :: numeral.others

/-- A numeral without its underscores. -/
def digits (numeral : Numeral) : List Char := numeral.chars.filter (· != '_')

/-- The number that a numeral stands for. -/
def value (numeral : Numeral) : Nat := Nat.ofDigitChars 10 numeral.digits 0

/-- The error for a numeral that is too large. -/
def error (numeral : Numeral) : EvalError := .literalTooLarge (.ofList numeral.digits)

/-- No numeral is too large. -/
def check : List Numeral → Except EvalError Unit :=
  ensureAll (fun numeral => IsWord numeral.value) error

theorem check_append (numerals more : List Numeral) :
    check (numerals ++ more) = check numerals >>= fun _ => check more :=
  ensureAll_append numerals more

theorem digits_eq (numeral : Numeral) :
    numeral.digits = numeral.first :: numeral.others.filter (· != '_') := by
  have kept : (numeral.first != '_') = true := by
    rw [bne_iff_ne]
    intro isUnderscore
    have isDigit := numeral.isDigit_first
    rw [isUnderscore] at isDigit
    cases isDigit
  rw [digits, chars]
  exact List.filter_cons_of_pos kept

theorem isDigit_of_mem_digits (numeral : Numeral) :
    ∀ c ∈ numeral.digits, Text.isDigit c = true := by
  intro c member
  rw [digits_eq, List.mem_cons, List.mem_filter] at member
  rcases member with rfl | ⟨member, isOther⟩
  · exact numeral.isDigit_first
  · rcases numeral.digits_or_underscores c member with isDigit | rfl
    · exact isDigit
    · cases isOther

theorem continuesNumber_of_mem (numeral : Numeral) :
    ∀ c ∈ numeral.others, Scanner.continuesNumber c = true := by
  intro c member
  rcases numeral.digits_or_underscores c member with isDigit | rfl
  · simp [Scanner.continuesNumber, isDigit]
  · rfl

theorem isWord_value_iff (numeral : Numeral) :
    IsWord numeral.value ↔ numeral.value ≤ Text.largestInteger := by
  unfold IsWord Text.largestInteger
  omega

/-- A numeral is the token of its number, if that is not too large. -/
theorem numberToken_chars (numeral : Numeral) :
    Scanner.numberToken numeral.chars =
      if IsWord numeral.value then .ok (.int (.ofInt numeral.value)) else .error numeral.error := by
  have noPoint : ∀ c ∈ numeral.digits, (c != '.') = true := by
    intro c member
    rw [bne_iff_ne]
    rintro rfl
    cases numeral.isDigit_of_mem_digits '.' member
  have whole : numeral.digits.span (· != '.') = (numeral.digits, []) := by
    rw [List.span_eq_takeWhile_dropWhile, List.takeWhile_eq_self_iff.mpr noPoint,
      List.dropWhile_eq_nil_iff.mpr noPoint]
  have some : numeral.digits ≠ [] := by simp [digits_eq]
  have read : Text.readInteger numeral.digits =
      if numeral.value ≤ Text.largestInteger then .ok (.ofInt numeral.value)
      else .error .tooLarge :=
    Text.readInteger_of_digits some numeral.isDigit_of_mem_digits
  have kept : numeral.chars.filter (· != '_') = numeral.digits := rfl
  simp only [Scanner.numberToken, kept, whole, read, isWord_value_iff]
  by_cases small : numeral.value ≤ Text.largestInteger
  · rw [if_pos small, if_pos small]
  · rw [if_neg small, if_neg small]
    rfl

end Numeral

/-! ## Expressions of integers -/

namespace Operator

/-- The result of an operator on integers of any size; division truncates toward zero. -/
def exact : Operator → Int → Int → Int
  | add, left, right => left + right
  | subtract, left, right => left - right
  | multiply, left, right => left * right
  | divide, left, right => left.tdiv right

end Operator

/-- An expression of integers.  Parentheses leave no trace in it. -/
inductive Formula where
  | constant (numeral : Numeral)
  | negative (operand : Formula)
  | binary (operator : Operator) (left right : Formula)

/-- One step of arithmetic, with its operands. -/
inductive Calculation where
  | negation (operand : Int)
  | operation (operator : Operator) (left right : Int)
  deriving DecidableEq

namespace Calculation

/-- The exact result of a step. -/
def result : Calculation → Int
  | negation operand => -operand
  | operation operator left right => operator.exact left right

/-- Whether a step divides by zero. -/
def dividesByZero : Calculation → Bool
  | operation .divide _ right => right == 0
  | _ => false

/-- A step has a result, and it has 64 bits. -/
def Sound (calculation : Calculation) : Prop :=
  calculation.dividesByZero = false ∧ IsWord calculation.result

instance : DecidablePred Sound := fun _ => inferInstanceAs (Decidable (_ ∧ _))

/-- The error of a step that is not sound. -/
def error (calculation : Calculation) : EvalError :=
  if calculation.dividesByZero then .divisionByZero else .overflow

/-- All steps are sound. -/
def check : List Calculation → Except EvalError Unit := ensureAll Sound error

theorem check_append (calculations more : List Calculation) :
    check (calculations ++ more) = check calculations >>= fun _ => check more :=
  ensureAll_append calculations more

theorem ofInt_result (calculation : Calculation) (divides : calculation.dividesByZero = false) :
    Value.ofInt calculation.result =
      check [calculation] >>= fun _ => .ok (.int (.ofInt calculation.result)) := by
  rw [Value.ofInt_eq, check, ensureAll]
  by_cases isWord : IsWord calculation.result
  · rw [if_pos isWord, if_pos ⟨divides, isWord⟩]
    rfl
  · have unsound : ¬calculation.Sound := fun sound => isWord sound.2
    rw [if_neg isWord, if_neg unsound, error, divides]
    rfl

end Calculation

theorem Operator.onInts_eq (operator : Operator) (left right : Int) :
    operator.onInts left right =
      Calculation.check [.operation operator left right] >>= fun _ =>
        .ok (.int (.ofInt (operator.exact left right))) := by
  cases operator with
  | add => exact Calculation.ofInt_result (.operation .add left right) rfl
  | subtract => exact Calculation.ofInt_result (.operation .subtract left right) rfl
  | multiply => exact Calculation.ofInt_result (.operation .multiply left right) rfl
  | divide =>
      by_cases zero : right = 0
      · subst zero
        rfl
      · have divides : (Calculation.operation .divide left right).dividesByZero = false :=
          beq_false_of_ne zero
        rw [onInts, if_neg zero]
        exact Calculation.ofInt_result _ divides

namespace Formula

/-- The integer that an expression means. -/
def value : Formula → Int
  | constant numeral => numeral.value
  | negative operand => -operand.value
  | binary operator left right => operator.exact left.value right.value

/-- The numerals of an expression, from left to right. -/
def numerals : Formula → List Numeral
  | constant numeral => [numeral]
  | negative operand => operand.numerals
  | binary _ left right => left.numerals ++ right.numerals

/-- The steps that an expression is computed in, on integers of any size: the operands from left to
right, and then what is done with them. -/
def calculations : Formula → List Calculation
  | constant _ => []
  | negative operand => operand.calculations ++ [.negation operand.value]
  | binary operator left right =>
      left.calculations ++ right.calculations ++ [.operation operator left.value right.value]

/-- An expression of integers among the expressions. -/
def tree : Formula → Expression
  | constant numeral => .literal (.int (.ofInt numeral.value))
  | negative operand => .negative operand.tree
  | binary operator left right => .binary operator left.tree right.tree

/-- Where all numerals and steps are sound, the integer that is meant has 64 bits. -/
theorem isWord_value {formula : Formula}
    (sizes : ∀ numeral ∈ formula.numerals, IsWord numeral.value)
    (sound : ∀ calculation ∈ formula.calculations, calculation.Sound) : IsWord formula.value := by
  cases formula with
  | constant numeral => exact sizes numeral List.mem_cons_self
  | negative operand =>
      exact (sound (.negation operand.value) (List.mem_append_right _ List.mem_cons_self)).2
  | binary operator left right =>
      exact (sound (.operation operator left.value right.value)
        (List.mem_append_right _ List.mem_cons_self)).2

/-- An expression whose numerals have 64 bits is computed step by step. -/
theorem evaluate_tree {formula : Formula}
    (sizes : ∀ numeral ∈ formula.numerals, IsWord numeral.value) (scope : Scope) :
    formula.tree.evaluate scope =
      Calculation.check formula.calculations >>= fun _ => .ok (.int (.ofInt formula.value)) := by
  -- What is known of an operand once its steps have passed.
  have exact_of_passed {operand : Formula}
      (sizes : ∀ numeral ∈ operand.numerals, IsWord numeral.value)
      (passed : Calculation.check operand.calculations = .ok ()) :
      (Int64.ofInt operand.value).toInt = operand.value :=
    (isWord_value sizes (all_of_ensureAll passed)).toInt_ofInt
  induction formula with
  | constant numeral => rfl
  | negative operand ih =>
      rw [numerals] at sizes
      rw [tree, Expression.evaluate, ih sizes, calculations, Calculation.check_append]
      cases passed : Calculation.check operand.calculations with
      | error error => rfl
      | ok =>
          change Value.ofInt (-(Int64.ofInt operand.value).toInt) = _
          rw [exact_of_passed sizes passed]
          exact Calculation.ofInt_result (.negation operand.value) rfl
  | binary operator left right ihLeft ihRight =>
      rw [numerals, List.forall_mem_append] at sizes
      rw [tree, Expression.evaluate, ihLeft sizes.1, ihRight sizes.2, calculations,
        Calculation.check_append, Calculation.check_append]
      cases passedLeft : Calculation.check left.calculations with
      | error error => rfl
      | ok =>
          cases passedRight : Calculation.check right.calculations with
          | error error => rfl
          | ok =>
              change operator.onInts (Int64.ofInt left.value).toInt
                (Int64.ofInt right.value).toInt = _
              rw [exact_of_passed sizes.1 passedLeft, exact_of_passed sizes.2 passedRight]
              exact operator.onInts_eq left.value right.value

end Formula

/-! ## Texts -/

/-- A text writes an expression as a phrase of a kind, up to the next symbol: blanks may stand
behind numerals and symbols, and parentheses around everything that is an expression. -/
inductive Writes : Phrase → Formula → List Char → Prop
  | constant {blanks : List Char} (numeral : Numeral) (blank : Text.allBlank blanks) :
      Writes .unary (.constant numeral) (numeral.chars ++ blanks)
  | negative {operand : Formula} {blanks text : List Char} (blank : Text.allBlank blanks)
      (writes : Writes .unary operand text) :
      Writes .unary (.negative operand) (Symbol.minus.char :: (blanks ++ text))
  | group {formula : Formula} {blanks text behind : List Char} (blank : Text.allBlank blanks)
      (writes : Writes .expression formula text) (blankBehind : Text.allBlank behind) :
      Writes .unary formula
        (Symbol.openParen.char :: (blanks ++ (text ++ Symbol.closeParen.char :: behind)))
  | operand {rank : Rank} {formula : Formula} {text : List Char}
      (writes : Writes rank.operand formula text) : Writes (.chain rank) formula text
  | binary {operator : Operator} {left right : Formula} {text blanks other : List Char}
      (first : Writes (.chain operator.rank) left text) (blank : Text.allBlank blanks)
      (second : Writes operator.rank.operand right other) :
      Writes (.chain operator.rank) (.binary operator left right)
        (text ++ operator.symbol.char :: (blanks ++ other))

namespace Scanner

variable {c : Char} {rest blanks : List Char}

theorem run_symbol (symbol : Symbol) (rest : List Char) :
    between.run (symbol.char :: rest) =
      between.run rest >>= fun more => .ok (.symbol symbol :: more) := by
  have stepped : between.step symbol.char = .ok ([.symbol symbol], between) := symbol.start_char
  rw [run, stepped]
  rfl

theorem endsNumber_symbol (symbol : Symbol) (rest : List Char) :
    EndsNumber (symbol.char :: rest) := by
  rintro c ⟨⟩
  exact symbol.not_continues_char.1

theorem endsNumber_blanks (blank : Text.allBlank blanks) (ends : EndsNumber rest) :
    EndsNumber (blanks ++ rest) := by
  cases blanks with
  | nil => exact ends
  | cons c blanks =>
      rw [Text.allBlank_cons, Bool.and_eq_true] at blank
      rintro c ⟨⟩
      exact (not_continues_of_isBlank blank.1).1

theorem run_numeral (numeral : Numeral) (ends : EndsNumber rest) :
    between.run (numeral.chars ++ rest) =
      Numeral.check [numeral] >>= fun _ =>
        between.run rest >>= fun more => .ok (.int (.ofInt numeral.value) :: more) := by
  have digit := numeral.isDigit_first
  have stepped : between.step numeral.first = .ok ([], Scanner.number [numeral.first]) := by
    simp only [step, start, Text.isBlank_of_isDigit digit, digit, Bool.false_eq_true, if_false,
      if_true]
  have isToken := numeral.numberToken_chars
  rw [Numeral.chars] at isToken
  rw [Numeral.chars, List.cons_append, run_of_silent stepped,
    run_number_append numeral.continuesNumber_of_mem ends, List.reverse_singleton,
    List.singleton_append, isToken, Numeral.check, ensureAll]
  split <;> rfl

end Scanner

namespace Writes

open Scanner

variable {phrase : Phrase} {formula : Formula} {text : List Char}

/-- A text that writes an expression is read as tokens of its tree, whatever follows, unless a
numeral in it is too large. -/
theorem reads (writes : Writes phrase formula text) :
    ∃ found, Derives phrase formula.tree found ∧ ∀ rest, EndsNumber rest →
      between.run (text ++ rest) =
        Numeral.check formula.numerals >>= fun _ =>
          between.run rest >>= fun more => .ok (found ++ more) := by
  induction writes with
  | constant numeral blank =>
      refine ⟨[.int (.ofInt numeral.value)], .unsigned (.literal rfl), ?_⟩
      intro rest ends
      rw [List.append_assoc, run_numeral numeral (endsNumber_blanks blank ends), run_blanks blank]
      rfl
  | negative blank writes ih =>
      obtain ⟨found, derives, reads⟩ := ih
      refine ⟨.symbol .minus :: found, .sign derives, ?_⟩
      intro rest ends
      rw [List.cons_append, List.append_assoc, run_symbol, run_blanks blank, reads rest ends]
      simp only [bind_assoc]
      rfl
  | @group formula blanks text behind blank writes blankBehind ih =>
      obtain ⟨found, derives, reads⟩ := ih
      refine ⟨.symbol .openParen :: (found ++ [.symbol .closeParen]),
        .unsigned (.group derives), ?_⟩
      intro rest ends
      have split :
          Symbol.openParen.char :: (blanks ++ (text ++ Symbol.closeParen.char :: behind)) ++ rest =
            Symbol.openParen.char ::
              (blanks ++ (text ++ Symbol.closeParen.char :: (behind ++ rest))) := by
        simp only [List.cons_append, List.append_assoc]
      rw [split, run_symbol, run_blanks blank, reads _ (endsNumber_symbol _ _), run_symbol,
        run_blanks blankBehind]
      simp only [bind_assoc, List.cons_append, List.append_assoc, List.nil_append]
      rfl
  | operand writes ih =>
      obtain ⟨found, derives, reads⟩ := ih
      exact ⟨found, .single derives, reads⟩
  | @binary operator left right text blanks other first blank second ihFirst ihSecond =>
      obtain ⟨found, derives, reads⟩ := ihFirst
      obtain ⟨more, derivesToo, readsToo⟩ := ihSecond
      refine ⟨found ++ .symbol operator.symbol :: more, derives.concat rfl derivesToo, ?_⟩
      intro rest ends
      have split : text ++ operator.symbol.char :: (blanks ++ other) ++ rest =
          text ++ operator.symbol.char :: (blanks ++ (other ++ rest)) := by
        simp only [List.cons_append, List.append_assoc]
      rw [split, reads _ (endsNumber_symbol _ _), run_symbol, run_blanks blank, readsToo rest ends,
        Formula.numerals, Numeral.check_append]
      simp only [bind_assoc, List.cons_append, List.append_assoc]
      rfl

theorem operand_of_unary (writes : Writes .unary formula text) :
    ∀ rank : Rank, Writes rank.operand formula text
  | .sum => @operand .product _ _ writes
  | .product => writes

/-- Every expression can be written. -/
theorem exists_text (formula : Formula) : ∃ text, Writes .unary formula text := by
  induction formula with
  | constant numeral => exact ⟨_, .constant numeral Text.allBlank_nil⟩
  | negative operand ih =>
      obtain ⟨text, writes⟩ := ih
      exact ⟨_, .negative Text.allBlank_nil writes⟩
  | binary operator left right ihLeft ihRight =>
      obtain ⟨text, first⟩ := ihLeft
      obtain ⟨other, second⟩ := ihRight
      have whole := binary (.operand (first.operand_of_unary operator.rank)) Text.allBlank_nil
        (second.operand_of_unary operator.rank)
      have expression : ∃ text, Writes .expression (.binary operator left right) text := by
        cases ranked : operator.rank with
        | sum => exact ⟨_, ranked ▸ whole⟩
        | product =>
            rw [ranked] at whole
            exact ⟨_, .operand whole⟩
      obtain ⟨text, writes⟩ := expression
      exact ⟨_, .group Text.allBlank_nil writes Text.allBlank_nil⟩

end Writes

namespace Formula

variable {formula : Formula} {source : String}

/-- A source text writes an expression. -/
def Written (formula : Formula) (source : String) : Prop :=
  ∃ blanks text, source.toList = blanks ++ text ∧ Text.allBlank blanks ∧
    Writes .expression formula text

theorem Written.reads (written : formula.Written source) :
    ∃ found, Derives .expression formula.tree found ∧
      tokens source.toList = Numeral.check formula.numerals >>= fun _ => .ok found := by
  obtain ⟨blanks, text, split, blank, writes⟩ := written
  obtain ⟨found, derives, reads⟩ := writes.reads
  refine ⟨found, derives, ?_⟩
  have whole := reads [] nofun
  rw [List.append_nil] at whole
  rw [split, tokens, Scanner.run_blanks blank, whole]
  change (_ >>= fun _ => Except.ok (found ++ [])) = _
  rw [List.append_nil]

/-- What a text that writes an expression comes to: the numerals are looked at first, then the steps
of the computation. -/
theorem Written.evaluate (written : formula.Written source) (calculator : Calculator)
    (target last : Value) :
    calculator.evaluate source target last =
      (Numeral.check formula.numerals >>= fun _ =>
        Calculation.check formula.calculations >>= fun _ => .ok (.int (.ofInt formula.value)),
        calculator) := by
  obtain ⟨found, derives, read⟩ := written.reads
  cases checked : Numeral.check formula.numerals with
  | error error =>
      rw [checked] at read
      rw [Calculator.evaluate, read]
      rfl
  | ok =>
      rw [checked] at read
      rw [Calculator.evaluate_of_derives read derives, evaluate_tree (all_of_ensureAll checked)]
      rfl

end Formula

namespace Calculator

/-- Integer arithmetic is exact or an error.  A text that writes an expression has an integer as its
value exactly if all numerals, and all that is computed on the way on integers of any size, have 64
bits and no divisor is zero; then it is the integer that the expression means.  Otherwise the error
is that of the first numeral that is too large, or else that of the first step that is not sound.
Nothing is bound in any case. -/
theorem integers_exact_or_error (formula : Formula) (source : String)
    (written : formula.Written source) (calculator : Calculator) (target last : Value) :
    let evaluated := calculator.evaluate source target last
    evaluated.2 = calculator ∧
    (∀ n : Int64, evaluated.1 = .ok (.int n) ↔
      (∀ numeral ∈ formula.numerals, IsWord numeral.value) ∧
        (∀ calculation ∈ formula.calculations, calculation.Sound) ∧ n.toInt = formula.value) ∧
    (∀ before numeral rest, formula.numerals = before ++ numeral :: rest →
      (∀ earlier ∈ before, IsWord earlier.value) → ¬IsWord numeral.value →
        evaluated.1 = .error numeral.error ∧ numeral.error.kind = "RangeError") ∧
    ((∀ numeral ∈ formula.numerals, IsWord numeral.value) →
      ∀ before calculation rest, formula.calculations = before ++ calculation :: rest →
        (∀ earlier ∈ before, earlier.Sound) → ¬calculation.Sound →
          evaluated.1 = .error calculation.error ∧
            calculation.error.kind =
              if calculation.dividesByZero then "ZeroDivisionError" else "RangeError") := by
  rw [written.evaluate calculator target last]
  dsimp only
  refine ⟨rfl, ?_, ?_, ?_⟩
  · intro n
    constructor
    · intro done
      obtain ⟨_, sizesPassed, done⟩ := exists_of_bind_eq_ok done
      obtain ⟨_, stepsPassed, done⟩ := exists_of_bind_eq_ok done
      have sizes := all_of_ensureAll sizesPassed
      have sound := all_of_ensureAll stepsPassed
      cases done
      exact ⟨sizes, sound, (Formula.isWord_value sizes sound).toInt_ofInt⟩
    · rintro ⟨sizes, sound, same⟩
      have sizesPassed : Numeral.check formula.numerals = .ok () := ensureAll_of_all sizes
      have stepsPassed : Calculation.check formula.calculations = .ok () := ensureAll_of_all sound
      rw [sizesPassed, stepsPassed, ← same, Int64.ofInt_toInt]
      rfl
  · intro before numeral rest split earlier large
    have failed : Numeral.check formula.numerals = .error numeral.error := by
      rw [split]
      exact ensureAll_of_first earlier large
    rw [failed]
    exact ⟨rfl, rfl⟩
  · intro sizes before calculation rest split earlier unsound
    have sizesPassed : Numeral.check formula.numerals = .ok () := ensureAll_of_all sizes
    have failed : Calculation.check formula.calculations = .error calculation.error := by
      rw [split]
      exact ensureAll_of_first earlier unsound
    rw [sizesPassed, failed]
    refine ⟨rfl, ?_⟩
    rw [Calculation.error]
    split <;> rfl

/-- The least integer has no quotient by minus one, though both have 64 bits. -/
theorem integers_exact_or_error_at_least_integer :
    (evaluate {} "(-9_223372036854775807 - 1)/-01" .nil .nil).1 = .error .overflow := by
  let greatest : Numeral := ⟨'9', "_223372036854775807".toList, rfl, Numeral.of_all rfl⟩
  let one : Numeral := ⟨'1', [], rfl, Numeral.of_all rfl⟩
  let otherOne : Numeral := ⟨'0', ['1'], rfl, Numeral.of_all rfl⟩
  let least : Formula := .binary .subtract (.negative (.constant greatest)) (.constant one)
  let divisor : Formula := .negative (.constant otherOne)
  have writesGreatest :
      Writes .unary (.negative (.constant greatest)) "-9_223372036854775807 ".toList :=
    @Writes.negative _ [] _ rfl (@Writes.constant [' '] greatest rfl)
  have writesOne : Writes .unary (.constant one) "1".toList := @Writes.constant [] one rfl
  have writesLeast : Writes .expression least "-9_223372036854775807 - 1".toList :=
    @Writes.binary .subtract _ _ _ [' '] _ (.operand (writesGreatest.operand_of_unary .sum)) rfl
      (writesOne.operand_of_unary .sum)
  have writesDivisor : Writes .unary divisor "-01".toList :=
    @Writes.negative _ [] _ rfl (@Writes.constant [] otherOne rfl)
  have written : (Formula.binary .divide least divisor).Written "(-9_223372036854775807 - 1)/-01" :=
    ⟨[], _, rfl, rfl, .operand (@Writes.binary .divide _ _ _ [] _
      (.operand (@Writes.group _ [] _ [] rfl writesLeast rfl)) rfl writesDivisor)⟩
  have calculations : (Formula.binary .divide least divisor).calculations =
      [.negation 9223372036854775807, .operation .subtract (-9223372036854775807) 1, .negation 1] ++
        [.operation .divide (-9223372036854775808) (-1)] := by decide
  have failing := (integers_exact_or_error _ _ written {} .nil .nil).2.2.2 (by decide) _ _ _
    calculations (by decide) (by decide)
  exact failing.1

end Calculator

end Console
