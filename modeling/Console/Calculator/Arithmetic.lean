import Console.Value
import Console.Calculator.Token

/-!
# Arithmetic

Integers are words of 64 bits, and their arithmetic is exact or an error: a result that is no
word is an overflow, never another number.  An integer next to a floating point number is taken
as one.  Strings and lists are put together with `+`.
-/

namespace Console

/-- The word for an integer; `none` if it is not one. -/
def word? (i : Int) : Option Int64 :=
  if Int64.minValue.toInt ≤ i ∧ i ≤ Int64.maxValue.toInt then some (.ofInt i) else none

/-- The word for the integer is that integer. -/
theorem toInt_of_word? {i : Int} {value : Int64} (found : word? i = some value) :
    value.toInt = i := by
  unfold word? at found
  split at found
  · rename_i bounds
    cases found
    exact Int64.toInt_ofInt_of_le bounds.1 (Int.lt_add_one_of_le bounds.2)
  · cases found

/-- Every word is the word for its integer. -/
@[simp] theorem word?_toInt (value : Int64) : word? value.toInt = some value := by
  have bounds : Int64.minValue.toInt ≤ value.toInt ∧ value.toInt ≤ Int64.maxValue.toInt :=
    ⟨Int64.minValue_le_toInt value, Int64.toInt_le value⟩
  rw [word?, if_pos bounds, Int64.ofInt_toInt]

/-- The integers without a word are those outside the range of words. -/
theorem word?_eq_none_iff {i : Int} :
    word? i = none ↔ i < Int64.minValue.toInt ∨ Int64.maxValue.toInt < i := by
  unfold word?
  split
  · rename_i bounds
    constructor
    · intro none
      cases none
    · intro outside
      omega
  · rename_i outside
    constructor
    · intro _
      omega
    · intro _
      rfl

namespace Value

/-- An integer value, or an overflow. -/
def ofInt (i : Int) : Except EvalError Value :=
  match word? i with
  | some value => .ok (int value)
  | none => .error .overflow

end Value

namespace Operator

/-- The result of an operator on integers; division truncates toward zero. -/
def onInts : Operator → Int → Int → Except EvalError Value
  | add, left, right => Value.ofInt (left + right)
  | subtract, left, right => Value.ofInt (left - right)
  | multiply, left, right => Value.ofInt (left * right)
  | divide, left, right =>
      if right = 0 then .error .divisionByZero else Value.ofInt (left.tdiv right)

/-- The result of an operator on floating point numbers. -/
def onFloats : Operator → Float → Float → Float
  | add, left, right => left + right
  | subtract, left, right => left - right
  | multiply, left, right => left * right
  | divide, left, right => left / right

/-- The result of an operator on two values. -/
def apply : Operator → Value → Value → Except EvalError Value
  | operator, .int left, .int right => operator.onInts left.toInt right.toInt
  | operator, .int left, .float right => .ok (.float (operator.onFloats left.toFloat right))
  | operator, .float left, .int right => .ok (.float (operator.onFloats left right.toFloat))
  | operator, .float left, .float right => .ok (.float (operator.onFloats left right))
  | add, .string left, .string right => .ok (.string (left ++ right))
  | add, .list left, .list right => .ok (.list (left ++ right))
  | operator, left, right => .error (.operandTypes operator left.typeName right.typeName)

end Operator

namespace Value

/-- The negative of a number. -/
def negate : Value → Except EvalError Value
  | int value => Value.ofInt (-value.toInt)
  | float value => .ok (float (-value))
  | value => .error (.operandType value.typeName)

end Value

end Console
