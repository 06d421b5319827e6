import MandateDesk.Power

/-!
# Decimal numbers

A decimal number is a sign, a mantissa of 96 bits and a scale: the number of
fraction digits, at most 28. Both bounds are part of the type.

Two numbers that differ only in scale have the same value and compare as
equal; the scale and the sign of a zero are visible when a number is written.
The order is that of the values: `first < second` compares the numerators over
the common denominator.
-/

namespace MandateDesk

/-- The bound of mantissas: two to the power of 96. -/
abbrev Decimal.mantissaBound : Nat := 79228162514264337593543950336

/-- A sign, a mantissa of 96 bits and up to 28 fraction digits. -/
structure Decimal where
  /-- Whether the number is written with a minus sign. -/
  negative : Bool
  /-- All digits, without the point. -/
  mantissa : Nat
  /-- Number of digits behind the point. -/
  scale : Nat
  /-- The mantissa has at most 96 bits. -/
  mantissa_lt : mantissa < Decimal.mantissaBound
  /-- There are at most 28 fraction digits. -/
  scale_le : scale ≤ 28
deriving DecidableEq

namespace Decimal

theorem mantissaBound_pos : 0 < mantissaBound := by decide

theorem scale_zero_le : 0 ≤ 28 := by decide

/-- The number zero without fraction digits. -/
def zero : Decimal :=
  ⟨false, 0, 0, mantissaBound_pos, scale_zero_le⟩

instance : Inhabited Decimal :=
  ⟨zero⟩

/-- The number one without fraction digits. -/
def one : Decimal :=
  ⟨false, 1, 0, by decide, scale_zero_le⟩

/-- The largest number. -/
def largest : Decimal :=
  ⟨false, mantissaBound - 1, 0, by decide, scale_zero_le⟩

/-- The smallest number. -/
def smallest : Decimal :=
  ⟨true, mantissaBound - 1, 0, by decide, scale_zero_le⟩

/-- A number with given parts, if they are within bounds. -/
def ofParts? (negative : Bool) (mantissa scale : Nat) : Option Decimal :=
  if bounded : mantissa < mantissaBound ∧ scale ≤ 28 then
    some ⟨negative, mantissa, scale, bounded.1, bounded.2⟩
  else none

/-- The mantissa with the sign of the number. -/
def numerator (number : Decimal) : Int :=
  if number.negative then -(number.mantissa : Int) else number.mantissa

/-- Numerator of the first of two numbers over their common denominator. -/
def aligned (number other : Decimal) : Int :=
  number.numerator * tenTo other.scale

/-- Whether two numbers have the same value, whatever their scales. -/
def SameValue (first second : Decimal) : Prop :=
  first.aligned second = second.aligned first

instance (first second : Decimal) : Decidable (SameValue first second) :=
  inferInstanceAs (Decidable (_ = _))

instance : LT Decimal :=
  ⟨fun first second => first.aligned second < second.aligned first⟩

instance : LE Decimal :=
  ⟨fun first second => first.aligned second ≤ second.aligned first⟩

instance (first second : Decimal) : Decidable (first < second) :=
  inferInstanceAs (Decidable (first.aligned second < second.aligned first))

instance (first second : Decimal) : Decidable (first ≤ second) :=
  inferInstanceAs (Decidable (first.aligned second ≤ second.aligned first))

/-- The larger of two numbers; the first of two with the same value. -/
instance : Max Decimal :=
  ⟨fun first second => if first < second then second else first⟩

/-- The smaller of two numbers; the first of two with the same value. -/
instance : Min Decimal :=
  ⟨fun first second => if second < first then second else first⟩

/-- Whether the value is zero. -/
def isZero (number : Decimal) : Bool :=
  number.mantissa == 0

/-- The number with the other sign, also of a zero. -/
def opposite (number : Decimal) : Decimal :=
  { number with negative := !number.negative }

/-- The number without its sign. -/
def magnitude (number : Decimal) : Decimal :=
  { number with negative := false }

theorem numerator_zero : zero.numerator = 0 :=
  rfl

@[simp]
theorem numerator_opposite
    (number : Decimal) :
    number.opposite.numerator = -number.numerator := by
  cases sign : number.negative <;> simp [numerator, opposite, sign]

@[simp]
theorem numerator_magnitude
    (number : Decimal) :
    number.magnitude.numerator = number.mantissa := by
  simp [numerator, magnitude]

theorem numerator_eq_zero_iff
    (number : Decimal) :
    number.numerator = 0 ↔ number.isZero = true := by
  unfold numerator isZero
  split <;> simp

theorem natAbs_numerator
    (number : Decimal) :
    number.numerator.natAbs = number.mantissa := by
  unfold numerator
  split <;> simp

theorem sameValue_refl (number : Decimal) : SameValue number number :=
  rfl

theorem sameValue_symm
    {first second : Decimal}
    (same : SameValue first second) :
    SameValue second first :=
  Eq.symm same

theorem le_refl (number : Decimal) : number ≤ number :=
  Int.le_refl _

theorem le_total (first second : Decimal) :
    first ≤ second ∨ second ≤ first :=
  Int.le_total _ _

theorem not_le
    {first second : Decimal} :
    ¬ first ≤ second ↔ second < first :=
  Int.not_le

theorem not_lt
    {first second : Decimal} :
    ¬ first < second ↔ second ≤ first :=
  Int.not_lt

theorem le_of_lt
    {first second : Decimal}
    (less : first < second) :
    first ≤ second :=
  Int.le_of_lt less

private theorem denominator_pos (number : Decimal) :
    (0 : Int) < tenTo number.scale :=
  Int.ofNat_lt.mpr (tenTo_pos _)

theorem le_trans
    {first second third : Decimal}
    (lower : first ≤ second)
    (upper : second ≤ third) :
    first ≤ third := by
  have left : first.numerator * tenTo second.scale * tenTo third.scale ≤
      second.numerator * tenTo first.scale * tenTo third.scale :=
    Int.mul_le_mul_of_nonneg_right lower
      (Int.le_of_lt (denominator_pos third))
  have right : second.numerator * tenTo third.scale * tenTo first.scale ≤
      third.numerator * tenTo second.scale * tenTo first.scale :=
    Int.mul_le_mul_of_nonneg_right upper
      (Int.le_of_lt (denominator_pos first))
  have middle : first.numerator * tenTo third.scale * tenTo second.scale ≤
      third.numerator * tenTo first.scale * tenTo second.scale := by
    rw [Int.mul_right_comm first.numerator,
      Int.mul_right_comm third.numerator]
    refine Int.le_trans left ?_
    rw [Int.mul_right_comm second.numerator]
    exact right
  exact Int.le_of_mul_le_mul_right middle (denominator_pos second)

/-- A number is below zero exactly when it has a sign and is not zero. -/
theorem lt_zero_iff
    (number : Decimal) :
    number < zero ↔ number.negative = true ∧ number.mantissa ≠ 0 := by
  show number.numerator * tenTo 0 < 0 * tenTo number.scale ↔ _
  unfold numerator
  cases number.negative with
  | true =>
    have unit : tenTo 0 = 1 := rfl
    simp only [if_true, unit, true_and]
    omega
  | false => simp

/-- A number is above zero exactly when it has no sign and is not zero. -/
theorem zero_lt_iff
    (number : Decimal) :
    zero < number ↔ number.negative = false ∧ number.mantissa ≠ 0 := by
  show 0 * tenTo number.scale < number.numerator * tenTo 0 ↔ _
  unfold numerator
  cases number.negative with
  | true => simp
  | false =>
    have unit : tenTo 0 = 1 := rfl
    simp only [Bool.false_eq_true, if_false, unit, true_and]
    omega

/-- Only zeros have the value zero. -/
theorem sameValue_zero_iff
    (number : Decimal) :
    SameValue number zero ↔ number.isZero = true := by
  show number.numerator * tenTo 0 = 0 * tenTo number.scale ↔ _
  rw [← numerator_eq_zero_iff]
  simp

end Decimal

end MandateDesk
