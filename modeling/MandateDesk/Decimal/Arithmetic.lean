import MandateDesk.Decimal.Rounding

/-!
# Sums and products of decimal numbers

`add?`, `sub?` and `mul?` compute the exact result and round it to fit; they
fail when the result is out of range. A zero operand of a sum leaves the other
one as it is, with its own scale, and a product with a zero has no fraction
digits.

The saturating forms answer the largest or the smallest number instead of
failing.
-/

namespace MandateDesk.Decimal

/-- Bound of the mantissas that fit one word: two to the power of 32. -/
abbrev wordBound : Nat := 4294967296

/-- Whether the mantissas of two numbers fit one word each. -/
def bothShort (first second : Decimal) : Bool :=
  first.mantissa < wordBound && second.mantissa < wordBound

/--
The sum of two numbers that are not zero. A sum that vanishes has no sign and
keeps the larger scale.
-/
def addNonzero (first second : Decimal) : Option Decimal :=
  let scale := max first.scale second.scale
  let total :=
    first.numerator * tenTo (scale - first.scale) +
      second.numerator * tenTo (scale - second.scale)
  if total = 0 then
    some
      ⟨false, 0, scale, mantissaBound_pos,
        Nat.max_le.mpr ⟨first.scale_le, second.scale_le⟩⟩
  else fit (total < 0) total.natAbs scale

/-- The sum, or nothing when it is out of range. -/
def add? (first second : Decimal) : Option Decimal :=
  if first.isZero then some second
  else if second.isZero then some first
  else addNonzero first second

/-- The difference, or nothing when it is out of range. -/
def sub? (first second : Decimal) : Option Decimal :=
  if first.isZero then
    some (if second.isZero then second else second.opposite)
  else if second.isZero then some first
  else addNonzero first second.opposite

/-- The product of two numbers, rounded to fit, with the sign of both. -/
def product? (first second : Decimal) : Option Decimal :=
  fit (first.negative != second.negative)
    (first.mantissa * second.mantissa) (first.scale + second.scale)

/--
The product, or nothing when it is out of range. Two mantissas of one word
each with more than 47 fraction digits together count as zero, and a product
of such mantissas has no sign when it vanishes.
-/
def mul? (first second : Decimal) : Option Decimal :=
  if first.isZero || second.isZero then some zero
  else if bothShort first second then
    if 47 < first.scale + second.scale then some zero
    else (product? first second).map withoutZeroSign
  else product? first second

/-- The number at the end of the range on the side of a sign. -/
def limit (negative : Bool) : Decimal :=
  if negative then smallest else largest

/-- The sum, or the end of the range on the side of the first number. -/
def saturatingAdd (first second : Decimal) : Decimal :=
  (add? first second).getD (limit first.negative)

/-- The difference, or the end of the range on the side of the first number. -/
def saturatingSub (first second : Decimal) : Decimal :=
  (sub? first second).getD (limit first.negative)

/-- The product, or the end of the range on the side of its sign. -/
def saturatingMul (first second : Decimal) : Decimal :=
  (mul? first second).getD (limit (first.negative != second.negative))

theorem add?_zero_left
    {first : Decimal}
    (second : Decimal)
    (absent : first.isZero = true) :
    add? first second = some second := by
  simp [add?, absent]

theorem mul?_zero_left
    {first : Decimal}
    (second : Decimal)
    (absent : first.isZero = true) :
    mul? first second = some zero := by
  simp [mul?, absent]

end MandateDesk.Decimal
