import MandateDesk.Decimal.Basic

/-!
# Rounding to the representable numbers

An exact result may have too many digits for a mantissa or too many fraction
digits. `fit` drops the fewest fraction digits after which a result can be
represented, rounding once from the exact value, a half to the even neighbour.
It fails when a result has too many digits in front of the point.

A result that needs no dropping is kept as it is, and its sign always is, also
where nothing else is left of a result.
-/

namespace MandateDesk.Decimal

/-- A quotient of natural numbers, rounded to the nearest, halves to even. -/
def roundHalfEven (number divisor : Nat) : Nat :=
  let quotient := number / divisor
  let twice := 2 * (number % divisor)
  if twice > divisor ∨ (twice = divisor ∧ quotient % 2 = 1) then
    quotient + 1
  else quotient

/-- A number of given parts whose sign is dropped when it is zero. -/
def signed
    (negative : Bool)
    (mantissa scale : Nat)
    (mantissa_lt : mantissa < mantissaBound)
    (scale_le : scale ≤ 28) :
    Decimal :=
  ⟨negative && mantissa != 0, mantissa, scale, mantissa_lt, scale_le⟩

/-- The same number, whose sign is dropped when it is zero. -/
def withoutZeroSign (number : Decimal) : Decimal :=
  signed number.negative number.mantissa number.scale number.mantissa_lt
    number.scale_le

/--
The number with `exact / 10 ^ scale` as its magnitude, rounded to at most
`kept` fraction digits, and to fewer only where it would not fit.
-/
def fitAt
    (negative : Bool)
    (exact scale : Nat) :
    (kept : Nat) → kept ≤ 28 → Option Decimal
  | 0, bounded =>
    let rounded := roundHalfEven exact (tenTo scale)
    if fits : rounded < mantissaBound then
      some ⟨negative, rounded, 0, fits, bounded⟩
    else none
  | kept + 1, bounded =>
    let rounded := roundHalfEven exact (tenTo (scale - (kept + 1)))
    if fits : rounded < mantissaBound then
      some ⟨negative, rounded, kept + 1, fits, bounded⟩
    else fitAt negative exact scale kept (by omega)

/-- The number with `exact / 10 ^ scale` as its magnitude, rounded to fit. -/
def fit (negative : Bool) (exact scale : Nat) : Option Decimal :=
  fitAt negative exact scale (min scale 28) (Nat.min_le_right _ _)

theorem roundHalfEven_one (number : Nat) : roundHalfEven number 1 = number := by
  simp [roundHalfEven, Nat.mod_one]

@[simp]
theorem numerator_signed
    (negative : Bool)
    (mantissa scale : Nat)
    (mantissa_lt : mantissa < mantissaBound)
    (scale_le : scale ≤ 28) :
    (signed negative mantissa scale mantissa_lt scale_le).numerator =
      if negative then -(mantissa : Int) else mantissa := by
  cases negative with
  | false => rfl
  | true =>
    by_cases absent : mantissa = 0
    · subst absent
      rfl
    · simp [signed, numerator, absent]

/-- Without the sign of a zero a number has the same value. -/
@[simp]
theorem numerator_withoutZeroSign
    (number : Decimal) :
    number.withoutZeroSign.numerator = number.numerator := by
  unfold withoutZeroSign
  rw [numerator_signed]
  rfl

/-- A result that fits as it is is not rounded. -/
theorem fit_of_fits
    (negative : Bool)
    {exact scale : Nat}
    (exact_lt : exact < mantissaBound)
    (scale_le : scale ≤ 28) :
    fit negative exact scale =
      some ⟨negative, exact, scale, exact_lt, scale_le⟩ := by
  unfold fit
  simp only [Nat.min_eq_left scale_le]
  cases scale with
  | zero =>
    simp only [fitAt, tenTo_zero, roundHalfEven_one, dif_pos exact_lt]
  | succ kept =>
    simp only [fitAt, Nat.sub_self, tenTo_zero, roundHalfEven_one,
      dif_pos exact_lt]

example : roundHalfEven 25 10 = 2 ∧ roundHalfEven 35 10 = 4 := by decide

end MandateDesk.Decimal
