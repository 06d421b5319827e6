import MandateDesk.Proofs.Rounding
import MandateDesk.Proofs.Sums
import Mathlib.Data.Nat.Find

/-!
# Correct rounding

What an operation answers depends on its exact result only: `rounded?` is the
exact result, rounded once to the nearest number with the most fraction digits
that fit, a half to the even one.  Sums, differences and products are rounded
this way; whatever the scales of the operands, only their values matter.

Rounding never turns an order around, and what fits still fits when it is
closer to zero.  So every figure that is computed by these operations grows
and shrinks with what it is computed from, to the very edge of the range; and
so do the results that saturate, which are the largest number where nothing
fits.
-/

namespace MandateDesk.Decimal

/-! ## The nearest whole number -/

/-- Rounding looks at the quotient only. -/
theorem roundHalfEven_congr
    {number divisor other base : Nat}
    (positive : 0 < divisor)
    (positive' : 0 < base)
    (same : number * base = other * divisor) :
    roundHalfEven number divisor = roundHalfEven other base := by
  rw [← roundHalfEven_mul_mul number divisor positive', same,
    Nat.mul_comm divisor base, roundHalfEven_mul_mul other base positive]

/-- A larger quotient is not rounded to a smaller number. -/
theorem roundHalfEven_mono
    {number divisor other base : Nat}
    (positive : 0 < divisor)
    (positive' : 0 < base)
    (le : number * base ≤ other * divisor) :
    roundHalfEven number divisor ≤ roundHalfEven other base := by
  rcases Nat.lt_or_eq_of_le le with less | same
  · have low := Nat.mul_le_mul_right base
      (le_two_mul_of_roundHalfEven number divisor)
    have high := Nat.mul_le_mul_right divisor
      (two_mul_le_of_roundHalfEven other positive')
    -- two halves of a unit are not enough for a whole one
    have apart :
        roundHalfEven number divisor * (divisor * base) <
          (roundHalfEven other base + 1) * (divisor * base) := by
      linarith
    exact Nat.le_of_lt_succ (Nat.lt_of_mul_lt_mul_right apart)
  · exact Nat.le_of_eq (roundHalfEven_congr positive positive' same)

/-- The natural number nearest to the size of a figure, a half to the even. -/
def halfEven (figure : ℚ) : Nat :=
  roundHalfEven figure.num.natAbs figure.den

theorem size_eq (figure : ℚ) :
    |figure| = (figure.num.natAbs : ℚ) / (figure.den : ℚ) := by
  conv_lhs => rw [← Rat.num_div_den figure]
  rw [abs_div, Nat.abs_cast, ← Int.cast_abs, Int.abs_eq_natAbs]
  rfl

theorem den_cast_pos (figure : ℚ) : (0 : ℚ) < (figure.den : ℚ) := by
  exact_mod_cast figure.den_pos

/-- The size may be written as any fraction. -/
theorem halfEven_eq
    {figure : ℚ}
    {number divisor : Nat}
    (positive : 0 < divisor)
    (size : |figure| = (number : ℚ) / (divisor : ℚ)) :
    halfEven figure = roundHalfEven number divisor := by
  have wide : (0 : ℚ) < (divisor : ℚ) := by exact_mod_cast positive
  rw [size_eq, div_eq_div_iff (den_cast_pos figure).ne' wide.ne'] at size
  exact roundHalfEven_congr figure.den_pos positive (by exact_mod_cast size)

theorem halfEven_mono
    {first second : ℚ}
    (le : |first| ≤ |second|) :
    halfEven first ≤ halfEven second := by
  rw [size_eq first, size_eq second,
    div_le_div_iff₀ (den_cast_pos first) (den_cast_pos second)] at le
  exact roundHalfEven_mono first.den_pos second.den_pos (by exact_mod_cast le)

theorem halfEven_congr
    {first second : ℚ}
    (same : |first| = |second|) :
    halfEven first = halfEven second :=
  Nat.le_antisymm (halfEven_mono same.le) (halfEven_mono same.ge)

theorem halfEven_natCast (number : Nat) : halfEven (number : ℚ) = number := by
  have size : |(number : ℚ)| = (number : ℚ) / ((1 : Nat) : ℚ) := by
    rw [Nat.abs_cast, Nat.cast_one, div_one]
  rw [halfEven_eq Nat.one_pos size, roundHalfEven_one]

theorem halfEven_le_size (figure : ℚ) :
    2 * (halfEven figure : ℚ) ≤ 2 * |figure| + 1 := by
  have below := le_two_mul_of_roundHalfEven figure.num.natAbs figure.den
  have cast :
      2 * (halfEven figure : ℚ) * figure.den ≤
        2 * (figure.num.natAbs : ℚ) + figure.den := by
    exact_mod_cast below
  rw [size_eq, ← mul_div_assoc, ← sub_le_iff_le_add,
    le_div_iff₀ (den_cast_pos figure)]
  linarith

/-! ## The digits that fit -/

/-- Whether a figure fits a mantissa with so many fraction digits. -/
def FitsWith (figure : ℚ) (digits : Nat) : Prop :=
  halfEven (figure * tenTo digits) < mantissaBound

instance (figure : ℚ) (digits : Nat) : Decidable (FitsWith figure digits) :=
  inferInstanceAs (Decidable (_ < _))

/-- The most fraction digits with which a figure fits. -/
def mostFitting (figure : ℚ) : Nat :=
  Nat.findGreatest (FitsWith figure) 28

/-- The size of a figure, rounded to the most fraction digits that fit. -/
def nearest? (figure : ℚ) : Option ℚ :=
  if FitsWith figure 0 then
    some
      ((halfEven (figure * tenTo (mostFitting figure)) : ℚ) /
        (tenTo (mostFitting figure) : ℚ))
  else none

theorem FitsWith.mono
    {first second : ℚ}
    {few many : Nat}
    (fits : FitsWith second many)
    (le : |first| ≤ |second|)
    (fewer : few ≤ many) :
    FitsWith first few := by
  refine Nat.lt_of_le_of_lt (halfEven_mono ?_) fits
  rw [abs_mul, abs_mul, Nat.abs_cast, Nat.abs_cast]
  have powers : (tenTo few : ℚ) ≤ (tenTo many : ℚ) := by
    exact_mod_cast Nat.pow_le_pow_right (by decide) fewer
  exact mul_le_mul le powers (tenTo_cast_pos few).le (abs_nonneg second)

/-- Digits that fit where no further one does are the most that fit. -/
theorem nearest?_eq
    {figure : ℚ}
    {digits : Nat}
    (fits : FitsWith figure digits)
    (within : digits ≤ 28)
    (full : digits < 28 → ¬ FitsWith figure (digits + 1)) :
    nearest? figure =
      some
        ((halfEven (figure * tenTo digits) : ℚ) / (tenTo digits : ℚ)) := by
  have most : mostFitting figure = digits := by
    apply Nat.le_antisymm
    · refine Nat.le_of_not_lt fun more => ?_
      have reached : FitsWith figure (mostFitting figure) :=
        Nat.findGreatest_spec within fits
      have bounded : mostFitting figure ≤ 28 := Nat.findGreatest_le 28
      exact full (Nat.lt_of_lt_of_le more bounded)
        (reached.mono le_rfl more)
    · exact Nat.le_findGreatest within fits
  unfold nearest?
  rw [if_pos (fits.mono le_rfl (Nat.zero_le digits)), most]

theorem nearest?_eq_none
    {figure : ℚ}
    (large : ¬ FitsWith figure 0) :
    nearest? figure = none :=
  if_neg large

/-- A number fits with the digits that it has. -/
theorem fitsWith_value (number : Decimal) :
    FitsWith number.value number.scale ∧
      halfEven (number.value * tenTo number.scale) = number.mantissa := by
  have size :
      |number.value * (tenTo number.scale : ℚ)| = |(number.mantissa : ℚ)| := by
    rw [abs_mul, abs_value, Nat.abs_cast, Nat.abs_cast,
      div_mul_cancel₀ _ (tenTo_cast_pos _).ne']
  have whole :
      halfEven (number.value * tenTo number.scale) = number.mantissa :=
    (halfEven_congr size).trans (halfEven_natCast _)
  refine ⟨?_, whole⟩
  unfold FitsWith
  rw [whole]
  exact number.mantissa_lt

/-- A number is its own nearest one. -/
theorem nearest?_value (number : Decimal) :
    nearest? number.value = some |number.value| := by
  rcases fitsWith_value number with ⟨fits, whole⟩
  have reached : FitsWith number.value (mostFitting number.value) :=
    Nat.findGreatest_spec number.scale_le fits
  have more : number.scale ≤ mostFitting number.value :=
    Nat.le_findGreatest number.scale_le fits
  -- the further digits are zeros
  have size :
      |number.value * (tenTo (mostFitting number.value) : ℚ)| =
        |((number.mantissa *
          tenTo (mostFitting number.value - number.scale) : Nat) : ℚ)| := by
    have powers := tenTo_add (mostFitting number.value - number.scale)
      number.scale
    rw [Nat.sub_add_cancel more] at powers
    rw [abs_mul, abs_value, Nat.abs_cast, Nat.abs_cast, powers, Nat.cast_mul,
      Nat.cast_mul, div_mul_eq_mul_div, ← mul_assoc,
      mul_div_cancel_right₀ _ (tenTo_cast_pos _).ne']
  have digits :
      halfEven (number.value * tenTo (mostFitting number.value)) =
        number.mantissa *
          tenTo (mostFitting number.value - number.scale) :=
    (halfEven_congr size).trans (halfEven_natCast _)
  unfold nearest?
  rw [if_pos (fits.mono le_rfl (Nat.zero_le _)), digits, ← Nat.abs_cast,
    ← size, abs_mul, Nat.abs_cast,
    mul_div_cancel_right₀ _ (tenTo_cast_pos _).ne']

/-- Where a digit had to be dropped, the others nearly fill the mantissa. -/
theorem mantissaBound_le_of_not_fitsWith
    {figure : ℚ}
    {digits : Nat}
    (large : ¬ FitsWith figure (digits + 1)) :
    mantissaBound ≤ halfEven (figure * tenTo digits) * 10 := by
  have size :
      |figure * (tenTo digits : ℚ)| =
        ((figure * tenTo (digits + 1)).num.natAbs : ℚ) /
          (((figure * tenTo (digits + 1)).den * 10 : Nat) : ℚ) := by
    rw [Nat.cast_mul, ← div_div, ← size_eq, tenTo_succ, Nat.cast_mul,
      ← mul_assoc, abs_mul _ ((10 : Nat) : ℚ), Nat.abs_cast,
      mul_div_cancel_right₀ _ (by norm_num)]
  rw [halfEven_eq (Nat.mul_pos (Rat.den_pos _) (by decide)) size]
  exact mantissaBound_le_of_dropped (Rat.den_pos _) (Nat.le_of_not_lt large)

/-- What is closer to zero is not rounded to a larger size, and it fits. -/
theorem nearest?_mono
    {first second rounded : ℚ}
    (le : |first| ≤ |second|)
    (fits : nearest? second = some rounded) :
    ∃ size, nearest? first = some size ∧ size ≤ rounded := by
  unfold nearest? at fits
  split at fits
  · rename_i whole
    cases fits
    have most : mostFitting second ≤ 28 := Nat.findGreatest_le 28
    have reached : FitsWith second (mostFitting second) :=
      Nat.findGreatest_spec (Nat.zero_le 28) whole
    have enough : FitsWith first (mostFitting second) :=
      reached.mono le le_rfl
    have more : mostFitting second ≤ mostFitting first :=
      Nat.le_findGreatest most enough
    unfold nearest?
    rw [if_pos (whole.mono le le_rfl)]
    refine ⟨_, rfl, ?_⟩
    rcases Nat.lt_or_eq_of_le more with longer | same
    · have large : ¬ FitsWith second (mostFitting second + 1) :=
        Nat.findGreatest_is_greatest (Nat.lt_succ_self _)
          (Nat.le_trans longer (Nat.findGreatest_le 28))
      have short : FitsWith first (mostFitting first) :=
        Nat.findGreatest_spec most enough
      -- both are compared with the least size that has no room for the digit
      calc
        (halfEven (first * tenTo (mostFitting first)) : ℚ) /
              (tenTo (mostFitting first) : ℚ)
            ≤ (mantissaBound : ℚ) /
                (tenTo (mostFitting second + 1) : ℚ) := by
          apply div_le_div₀ (by positivity) _ (tenTo_cast_pos _)
          · exact_mod_cast Nat.pow_le_pow_right (by decide) longer
          · exact_mod_cast Nat.le_of_lt short
        _ ≤ (halfEven (second * tenTo (mostFitting second)) : ℚ) /
              (tenTo (mostFitting second) : ℚ) := by
          rw [div_le_div_iff₀ (tenTo_cast_pos _) (tenTo_cast_pos _),
            tenTo_succ, Nat.mul_comm (tenTo _), Nat.cast_mul, ← mul_assoc]
          apply mul_le_mul_of_nonneg_right _ (tenTo_cast_pos _).le
          exact_mod_cast mantissaBound_le_of_not_fitsWith large
    · rw [← same, div_le_div_iff_of_pos_right (tenTo_cast_pos _)]
      exact_mod_cast halfEven_mono (by
        rw [abs_mul, abs_mul]
        exact mul_le_mul_of_nonneg_right le (abs_nonneg _))
  · contradiction

/-- The size alone decides on how a figure is rounded. -/
theorem nearest?_congr
    {first second : ℚ}
    (same : |first| = |second|) :
    nearest? first = nearest? second := by
  have digits (count : Nat) :
      halfEven (first * tenTo count) = halfEven (second * tenTo count) := by
    apply halfEven_congr
    rw [abs_mul, abs_mul, same]
  have fits : FitsWith first = FitsWith second := by
    funext count
    unfold FitsWith
    rw [digits]
  unfold nearest? mostFitting
  simp only [fits, digits]

theorem nearest?_nonneg
    {figure size : ℚ}
    (fits : nearest? figure = some size) :
    0 ≤ size := by
  unfold nearest? at fits
  split at fits
  · cases fits
    positivity
  · contradiction

/-! ## Rounded results -/

/-- The exact result of an operation, rounded once. -/
def rounded? (figure : ℚ) : Option ℚ :=
  (nearest? figure).map fun size => if figure < 0 then -size else size

/-- A result that is representable is not rounded. -/
theorem rounded?_value (number : Decimal) :
    rounded? number.value = some number.value := by
  unfold rounded?
  rw [nearest?_value, Option.map_some]
  split
  · rename_i below
    rw [abs_of_neg below, neg_neg]
  · rename_i above
    rw [abs_of_nonneg (le_of_not_gt above)]

/-- Rounding does not turn an order around. -/
theorem rounded?_mono
    {first second lower upper : ℚ}
    (le : first ≤ second)
    (low : rounded? first = some lower)
    (high : rounded? second = some upper) :
    lower ≤ upper := by
  rcases Option.map_eq_some_iff.mp low with ⟨small, fits, rfl⟩
  rcases Option.map_eq_some_iff.mp high with ⟨large, fits', rfl⟩
  have nonneg := nearest?_nonneg fits
  have nonneg' := nearest?_nonneg fits'
  by_cases below : first < 0
  · rw [if_pos below]
    by_cases under : second < 0
    · rw [if_pos under, neg_le_neg_iff]
      have size : |second| ≤ |first| := by
        rw [abs_of_neg below, abs_of_neg under]
        exact neg_le_neg le
      rcases nearest?_mono size fits with ⟨_, known, smaller⟩
      rw [fits'] at known
      cases known
      exact smaller
    · rw [if_neg under]
      linarith
  · have above : ¬ second < 0 := fun under => below (le.trans_lt under)
    rw [if_neg below, if_neg above]
    have size : |first| ≤ |second| := by
      rw [abs_of_nonneg (le_of_not_gt below),
        abs_of_nonneg (le_of_not_gt above)]
      exact le
    rcases nearest?_mono size fits' with ⟨_, known, smaller⟩
    rw [fits] at known
    cases known
    exact smaller

/-! ## What the operations answer -/

theorem value_eq_signed_size (number : Decimal) :
    number.value =
      if number.negative = true then -|number.value| else |number.value| := by
  rw [abs_value]
  unfold value numerator
  split
  · rw [Int.cast_neg, Int.cast_natCast, neg_div]
  · rw [Int.cast_natCast]

/-- A number whose exact size is a fraction fits as the figure that it is. -/
theorem value_fit
    {figure : ℚ}
    {negative : Bool}
    {exact scale : Nat}
    (size : |figure| = (exact : ℚ) / (tenTo scale : ℚ))
    (sign : negative = decide (figure < 0)) :
    (fit negative exact scale).map value = rounded? figure := by
  have digits {count : Nat} (fewer : count ≤ scale) :
      halfEven (figure * tenTo count) =
        roundHalfEven exact (tenTo (scale - count)) := by
    apply halfEven_eq (tenTo_pos _)
    have powers := tenTo_add (scale - count) count
    rw [Nat.sub_add_cancel fewer] at powers
    rw [abs_mul, size, Nat.abs_cast, powers, Nat.cast_mul,
      div_mul_eq_mul_div, mul_div_mul_right _ _ (tenTo_cast_pos _).ne']
  cases fitted : fit negative exact scale with
  | none =>
    have wide := mantissaBound_le_of_fitAt fitted
    have large : ¬ FitsWith figure 0 := by
      unfold FitsWith
      rw [digits (Nat.zero_le _), Nat.sub_zero]
      exact Nat.not_lt.mpr wide
    unfold rounded?
    rw [nearest?_eq_none large]
    rfl
  | some result =>
    have rounds : Rounds negative exact scale (min scale 28) result :=
      rounds_of_fitAt fitted
    have kept : result.scale ≤ scale :=
      Nat.le_trans rounds.scale_le (Nat.min_le_left _ _)
    have nearest : nearest? figure = some |result.value| := by
      by_cases whole : result.scale = scale
      · -- nothing is dropped
        have mantissa := rounds.nearest
        rw [whole, Nat.sub_self, tenTo_zero, roundHalfEven_one] at mantissa
        have same : |figure| = |result.value| := by
          rw [size, abs_value, mantissa, whole]
        rw [nearest?_congr same, nearest?_value]
      · have mantissa := (digits kept).trans rounds.nearest.symm
        rw [abs_value, ← mantissa]
        apply nearest?_eq
        · unfold FitsWith
          rw [mantissa]
          exact result.mantissa_lt
        · exact result.scale_le
        · intro fewer
          unfold FitsWith
          rw [digits (by omega)]
          exact Nat.not_lt.mpr (rounds.full (by omega))
    unfold rounded?
    rw [nearest, Option.map_some, Option.map_some, Option.some.injEq]
    have signed := rounds.sign.trans sign
    have shape := value_eq_signed_size result
    simp only [signed, decide_eq_true_eq] at shape
    exact shape

/-- An operation answers an exact result: with its value, rounded once. -/
def Answers (computed : Option Decimal) (figure : ℚ) : Prop :=
  computed.map value = rounded? figure

theorem answers_addNonzero
    (first second : Decimal) :
    Answers (addNonzero first second) (first.value + second.value) := by
  have sum := value_add_value first second
  have wide := tenTo_cast_pos (max first.scale second.scale)
  unfold Answers addNonzero
  show (if total first second = 0 then _
      else fit (total first second < 0) (total first second).natAbs
        _).map value = _
  split
  · rename_i vanished
    rw [sum, vanished, Int.cast_zero, zero_div, ← value_zero, rounded?_value,
      Option.map_some, Option.some.injEq, value_zero, value_eq_zero_iff]
    rfl
  · apply value_fit (abs_value_add_value first second)
    rw [sum, decide_eq_decide, div_lt_iff₀ wide, zero_mul]
    exact_mod_cast Iff.rfl

/-- A sum is the exact one, rounded once. -/
theorem answers_add?
    (first second : Decimal) :
    Answers (first.add? second) (first.value + second.value) := by
  unfold Answers add?
  split
  · rename_i absent
    rw [(value_eq_zero_iff first).mpr absent, zero_add, rounded?_value]
    rfl
  · split
    · rename_i absent
      rw [(value_eq_zero_iff second).mpr absent, add_zero, rounded?_value]
      rfl
    · exact answers_addNonzero first second

/-- A difference is the exact one, rounded once. -/
theorem answers_sub?
    (first second : Decimal) :
    Answers (first.sub? second) (first.value - second.value) := by
  unfold Answers sub?
  split
  · rename_i absent
    rw [(value_eq_zero_iff first).mpr absent, zero_sub, ← value_opposite,
      rounded?_value, Option.map_some, Option.some.injEq]
    split
    · rename_i vanished
      rw [value_opposite, (value_eq_zero_iff second).mpr vanished, neg_zero]
    · rfl
  · split
    · rename_i absent
      rw [(value_eq_zero_iff second).mpr absent, sub_zero, rounded?_value]
      rfl
    · rw [sub_eq_add_neg, ← value_opposite]
      exact answers_addNonzero first second.opposite

/-- What is not zero has the sign of its value. -/
theorem negative_eq
    {number : Decimal}
    (present : number.isZero = false) :
    number.negative = decide (number.value < 0) := by
  rw [isZero, beq_eq_false_iff_ne] at present
  rw [Bool.eq_iff_iff, decide_eq_true_eq, ← value_zero, value_lt_iff,
    lt_zero_iff, and_iff_left present]

/-- Two numbers that are not zero differ in sign if their product is below. -/
theorem negative_bne_eq
    {first second : Decimal}
    (one : first.isZero = false)
    (other : second.isZero = false) :
    (first.negative != second.negative) =
      decide (first.value * second.value < 0) := by
  have apart {number : Decimal} (present : number.isZero = false) :
      number.value ≠ 0 := by
    rw [Ne, value_eq_zero_iff, present]
    exact Bool.false_ne_true
  rw [negative_eq one, negative_eq other]
  rcases lt_or_gt_of_ne (apart one) with low | high
  · rcases lt_or_gt_of_ne (apart other) with down | up
    · rw [decide_eq_true low, decide_eq_true down,
        decide_eq_false (mul_pos_of_neg_of_neg low down).not_gt]
      rfl
    · rw [decide_eq_true low, decide_eq_false up.not_gt,
        decide_eq_true (mul_neg_of_neg_of_pos low up)]
      rfl
  · rcases lt_or_gt_of_ne (apart other) with down | up
    · rw [decide_eq_false high.not_gt, decide_eq_true down,
        decide_eq_true (mul_neg_of_pos_of_neg high down)]
      rfl
    · rw [decide_eq_false high.not_gt, decide_eq_false up.not_gt,
        decide_eq_false (mul_pos high up).not_gt]
      rfl

theorem answers_product?
    {first second : Decimal}
    (one : first.isZero = false)
    (other : second.isZero = false) :
    Answers (product? first second) (first.value * second.value) := by
  apply value_fit
  · rw [abs_mul, abs_value, abs_value, div_mul_div_comm, tenTo_add,
      Nat.cast_mul, Nat.cast_mul]
  · exact negative_bne_eq one other

/-- Short mantissas with so many fraction digits are nearest to zero. -/
theorem rounded?_of_tiny
    {first second : Decimal}
    (short : bothShort first second = true)
    (many : 47 < first.scale + second.scale) :
    rounded? (first.value * second.value) = some 0 := by
  rw [bothShort, Bool.and_eq_true, decide_eq_true_eq, decide_eq_true_eq]
    at short
  have digits : first.mantissa * second.mantissa < wordBound * wordBound :=
    Nat.mul_lt_mul'' short.1 short.2
  have powers : tenTo 20 * tenTo 28 ≤ tenTo (first.scale + second.scale) := by
    rw [← tenTo_add]
    exact Nat.pow_le_pow_right (by decide) many
  have small : 2 * (wordBound * wordBound) < tenTo 20 := by decide
  generalize wordBound * wordBound = words at digits small
  have size :
      2 * |first.value * second.value * (tenTo 28 : ℚ)| < 1 := by
    rw [abs_mul, abs_mul, abs_value, abs_value, div_mul_div_comm,
      Nat.abs_cast, ← Nat.cast_mul, ← Nat.cast_mul, ← tenTo_add,
      div_mul_eq_mul_div, ← mul_div_assoc, div_lt_one (tenTo_cast_pos _)]
    norm_cast
    calc
      2 * (first.mantissa * second.mantissa * tenTo 28)
          ≤ 2 * (words * tenTo 28) :=
        Nat.mul_le_mul_left _ (Nat.mul_le_mul_right _ digits.le)
      _ = 2 * words * tenTo 28 := (Nat.mul_assoc ..).symm
      _ < tenTo 20 * tenTo 28 :=
        Nat.mul_lt_mul_of_pos_right small (tenTo_pos _)
      _ ≤ tenTo (first.scale + second.scale) := powers
  have nothing :
      halfEven (first.value * second.value * (tenTo 28 : ℚ)) = 0 := by
    have near := halfEven_le_size (first.value * second.value * tenTo 28)
    have less :
        (halfEven (first.value * second.value * tenTo 28) : ℚ) < (1 : Nat) := by
      push_cast
      linarith
    exact Nat.lt_one_iff.mp (by exact_mod_cast less)
  have fits : FitsWith (first.value * second.value) 28 := by
    unfold FitsWith
    rw [nothing]
    exact mantissaBound_pos
  unfold rounded?
  rw [nearest?_eq fits le_rfl (fun fewer => absurd fewer (Nat.lt_irrefl _)),
    nothing]
  simp

/-- A product is the exact one, rounded once. -/
theorem answers_mul?
    (first second : Decimal) :
    Answers (first.mul? second) (first.value * second.value) := by
  unfold Answers mul?
  cases vanished : first.isZero || second.isZero with
  | true =>
    have nothing : first.value * second.value = zero.value := by
      rw [value_zero, mul_eq_zero, value_eq_zero_iff, value_eq_zero_iff,
        ← Bool.or_eq_true]
      exact vanished
    rw [nothing, rounded?_value]
    rfl
  | false =>
    rw [Bool.or_eq_false_iff] at vanished
    have product : _ = _ := answers_product? vanished.1 vanished.2
    simp only [Bool.false_eq_true, if_false]
    cases short : bothShort first second with
    | true =>
      rw [if_pos rfl]
      split
      · rename_i many
        rw [rounded?_of_tiny short many, Option.map_some, value_zero]
      · rw [← product, Option.map_map]
        congr 1
        funext number
        exact value_withoutZeroSign number
    | false =>
      rw [if_neg Bool.false_ne_true]
      exact product

/-! ## Two rounded results -/

section Answers

variable {computed other : Option Decimal} {first second : ℚ}
variable {lower upper : Decimal}

/-- A number answers its own value. -/
theorem answers_value (number : Decimal) : Answers (some number) number.value :=
  (rounded?_value number).symm

/-- A representable result is answered without rounding. -/
theorem Answers.exact
    (answers : Answers computed first)
    (representable : Representable first) :
    ∃ result, computed = some result ∧ result.value = first := by
  rcases representable with ⟨number, rfl⟩
  unfold Answers at answers
  rw [rounded?_value] at answers
  exact Option.map_eq_some_iff.mp answers

theorem Answers.mono
    (low : Answers (some lower) first)
    (high : Answers (some upper) second)
    (le : first ≤ second) :
    lower.value ≤ upper.value :=
  rounded?_mono le low.symm high.symm

theorem Answers.nonneg
    (answers : Answers (some lower) first)
    (nonneg : 0 ≤ first) :
    0 ≤ lower.value := by
  have least := (answers_value zero).mono answers (by rwa [value_zero])
  rwa [value_zero] at least

/-- What is closer to zero fits if the other does, and stays closer. -/
theorem Answers.exists_size_le
    (answers : Answers computed first)
    (known : Answers (some upper) second)
    (le : |first| ≤ |second|) :
    ∃ result, computed = some result ∧ |result.value| ≤ |upper.value| := by
  have rounded : rounded? second = some upper.value := known.symm
  rcases Option.map_eq_some_iff.mp rounded with ⟨large, fits, size⟩
  rcases nearest?_mono le fits with ⟨small, smaller, within⟩
  have nonneg := nearest?_nonneg fits
  have nonneg' := nearest?_nonneg smaller
  unfold Answers rounded? at answers
  rw [smaller, Option.map_some] at answers
  rcases Option.map_eq_some_iff.mp answers with ⟨result, found, same⟩
  refine ⟨result, found, ?_⟩
  have sized {figure size : ℚ} (nonneg : 0 ≤ size) :
      |if figure < 0 then -size else size| = size := by
    split
    · rw [abs_neg, abs_of_nonneg nonneg]
    · exact abs_of_nonneg nonneg
  rw [same, ← size, sized nonneg, sized nonneg']
  exact within

/-- Of two results that are not negative the smaller one fits, too. -/
theorem Answers.exists_le
    (answers : Answers computed first)
    (known : Answers (some upper) second)
    (nonneg : 0 ≤ first)
    (le : first ≤ second) :
    ∃ result,
      computed = some result ∧
        0 ≤ result.value ∧ result.value ≤ upper.value := by
  have sizes : |first| ≤ |second| := by
    rwa [abs_of_nonneg nonneg, abs_of_nonneg (nonneg.trans le)]
  rcases answers.exists_size_le known sizes with ⟨result, rfl, _⟩
  exact ⟨result, rfl, answers.nonneg nonneg, answers.mono known le⟩

theorem value_largest : largest.value = ((mantissaBound - 1 : Nat) : ℚ) := by
  rw [value_of_unsigned rfl]
  show _ / ((tenTo 0 : Nat) : ℚ) = _
  rw [tenTo_zero, Nat.cast_one, div_one]
  rfl

theorem value_le_largest (number : Decimal) :
    number.value ≤ largest.value := by
  refine (le_abs_self _).trans ?_
  rw [value_largest, abs_value, div_le_iff₀ (tenTo_cast_pos _)]
  have digits : number.mantissa ≤ mantissaBound - 1 :=
    Nat.le_sub_one_of_lt number.mantissa_lt
  exact_mod_cast
    Nat.le_trans digits (Nat.le_mul_of_pos_right _ (tenTo_pos _))

/-- Results that saturate at the largest number keep their order. -/
theorem Answers.getD_mono
    (low : Answers computed first)
    (high : Answers other second)
    (nonneg : 0 ≤ first)
    (le : first ≤ second) :
    (computed.getD largest).value ≤ (other.getD largest).value := by
  cases known : other with
  | none => exact value_le_largest _
  | some upper =>
    rw [known] at high
    rcases low.exists_le high nonneg le with ⟨result, rfl, _, within⟩
    exact within

end Answers

/-! ## Saturating results -/

section Saturating

variable {first second other : Decimal}

theorem saturatingMul_eq
    (nonneg : 0 ≤ first.value * second.value) :
    first.saturatingMul second = (first.mul? second).getD largest := by
  unfold saturatingMul
  cases multiplied : first.mul? second with
  | some product => rfl
  | none =>
    have present : (first.isZero || second.isZero) = false := by
      rw [Bool.eq_false_iff]
      intro absent
      unfold mul? at multiplied
      rw [if_pos absent] at multiplied
      contradiction
    rw [Bool.or_eq_false_iff] at present
    unfold limit
    rw [Option.getD_none, negative_bne_eq present.1 present.2,
      decide_eq_false (not_lt_of_ge nonneg)]
    rfl

theorem saturatingMul_of_mul?
    (multiplied : first.mul? second = some other) :
    first.saturatingMul second = other := by
  unfold saturatingMul
  rw [multiplied, Option.getD_some]

/-- Products that saturate keep their order. -/
theorem saturatingMul_mono
    (nonneg : 0 ≤ first.value)
    (nonneg' : 0 ≤ second.value)
    (le : second.value ≤ other.value) :
    (first.saturatingMul second).value ≤
      (first.saturatingMul other).value := by
  have small := mul_nonneg nonneg nonneg'
  have ordered := mul_le_mul_of_nonneg_left le nonneg
  rw [saturatingMul_eq small, saturatingMul_eq (small.trans ordered)]
  exact (answers_mul? first second).getD_mono (answers_mul? first other) small
    ordered

theorem saturatingMul_nonneg
    (nonneg : 0 ≤ first.value)
    (nonneg' : 0 ≤ second.value) :
    0 ≤ (first.saturatingMul second).value := by
  rw [saturatingMul_eq (mul_nonneg nonneg nonneg'), ← value_zero]
  exact (answers_value zero).getD_mono (answers_mul? first second)
    value_zero.ge (by
      rw [value_zero]
      exact mul_nonneg nonneg nonneg')

/-- A product that needs no rounding is in range. -/
theorem value_saturatingMul
    (representable : Representable (first.value * second.value)) :
    (first.saturatingMul second).value = first.value * second.value := by
  rcases (answers_mul? first second).exact representable with
    ⟨product, multiplied, same⟩
  rw [saturatingMul_of_mul? multiplied]
  exact same

theorem saturatingAdd_eq
    (nonneg : 0 ≤ first.value) :
    first.saturatingAdd second = (first.add? second).getD largest := by
  unfold saturatingAdd
  cases added : first.add? second with
  | some sum => rfl
  | none =>
    have present : first.isZero = false := by
      rw [Bool.eq_false_iff]
      intro absent
      rw [add?_zero_left second absent] at added
      contradiction
    unfold limit
    rw [Option.getD_none, negative_eq present,
      decide_eq_false (not_lt_of_ge nonneg)]
    rfl

/-- The difference of two numbers that are not negative is in range. -/
theorem sub?_eq_some
    (nonneg : 0 ≤ first.value)
    (nonneg' : 0 ≤ second.value) :
    first.sub? second = some (first.saturatingSub second) := by
  have fits : ∃ result, first.sub? second = some result := by
    have answers := answers_sub? first second
    rcases lt_or_ge first.value second.value with above | below
    · have size : |first.value - second.value| ≤ |second.value| := by
        rw [abs_sub_comm, abs_of_pos (sub_pos.mpr above),
          abs_of_nonneg nonneg']
        exact sub_le_self _ nonneg
      rcases answers.exists_size_le (answers_value second) size with
        ⟨result, taken, _⟩
      exact ⟨result, taken⟩
    · have size : |first.value - second.value| ≤ |first.value| := by
        rw [abs_of_nonneg (sub_nonneg.mpr below), abs_of_nonneg nonneg]
        exact sub_le_self _ nonneg'
      rcases answers.exists_size_le (answers_value first) size with
        ⟨result, taken, _⟩
      exact ⟨result, taken⟩
  rcases fits with ⟨result, taken⟩
  unfold saturatingSub
  rw [taken, Option.getD_some]

theorem answers_saturatingSub
    (nonneg : 0 ≤ first.value)
    (nonneg' : 0 ≤ second.value) :
    Answers (some (first.saturatingSub second))
      (first.value - second.value) :=
  sub?_eq_some nonneg nonneg' ▸ answers_sub? first second

end Saturating

/-! ## The larger and the smaller of two numbers -/

theorem value_pos
    {number : Decimal}
    (positive : zero < number) :
    0 < number.value := by
  rwa [← value_lt_iff, value_zero] at positive

theorem value_max (first second : Decimal) :
    (max first second).value = max first.value second.value := by
  show (if first < second then second else first).value = _
  split
  · rename_i less
    exact (max_eq_right ((value_lt_iff _ _).mpr less).le).symm
  · rename_i more
    rw [not_lt, ← value_le_iff] at more
    exact (max_eq_left more).symm

theorem value_min (first second : Decimal) :
    (min first second).value = min first.value second.value := by
  show (if second < first then second else first).value = _
  split
  · rename_i less
    exact (min_eq_right ((value_lt_iff _ _).mpr less).le).symm
  · rename_i more
    rw [not_lt, ← value_le_iff] at more
    exact (min_eq_left more).symm

end MandateDesk.Decimal
