import MandateDesk.Decimal.Arithmetic
import Mathlib.Algebra.Order.Field.Rat
import Mathlib.Tactic.FieldSimp
import Mathlib.Tactic.Linarith
import Mathlib.Tactic.Positivity
import Mathlib.Tactic.Ring

/-!
# Values, and results that are not rounded

Every decimal number stands for a rational number, its value, and the order of
the numbers is that of their values.  A sum or a product is `Representable`
when some decimal number has its value.  Then the arithmetic gives a number
with exactly that value: dropping the fraction digits that are too many never
loses anything.
-/

namespace MandateDesk.Decimal

/-! ## Values -/

/-- The rational number that a decimal number stands for. -/
def value (number : Decimal) : ℚ :=
  (number.numerator : ℚ) / (tenTo number.scale : ℚ)

/-- A rational number that some decimal number stands for. -/
def Representable (figure : ℚ) : Prop :=
  ∃ number : Decimal, number.value = figure

theorem tenTo_cast_pos (exponent : Nat) :
    (0 : ℚ) < (tenTo exponent : ℚ) := by
  exact_mod_cast tenTo_pos exponent

theorem value_le_iff
    (first second : Decimal) :
    first.value ≤ second.value ↔ first ≤ second := by
  unfold value
  rw [div_le_div_iff₀ (tenTo_cast_pos _) (tenTo_cast_pos _)]
  show _ ↔ first.numerator * tenTo second.scale ≤
    second.numerator * tenTo first.scale
  exact_mod_cast Iff.rfl

theorem value_lt_iff
    (first second : Decimal) :
    first.value < second.value ↔ first < second := by
  rw [← Rat.not_le, value_le_iff, not_le]

@[simp]
theorem value_zero : zero.value = 0 := by
  simp [value, numerator_zero]

@[simp]
theorem value_one : one.value = 1 := by
  simp [value, numerator, one]

theorem value_eq_zero_iff
    (number : Decimal) :
    number.value = 0 ↔ number.isZero = true := by
  rw [← numerator_eq_zero_iff]
  unfold value
  rw [div_eq_zero_iff, or_iff_left (tenTo_cast_pos _).ne']
  exact_mod_cast Iff.rfl

@[simp]
theorem value_opposite
    (number : Decimal) :
    number.opposite.value = -number.value := by
  unfold value
  rw [numerator_opposite, Int.cast_neg, neg_div]
  rfl

/-- The size of a value is the mantissa over the denominator. -/
theorem abs_value
    (number : Decimal) :
    |number.value| = (number.mantissa : ℚ) / (tenTo number.scale : ℚ) := by
  unfold value
  rw [abs_div, abs_of_pos (tenTo_cast_pos _), ← natAbs_numerator]
  rw [← Int.cast_abs, Int.abs_eq_natAbs]
  rfl

@[simp]
theorem value_magnitude
    (number : Decimal) :
    number.magnitude.value = |number.value| := by
  rw [abs_value]
  unfold value
  rw [numerator_magnitude]
  rfl

/-- A sign does not matter for whether a number is representable. -/
theorem representable_abs_iff
    {figure : ℚ} :
    Representable |figure| ↔ Representable figure := by
  constructor
  · intro representable
    rcases representable with ⟨number, same⟩
    rcases abs_choice figure with positive | negative
    · exact ⟨number, same.trans positive⟩
    · refine ⟨number.opposite, ?_⟩
      rw [value_opposite, same, negative, neg_neg]
  · rintro ⟨number, rfl⟩
    exact ⟨number.magnitude, value_magnitude number⟩

theorem representable_natCast
    {number : Nat}
    (small : number < mantissaBound) :
    Representable (number : ℚ) := by
  refine ⟨⟨false, number, 0, small, scale_zero_le⟩, ?_⟩
  simp [value, numerator]

/-! ## Rounding that loses nothing -/

theorem roundHalfEven_mul
    (number : Nat)
    {divisor : Nat}
    (positive : 0 < divisor) :
    roundHalfEven (number * divisor) divisor = number := by
  unfold roundHalfEven
  rw [Nat.mul_mod_left, Nat.mul_div_cancel number positive]
  apply if_neg
  omega

/--
A number with the magnitude `exact / 10 ^ scale` and at most `kept` fraction
digits, of which none was dropped without need.
-/
structure Fitted (negative : Bool) (exact scale kept : Nat)
    (result : Decimal) : Prop where
  sign : result.negative = negative
  same : result.mantissa * tenTo scale = exact * tenTo result.scale
  scale_le : result.scale ≤ kept
  full : result.scale < kept → mantissaBound ≤ result.mantissa * 10

section Digits

variable {mantissa least digits scale : Nat}

/-- Digits that are not needed are zeros. -/
theorem mul_tenTo_sub
    (low : least ≤ digits)
    (high : digits ≤ scale) :
    mantissa * tenTo (scale - least) =
      mantissa * tenTo (digits - least) * tenTo (scale - digits) := by
  rw [Nat.mul_assoc, ← tenTo_add]
  congr 2
  omega

theorem roundHalfEven_of_kept
    (low : least ≤ digits)
    (high : digits ≤ scale) :
    roundHalfEven (mantissa * tenTo (scale - least))
        (tenTo (scale - digits)) =
      mantissa * tenTo (digits - least) := by
  rw [mul_tenTo_sub low high]
  exact roundHalfEven_mul _ (tenTo_pos _)

theorem same_of_kept
    (low : least ≤ digits)
    (high : digits ≤ scale) :
    mantissa * tenTo (digits - least) * tenTo scale =
      mantissa * tenTo (scale - least) * tenTo digits := by
  rw [mul_tenTo_sub low high, Nat.mul_assoc _ _ (tenTo digits), ← tenTo_add,
    Nat.sub_add_cancel high]

/-- The digits that are kept are those of the exact result. -/
theorem Fitted.mantissa_eq
    {negative : Bool}
    {kept : Nat}
    {result : Decimal}
    (fitted :
      Fitted negative (mantissa * tenTo (scale - least)) scale kept result)
    (low : least ≤ result.scale)
    (high : result.scale ≤ scale) :
    result.mantissa = mantissa * tenTo (result.scale - least) := by
  apply Nat.eq_of_mul_eq_mul_right (tenTo_pos scale)
  rw [fitted.same]
  exact (same_of_kept low high).symm

end Digits

/-- As long as the digits of an exact result are kept, fitting loses nothing. -/
theorem exists_fitAt
    (negative : Bool)
    {mantissa least scale kept : Nat}
    (small : mantissa < mantissaBound)
    (needed : least ≤ kept)
    (within : kept ≤ scale)
    (bounded : kept ≤ 28) :
    ∃ result,
      fitAt negative (mantissa * tenTo (scale - least)) scale kept bounded =
        some result ∧
      Fitted negative (mantissa * tenTo (scale - least)) scale kept
        result := by
  induction kept with
  | zero =>
    have exact :
        roundHalfEven (mantissa * tenTo (scale - least)) (tenTo scale) =
          mantissa * tenTo (0 - least) :=
      roundHalfEven_of_kept needed within
    have fits : mantissa * tenTo (0 - least) < mantissaBound := by
      rw [Nat.zero_sub]
      simpa using small
    unfold fitAt
    simp only [exact, dif_pos fits]
    exact ⟨_, rfl, rfl, same_of_kept needed within, Nat.le_refl _,
      fun fewer => absurd fewer (Nat.lt_irrefl _)⟩
  | succ kept hypothesis =>
    have exact :
        roundHalfEven (mantissa * tenTo (scale - least))
            (tenTo (scale - (kept + 1))) =
          mantissa * tenTo (kept + 1 - least) :=
      roundHalfEven_of_kept needed within
    unfold fitAt
    by_cases fits : mantissa * tenTo (kept + 1 - least) < mantissaBound
    · simp only [exact, dif_pos fits]
      exact ⟨_, rfl, rfl, same_of_kept needed within, Nat.le_refl _,
        fun fewer => absurd fewer (Nat.lt_irrefl _)⟩
    · -- The digits that are needed fit, so one that is not is dropped.
      have spare : least ≤ kept := by
        rcases Nat.lt_or_ge kept least with few | enough
        · have whole : kept + 1 - least = 0 := by omega
          rw [whole, tenTo_zero, Nat.mul_one] at fits
          exact absurd small fits
        · exact enough
      rcases hypothesis spare (by omega) (by omega) with
        ⟨result, fitted, shape⟩
      simp only [exact, dif_neg fits]
      refine ⟨result, fitted, shape.sign, shape.same, ?_, ?_⟩
      · exact Nat.le_succ_of_le shape.scale_le
      · intro _
        rcases Nat.lt_or_ge result.scale kept with fewer | all
        · exact shape.full fewer
        · have last : result.scale = kept :=
            Nat.le_antisymm shape.scale_le all
          have next : kept - least + 1 = kept + 1 - least := by omega
          rw [shape.mantissa_eq (by omega) (by omega), last, Nat.mul_assoc,
            ← tenTo_succ, next]
          exact Nat.le_of_not_lt fits

/-- A representable result is not changed by fitting it. -/
theorem exists_fit
    (negative : Bool)
    {exact scale : Nat}
    (representable :
      Representable ((exact : ℚ) / (tenTo scale : ℚ))) :
    ∃ result,
      fit negative exact scale = some result ∧
      Fitted negative exact scale (min scale 28) result := by
  rcases representable_abs_iff.mpr representable with ⟨number, named⟩
  have same :
      number.mantissa * tenTo scale = exact * tenTo number.scale := by
    have size := abs_value number
    rw [named, abs_abs, abs_of_nonneg (by positivity),
      div_eq_div_iff (tenTo_cast_pos _).ne' (tenTo_cast_pos _).ne'] at size
    exact_mod_cast size.symm
  rcases Nat.lt_or_ge scale number.scale with few | enough
  · -- The result has fewer digits than the number that it is.
    have mantissa :
        number.mantissa = exact * tenTo (number.scale - scale) := by
      apply Nat.eq_of_mul_eq_mul_right (tenTo_pos scale)
      rw [same, Nat.mul_assoc, ← tenTo_add]
      congr 2
      omega
    have small : exact < mantissaBound := by
      refine Nat.lt_of_le_of_lt ?_ number.mantissa_lt
      rw [mantissa]
      exact Nat.le_mul_of_pos_right exact (tenTo_pos _)
    have bounded : scale ≤ 28 := by
      have := number.scale_le
      omega
    refine ⟨_, fit_of_fits negative small bounded, rfl, rfl, ?_, ?_⟩
    · exact Nat.le_min.mpr ⟨Nat.le_refl _, bounded⟩
    · intro fewer
      exact absurd (Nat.lt_of_lt_of_le fewer (Nat.min_le_left _ _))
        (Nat.lt_irrefl _)
  · have whole : exact = number.mantissa * tenTo (scale - number.scale) := by
      apply Nat.eq_of_mul_eq_mul_right (tenTo_pos number.scale)
      rw [← same, Nat.mul_assoc, ← tenTo_add]
      congr 2
      omega
    subst whole
    exact exists_fitAt negative number.mantissa_lt
      (Nat.le_min.mpr ⟨enough, number.scale_le⟩) (Nat.min_le_left _ _)
      (Nat.min_le_right _ _)

theorem Fitted.value_eq
    {negative : Bool}
    {exact scale kept : Nat}
    {result : Decimal}
    (fitted : Fitted negative exact scale kept result) :
    result.value =
      (if negative then -(exact : ℚ) else exact) / (tenTo scale : ℚ) := by
  have sign := fitted.sign
  have same :
      (result.mantissa : ℚ) * tenTo scale = exact * tenTo result.scale := by
    exact_mod_cast fitted.same
  unfold value numerator
  rw [div_eq_div_iff (tenTo_cast_pos _).ne' (tenTo_cast_pos _).ne', sign]
  cases negative with
  | false => simpa using same
  | true => simpa using same

/-! ## Sums -/

/-- The numerator of a sum over the larger denominator of the two. -/
def total (first second : Decimal) : Int :=
  first.numerator * tenTo (max first.scale second.scale - first.scale) +
    second.numerator * tenTo (max first.scale second.scale - second.scale)

theorem value_add_value
    (first second : Decimal) :
    first.value + second.value =
      (total first second : ℚ) /
        (tenTo (max first.scale second.scale) : ℚ) := by
  have widened (number : Decimal) (scale : Nat) (le : number.scale ≤ scale) :
      number.value =
        (number.numerator : ℚ) * (tenTo (scale - number.scale) : ℚ) /
          (tenTo scale : ℚ) := by
    unfold value
    rw [div_eq_div_iff (tenTo_cast_pos _).ne' (tenTo_cast_pos _).ne',
      mul_assoc, ← Nat.cast_mul, ← tenTo_add, Nat.sub_add_cancel le]
  rw [widened first _ (Nat.le_max_left _ second.scale),
    widened second _ (Nat.le_max_right first.scale _), ← add_div]
  unfold total
  push_cast
  rfl

/--
A representable sum is not rounded, and it has as many fraction digits as its
operands where the mantissa takes them.
-/
theorem exists_addNonzero
    {first second : Decimal}
    (representable : Representable (first.value + second.value)) :
    ∃ result,
      addNonzero first second = some result ∧
      result.value = first.value + second.value ∧
      result.scale ≤ max first.scale second.scale ∧
      (result.scale < max first.scale second.scale →
        mantissaBound ≤ result.mantissa * 10) ∧
      (result.negative = true → result.value < 0) := by
  have bounded : max first.scale second.scale ≤ 28 :=
    Nat.max_le.mpr ⟨first.scale_le, second.scale_le⟩
  have sum := value_add_value first second
  unfold addNonzero
  show ∃ result,
    (if total first second = 0 then _
      else fit (total first second < 0) (total first second).natAbs _) =
        some result ∧ _
  by_cases vanished : total first second = 0
  · rw [if_pos vanished]
    rw [vanished, Int.cast_zero, zero_div] at sum
    refine ⟨_, rfl, ?_, Nat.le_refl _, ?_, ?_⟩
    · rw [sum, value_eq_zero_iff]
      rfl
    · intro fewer
      exact absurd fewer (Nat.lt_irrefl _)
    · intro signed
      contradiction
  · have size :
        |first.value + second.value| =
          ((total first second).natAbs : ℚ) /
            (tenTo (max first.scale second.scale) : ℚ) := by
      rw [sum, abs_div, abs_of_pos (tenTo_cast_pos _), ← Int.cast_abs,
        Int.abs_eq_natAbs]
      rfl
    have sized := representable_abs_iff.mpr representable
    rw [size] at sized
    rcases exists_fit (total first second < 0) sized with
      ⟨result, fitted, shape⟩
    have same : result.value = first.value + second.value := by
      rw [sum, shape.value_eq]
      congr 1
      by_cases below : total first second < 0
      · rw [if_pos (decide_eq_true below), ← Int.cast_natCast,
          Int.ofNat_natAbs_of_nonpos (Int.le_of_lt below), Int.cast_neg,
          neg_neg]
      · rw [if_neg (by simpa using below), ← Int.cast_natCast,
          Int.natAbs_of_nonneg (Int.not_lt.mp below)]
    rw [Nat.min_eq_left bounded] at shape
    refine ⟨result, ?_, same, shape.scale_le, shape.full, ?_⟩
    · rw [if_neg vanished]
      exact fitted
    · intro signed
      rw [shape.sign, decide_eq_true_eq] at signed
      rw [same, sum]
      exact div_neg_of_neg_of_pos (by exact_mod_cast signed)
        (tenTo_cast_pos _)

/-- A representable difference is not rounded. -/
theorem exists_sub?
    {first second : Decimal}
    (representable : Representable (first.value - second.value)) :
    ∃ result,
      first.sub? second = some result ∧
      result.value = first.value - second.value := by
  unfold sub?
  cases none : first.isZero with
  | true =>
    rw [(value_eq_zero_iff first).mpr none, zero_sub]
    cases nothing : second.isZero with
    | true =>
      refine ⟨second, rfl, ?_⟩
      rw [(value_eq_zero_iff second).mpr nothing, neg_zero]
    | false => exact ⟨second.opposite, rfl, value_opposite second⟩
  | false =>
    cases nothing : second.isZero with
    | true =>
      refine ⟨first, rfl, ?_⟩
      rw [(value_eq_zero_iff second).mpr nothing, sub_zero]
    | false =>
      rw [sub_eq_add_neg, ← value_opposite] at representable ⊢
      rcases exists_addNonzero representable with
        ⟨result, added, same, _⟩
      exact ⟨result, added, same⟩

/-! ## Products -/

theorem value_mul_value
    (first second : Decimal) :
    first.value * second.value =
      (if first.negative != second.negative then
          -((first.mantissa * second.mantissa : Nat) : ℚ)
        else ((first.mantissa * second.mantissa : Nat) : ℚ)) /
        (tenTo (first.scale + second.scale) : ℚ) := by
  unfold value numerator
  rw [div_mul_div_comm, tenTo_add]
  push_cast
  cases first.negative <;> cases second.negative <;> simp

/-- Two short mantissas cannot make up for more than 47 fraction digits. -/
theorem scale_le_of_bothShort
    {first second : Decimal}
    (short : bothShort first second = true)
    (one : first.isZero = false)
    (other : second.isZero = false)
    (representable : Representable (first.value * second.value)) :
    first.scale + second.scale ≤ 47 := by
  rcases representable_abs_iff.mpr representable with ⟨number, named⟩
  have same :
      number.mantissa * tenTo (first.scale + second.scale) =
        first.mantissa * second.mantissa * tenTo number.scale := by
    have size := Decimal.abs_value number
    rw [named, abs_abs, abs_mul, Decimal.abs_value, Decimal.abs_value,
      div_mul_div_comm, ← Nat.cast_mul, ← Nat.cast_mul, ← tenTo_add,
      div_eq_div_iff (tenTo_cast_pos _).ne' (tenTo_cast_pos _).ne'] at size
    exact_mod_cast size.symm
  rw [bothShort, Bool.and_eq_true, decide_eq_true_eq,
    decide_eq_true_eq] at short
  simp only [isZero, beq_eq_false_iff_ne] at one other
  have digits : first.mantissa * second.mantissa < wordBound * wordBound :=
    Nat.mul_lt_mul'' short.1 short.2
  have positive : 0 < first.mantissa * second.mantissa :=
    Nat.mul_pos (Nat.pos_of_ne_zero one) (Nat.pos_of_ne_zero other)
  refine Nat.le_of_not_lt fun many => ?_
  have low : tenTo number.scale ≤ tenTo 28 :=
    Nat.pow_le_pow_right (by decide) number.scale_le
  have high : tenTo 48 ≤ tenTo (first.scale + second.scale) :=
    Nat.pow_le_pow_right (by decide) many
  have filled : 1 ≤ number.mantissa := by
    apply Nat.pos_of_ne_zero
    intro absent
    rw [absent, Nat.zero_mul] at same
    have := Nat.mul_pos positive (tenTo_pos number.scale)
    omega
  have above :
      tenTo 48 ≤ number.mantissa * tenTo (first.scale + second.scale) := by
    calc tenTo 48 ≤ tenTo (first.scale + second.scale) := high
      _ = 1 * tenTo (first.scale + second.scale) := (Nat.one_mul _).symm
      _ ≤ _ := Nat.mul_le_mul_right _ filled
  have below :
      first.mantissa * second.mantissa * tenTo number.scale <
        wordBound * wordBound * tenTo 28 := by
    calc _ < wordBound * wordBound * tenTo number.scale :=
          Nat.mul_lt_mul_of_pos_right digits (tenTo_pos _)
      _ ≤ wordBound * wordBound * tenTo 28 := Nat.mul_le_mul_left _ low
  have apart : wordBound * wordBound * tenTo 28 < tenTo 48 := by decide
  omega

theorem value_withoutZeroSign
    (number : Decimal) :
    number.withoutZeroSign.value = number.value := by
  unfold value
  rw [numerator_withoutZeroSign]
  rfl

/-- A representable product is not rounded, and one that vanishes is bare. -/
theorem exists_mul?
    {first second : Decimal}
    (representable : Representable (first.value * second.value)) :
    ∃ result,
      first.mul? second = some result ∧
      result.value = first.value * second.value ∧
      (result.isZero = true → result.scale = 0) := by
  unfold mul?
  cases vanished : first.isZero || second.isZero with
  | true =>
    refine ⟨zero, rfl, ?_, fun _ => rfl⟩
    rw [value_zero, eq_comm, mul_eq_zero, value_eq_zero_iff,
      value_eq_zero_iff, ← Bool.or_eq_true]
    exact vanished
  | false =>
    rw [Bool.or_eq_false_iff] at vanished
    rcases vanished with ⟨one, other⟩
    have sized := representable_abs_iff.mpr representable
    rw [abs_mul, abs_value, abs_value, div_mul_div_comm, ← Nat.cast_mul,
      ← Nat.cast_mul, ← tenTo_add] at sized
    rcases exists_fit (first.negative != second.negative) sized with
      ⟨result, fitted, shape⟩
    have same : result.value = first.value * second.value := by
      rw [value_mul_value]
      exact shape.value_eq
    have nonzero {number : Decimal} (equal : number.value = result.value) :
        number.isZero = true → number.scale = 0 := by
      intro absent
      rw [← value_eq_zero_iff, equal, same, mul_eq_zero, value_eq_zero_iff,
        value_eq_zero_iff, one, other] at absent
      simp at absent
    have multiplied : product? first second = some result := fitted
    simp only [Bool.false_eq_true, if_false]
    cases short : bothShort first second with
    | true =>
      have few := scale_le_of_bothShort short one other representable
      rw [if_pos rfl, if_neg (Nat.not_lt.mpr few), multiplied]
      refine ⟨result.withoutZeroSign, rfl, ?_, ?_⟩
      · rw [value_withoutZeroSign, same]
      · exact nonzero (value_withoutZeroSign result)
    | false =>
      rw [if_neg (by decide), multiplied]
      exact ⟨result, rfl, same, nonzero rfl⟩

end MandateDesk.Decimal
