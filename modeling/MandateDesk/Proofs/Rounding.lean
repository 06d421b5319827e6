import MandateDesk.Proofs.Differences

/-!
# Rounding between representable numbers

A result is rounded to a neighbour among the numbers with as many digits as
are kept, and digits are dropped only where the mantissa does not take them.
So rounding never passes a number that needs no rounding: a result up to such
a number stays up to it, and a result from it on stays from it on.

What is left of a quantity is therefore at most the quantity, and nothing is
left of it only if it was taken away as a whole.
-/

namespace MandateDesk.Decimal

/-! ## Rounding to a number of digits -/

theorem roundHalfEven_le
    {number divisor bound : Nat}
    (positive : 0 < divisor)
    (within : number ≤ bound * divisor) :
    roundHalfEven number divisor ≤ bound := by
  have quotient : number / divisor ≤ bound :=
    Nat.div_le_of_le_mul (Nat.mul_comm bound divisor ▸ within)
  rcases Nat.lt_or_eq_of_le quotient with below | whole
  · unfold roundHalfEven
    simp only
    split
    · exact below
    · exact quotient
  · have parts := Nat.div_add_mod' number divisor
    have rest : number % divisor = 0 := by
      rw [whole] at parts
      omega
    unfold roundHalfEven
    simp only [rest, whole]
    split
    · omega
    · exact Nat.le_refl bound

theorem le_roundHalfEven
    {number divisor bound : Nat}
    (positive : 0 < divisor)
    (within : bound * divisor ≤ number) :
    bound ≤ roundHalfEven number divisor := by
  have quotient : bound ≤ number / divisor :=
    (Nat.le_div_iff_mul_le positive).mpr within
  unfold roundHalfEven
  simp only
  split
  · exact Nat.le_succ_of_le quotient
  · exact quotient

/-- A number is at most half a unit above what it is rounded to. -/
theorem two_mul_le_of_roundHalfEven
    (number : Nat)
    {divisor : Nat}
    (positive : 0 < divisor) :
    2 * number ≤ (2 * roundHalfEven number divisor + 1) * divisor := by
  have parts := Nat.div_add_mod' number divisor
  have rest := Nat.mod_lt number positive
  unfold roundHalfEven
  simp only
  split
  · rw [Nat.add_mul, Nat.mul_assoc, Nat.add_mul]
    omega
  · rename_i down
    rw [Nat.add_mul, Nat.mul_assoc]
    omega

/-- A number is at most half a unit below what it is rounded to. -/
theorem le_two_mul_of_roundHalfEven
    (number divisor : Nat) :
    2 * roundHalfEven number divisor * divisor ≤ 2 * number + divisor := by
  have parts := Nat.div_add_mod' number divisor
  unfold roundHalfEven
  simp only
  split
  · rename_i up
    rw [Nat.mul_assoc, Nat.add_mul]
    omega
  · rw [Nat.mul_assoc]
    omega

/--
Where one digit too many is dropped, the digits that are left nearly fill the
mantissa: a tenth of its bound is no whole number.
-/
theorem mantissaBound_le_of_dropped
    {exact divisor : Nat}
    (positive : 0 < divisor)
    (large : mantissaBound ≤ roundHalfEven exact divisor) :
    mantissaBound ≤ roundHalfEven exact (divisor * 10) * 10 := by
  refine Nat.le_of_not_lt fun few => ?_
  -- the last digit of the bound is a six, so that it is rounded up
  have fewer : roundHalfEven exact (divisor * 10) * 10 + 6 ≤ mantissaBound := by
    unfold mantissaBound at few ⊢
    omega
  have short := Nat.mul_le_mul_right divisor (Nat.le_trans fewer large)
  have below := le_two_mul_of_roundHalfEven exact divisor
  have above :=
    two_mul_le_of_roundHalfEven exact
      (Nat.mul_pos positive (by decide : 0 < 10))
  linarith

/-! ## Rounding to fit -/

/-- A result with the most fraction digits that fit, and rounded once. -/
structure Rounds (negative : Bool) (exact scale kept : Nat)
    (result : Decimal) : Prop where
  sign : result.negative = negative
  scale_le : result.scale ≤ kept
  nearest :
    result.mantissa = roundHalfEven exact (tenTo (scale - result.scale))
  /-- One more digit does not fit. -/
  full : result.scale < kept →
    mantissaBound ≤ roundHalfEven exact (tenTo (scale - (result.scale + 1)))

theorem rounds_of_fitAt
    {negative : Bool}
    {exact scale kept : Nat}
    {bounded : kept ≤ 28}
    {result : Decimal}
    (fitted : fitAt negative exact scale kept bounded = some result) :
    Rounds negative exact scale kept result := by
  induction kept with
  | zero =>
    unfold fitAt at fitted
    simp only at fitted
    split at fitted
    · cases fitted
      exact ⟨rfl, Nat.le_refl _, rfl,
        fun fewer => absurd fewer (Nat.not_lt_zero _)⟩
    · contradiction
  | succ kept hypothesis =>
    unfold fitAt at fitted
    simp only at fitted
    split at fitted
    · cases fitted
      exact ⟨rfl, Nat.le_refl _, rfl,
        fun fewer => absurd fewer (Nat.lt_irrefl _)⟩
    · rename_i wide
      have rounds := hypothesis fitted
      refine ⟨rounds.sign, Nat.le_succ_of_le rounds.scale_le, rounds.nearest,
        fun _ => ?_⟩
      rcases Nat.lt_or_eq_of_le rounds.scale_le with fewer | same
      · exact rounds.full fewer
      · rw [same]
        exact Nat.le_of_not_lt wide

/-- A result does not fit if it has too many digits in front of the point. -/
theorem mantissaBound_le_of_fitAt
    {negative : Bool}
    {exact scale kept : Nat}
    {bounded : kept ≤ 28}
    (unfitted : fitAt negative exact scale kept bounded = none) :
    mantissaBound ≤ roundHalfEven exact (tenTo scale) := by
  induction kept with
  | zero =>
    unfold fitAt at unfitted
    simp only at unfitted
    split at unfitted
    · contradiction
    · rename_i wide
      exact Nat.le_of_not_lt wide
  | succ kept hypothesis =>
    unfold fitAt at unfitted
    simp only at unfitted
    split at unfitted
    · contradiction
    · exact hypothesis unfitted

section Bounds

variable {negative : Bool} {exact scale : Nat} {bound result : Decimal}

/-- Both sides of a comparison are brought to the digits that are kept. -/
theorem scaled_le
    {first second least digits : Nat}
    (low : least ≤ digits)
    (high : digits ≤ scale)
    (le : first * tenTo least ≤ second * tenTo scale) :
    first ≤ second * tenTo (digits - least) * tenTo (scale - digits) := by
  apply Nat.le_of_mul_le_mul_right _ (tenTo_pos least)
  refine Nat.le_trans le (Nat.le_of_eq ?_)
  rw [Nat.mul_assoc, Nat.mul_assoc, ← tenTo_add, ← tenTo_add]
  congr 2
  omega

theorem le_scaled
    {first second least digits : Nat}
    (low : least ≤ digits)
    (high : digits ≤ scale)
    (le : second * tenTo scale ≤ first * tenTo least) :
    second * tenTo (digits - least) * tenTo (scale - digits) ≤ first := by
  apply Nat.le_of_mul_le_mul_right _ (tenTo_pos least)
  refine Nat.le_trans (Nat.le_of_eq ?_) le
  rw [Nat.mul_assoc, Nat.mul_assoc, ← tenTo_add, ← tenTo_add]
  congr 2
  omega

/-- A result up to a number is rounded to one up to it. -/
theorem Rounds.le_of_le
    (rounds : Rounds negative exact scale (min scale 28) result)
    (le : exact * tenTo bound.scale ≤ bound.mantissa * tenTo scale) :
    result.mantissa * tenTo bound.scale ≤
      bound.mantissa * tenTo result.scale := by
  have kept : result.scale ≤ scale :=
    Nat.le_trans rounds.scale_le (Nat.min_le_left _ _)
  rcases Nat.lt_or_ge result.scale bound.scale with few | enough
  · rcases Nat.lt_or_eq_of_le rounds.scale_le with dropped | all
    · -- one more digit would have fitted below the number
      have wide := rounds.full dropped
      have more : result.scale + 1 ≤ scale :=
        Nat.lt_of_lt_of_le dropped (Nat.min_le_left _ _)
      have small :
          roundHalfEven exact (tenTo (scale - (result.scale + 1))) ≤
            bound.mantissa := by
        apply roundHalfEven_le (tenTo_pos _)
        apply Nat.le_of_mul_le_mul_right _ (tenTo_pos (result.scale + 1))
        rw [Nat.mul_assoc, ← tenTo_add, Nat.sub_add_cancel more]
        refine Nat.le_trans (Nat.mul_le_mul_left _ ?_) le
        exact Nat.pow_le_pow_right (by decide) few
      exact absurd bound.mantissa_lt
        (Nat.not_lt.mpr (Nat.le_trans wide small))
    · have whole : result.scale = scale := by
        have := bound.scale_le
        omega
      have same : result.mantissa = exact := by
        rw [rounds.nearest, whole, Nat.sub_self, tenTo_zero,
          roundHalfEven_one]
      rw [same, whole]
      exact le
  · have nearest :
        result.mantissa ≤ bound.mantissa * tenTo (result.scale - bound.scale) :=
      rounds.nearest ▸
        roundHalfEven_le (tenTo_pos _) (scaled_le enough kept le)
    calc
      result.mantissa * tenTo bound.scale
          ≤ bound.mantissa * tenTo (result.scale - bound.scale) *
              tenTo bound.scale := Nat.mul_le_mul_right _ nearest
      _ = bound.mantissa * tenTo result.scale := by
        rw [Nat.mul_assoc, ← tenTo_add, Nat.sub_add_cancel enough]

/-- A result from a number on is rounded to one from it on. -/
theorem Rounds.le_of_ge
    (rounds : Rounds negative exact scale (min scale 28) result)
    (le : bound.mantissa * tenTo scale ≤ exact * tenTo bound.scale) :
    bound.mantissa * tenTo result.scale ≤
      result.mantissa * tenTo bound.scale := by
  have kept : result.scale ≤ scale :=
    Nat.le_trans rounds.scale_le (Nat.min_le_left _ _)
  rcases Nat.lt_or_ge result.scale bound.scale with few | enough
  · rcases Nat.lt_or_eq_of_le rounds.scale_le with dropped | all
    · -- what is left of a result that lost a digit fills its mantissa
      have more : result.scale + 1 ≤ scale :=
        Nat.lt_of_lt_of_le dropped (Nat.min_le_left _ _)
      have digits :
          tenTo (scale - result.scale) =
            tenTo (scale - (result.scale + 1)) * 10 := by
        rw [← tenTo_succ]
        congr 1
        omega
      have wide : mantissaBound ≤ result.mantissa * 10 := by
        rw [rounds.nearest, digits]
        exact mantissaBound_le_of_dropped (tenTo_pos _) (rounds.full dropped)
      calc
        bound.mantissa * tenTo result.scale
            ≤ result.mantissa * 10 * tenTo result.scale :=
          Nat.mul_le_mul_right _
            (Nat.le_of_lt (Nat.lt_of_lt_of_le bound.mantissa_lt wide))
        _ = result.mantissa * tenTo (result.scale + 1) := by
          rw [tenTo_succ, Nat.mul_assoc, Nat.mul_comm 10]
        _ ≤ result.mantissa * tenTo bound.scale :=
          Nat.mul_le_mul_left _ (Nat.pow_le_pow_right (by decide) few)
    · have whole : result.scale = scale := by
        have := bound.scale_le
        omega
      have same : result.mantissa = exact := by
        rw [rounds.nearest, whole, Nat.sub_self, tenTo_zero,
          roundHalfEven_one]
      rw [same, whole]
      exact le
  · have nearest :
        bound.mantissa * tenTo (result.scale - bound.scale) ≤
          result.mantissa :=
      rounds.nearest ▸
        le_roundHalfEven (tenTo_pos _) (le_scaled enough kept le)
    calc
      bound.mantissa * tenTo result.scale
          = bound.mantissa * tenTo (result.scale - bound.scale) *
              tenTo bound.scale := by
        rw [Nat.mul_assoc, ← tenTo_add, Nat.sub_add_cancel enough]
      _ ≤ result.mantissa * tenTo bound.scale :=
        Nat.mul_le_mul_right _ nearest

/-- A result whose size is up to that of a number fits, and stays up to it. -/
theorem exists_fit_of_le
    (le : (exact : ℚ) / tenTo scale ≤ |bound.value|) :
    ∃ result,
      fit negative exact scale = some result ∧
        |result.value| ≤ |bound.value| := by
  rw [abs_value, div_le_div_iff₀ (tenTo_cast_pos _) (tenTo_cast_pos _)] at le
  have scaled : exact * tenTo bound.scale ≤ bound.mantissa * tenTo scale := by
    exact_mod_cast le
  cases fitted : fit negative exact scale with
  | none =>
    -- in front of the point the number has as many digits as fit
    have wide := mantissaBound_le_of_fitAt fitted
    have small : roundHalfEven exact (tenTo scale) ≤ bound.mantissa := by
      apply roundHalfEven_le (tenTo_pos _)
      exact Nat.le_trans (Nat.le_mul_of_pos_right exact (tenTo_pos _)) scaled
    exact absurd bound.mantissa_lt (Nat.not_lt.mpr (Nat.le_trans wide small))
  | some result =>
    refine ⟨result, rfl, ?_⟩
    rw [abs_value, abs_value,
      div_le_div_iff₀ (tenTo_cast_pos _) (tenTo_cast_pos _)]
    exact_mod_cast (rounds_of_fitAt fitted).le_of_le scaled

/-- A result whose size is from that of a number on stays from it on. -/
theorem abs_value_le_of_fit
    (fitted : fit negative exact scale = some result)
    (le : |bound.value| ≤ (exact : ℚ) / tenTo scale) :
    |bound.value| ≤ |result.value| := by
  rw [abs_value, div_le_div_iff₀ (tenTo_cast_pos _) (tenTo_cast_pos _)]
    at le
  rw [abs_value, abs_value,
    div_le_div_iff₀ (tenTo_cast_pos _) (tenTo_cast_pos _)]
  exact_mod_cast (rounds_of_fitAt fitted).le_of_ge (by exact_mod_cast le)

/-- Rounding does not make anything vanish that has no more than 28 digits. -/
theorem isZero_of_fit
    (present : exact ≠ 0)
    (scale_le : scale ≤ 28)
    (fitted : fit negative exact scale = some result) :
    result.isZero = false := by
  let unit : Decimal := ⟨false, 1, scale, by decide, scale_le⟩
  have size : |unit.value| = 1 / (tenTo scale : ℚ) := by
    rw [abs_value, Nat.cast_one]
  have least : |unit.value| ≤ (exact : ℚ) / tenTo scale := by
    rw [size, div_le_div_iff_of_pos_right (tenTo_cast_pos _)]
    exact_mod_cast Nat.one_le_iff_ne_zero.mpr present
  have positive : 0 < |unit.value| := by
    rw [size]
    exact one_div_pos.mpr (tenTo_cast_pos _)
  rw [Bool.eq_false_iff, Ne, ← value_eq_zero_iff, ← abs_eq_zero]
  exact (positive.trans_le (abs_value_le_of_fit fitted least)).ne'

end Bounds

/-! ## Sums and differences -/

theorem abs_value_add_value
    (first second : Decimal) :
    |first.value + second.value| =
      ((total first second).natAbs : ℚ) /
        (tenTo (max first.scale second.scale) : ℚ) := by
  rw [value_add_value, abs_div, abs_of_pos (tenTo_cast_pos _),
    ← Int.cast_abs, Int.abs_eq_natAbs]
  rfl

section Sums

variable {first second bound result : Decimal}

/-- A sum whose size is up to that of a number is in range, and rounds so. -/
theorem exists_addNonzero_of_le
    (le : |first.value + second.value| ≤ |bound.value|) :
    ∃ result,
      addNonzero first second = some result ∧
        |result.value| ≤ |bound.value| := by
  rw [abs_value_add_value] at le
  unfold addNonzero
  show ∃ result,
    (if total first second = 0 then _
      else fit (total first second < 0) (total first second).natAbs _) =
        some result ∧ _
  split
  · refine ⟨_, rfl, ?_⟩
    rw [(value_eq_zero_iff _).mpr rfl, abs_zero]
    exact abs_nonneg _
  · exact exists_fit_of_le le

theorem value_add_eq_zero_of_addNonzero
    (added : addNonzero first second = some result)
    (nothing : result.isZero = true) :
    first.value + second.value = 0 := by
  have sum :
      (if total first second = 0 then _
        else fit (total first second < 0) (total first second).natAbs _) =
          some result := added
  split at sum
  · rename_i vanished
    rw [value_add_value, vanished, Int.cast_zero, zero_div]
  · rename_i present
    have kept :=
      isZero_of_fit (Int.natAbs_ne_zero.mpr present)
        (Nat.max_le.mpr ⟨first.scale_le, second.scale_le⟩) sum
    rw [kept] at nothing
    contradiction

/-- A difference whose size is up to that of a number stays up to it. -/
theorem exists_sub?_of_le
    (le : |first.value - second.value| ≤ |bound.value|) :
    ∃ result,
      first.sub? second = some result ∧ |result.value| ≤ |bound.value| := by
  unfold sub?
  split
  · rename_i absent
    rw [(value_eq_zero_iff _).mpr absent, zero_sub, abs_neg] at le
    refine ⟨_, rfl, ?_⟩
    split
    · exact le
    · rw [value_opposite, abs_neg]
      exact le
  · split
    · rename_i vanished
      rw [(value_eq_zero_iff _).mpr vanished, sub_zero] at le
      exact ⟨first, rfl, le⟩
    · apply exists_addNonzero_of_le
      rw [value_opposite, ← sub_eq_add_neg]
      exact le

/-- A difference vanishes only where there is none. -/
theorem value_eq_of_sub?
    (taken : first.sub? second = some result)
    (nothing : result.isZero = true) :
    first.value = second.value := by
  unfold sub? at taken
  split at taken
  · rename_i absent
    split at taken
    · rename_i vanished
      rw [(value_eq_zero_iff _).mpr absent, (value_eq_zero_iff _).mpr vanished]
    · rename_i present
      cases taken
      exact absurd nothing present
  · split at taken
    · rename_i vanished
      cases taken
      rw [(value_eq_zero_iff _).mpr nothing, (value_eq_zero_iff _).mpr vanished]
    · have apart := value_add_eq_zero_of_addNonzero taken nothing
      rw [value_opposite, ← sub_eq_add_neg] at apart
      exact sub_eq_zero.mp apart

end Sums

/-! ## What is left of a quantity -/

/-- Nothing is left exactly of what is taken away as a whole. -/
theorem isZero_saturatingSub_iff
    (first second : Decimal) :
    (first.saturatingSub second).isZero = true ↔
      first.value = second.value := by
  refine ⟨fun nothing => ?_, isZero_saturatingSub⟩
  unfold saturatingSub at nothing
  cases left : sub? first second with
  | none =>
    rw [left] at nothing
    unfold limit at nothing
    split at nothing <;> contradiction
  | some result =>
    rw [left, Option.getD_some] at nothing
    exact value_eq_of_sub? left nothing

/-- What is left is the difference itself, if that has few enough digits. -/
theorem value_saturatingSub
    {first second : Decimal}
    (representable : Representable (first.value - second.value)) :
    (first.saturatingSub second).value = first.value - second.value := by
  rcases exists_sub? representable with ⟨result, taken, value⟩
  unfold saturatingSub
  rw [taken, Option.getD_some, value]

/-- At most the quantity itself is left of it, also where that is rounded. -/
theorem saturatingSub_le
    {first second : Decimal}
    (unsigned : second.negative = false)
    (within : second ≤ first) :
    first.saturatingSub second ≤ first := by
  have taken := value_nonneg unsigned
  have ordered := (value_le_iff second first).mpr within
  have size : |first.value - second.value| ≤ |first.value| := by
    rw [abs_of_nonneg (sub_nonneg.mpr ordered),
      abs_of_nonneg (taken.trans ordered)]
    exact sub_le_self _ taken
  rcases exists_sub?_of_le size with ⟨result, left, bounded⟩
  unfold saturatingSub
  rw [left, Option.getD_some, ← value_le_iff]
  rw [abs_of_nonneg (taken.trans ordered)] at bounded
  exact (le_abs_self _).trans bounded

end MandateDesk.Decimal
