import MandateDesk.Proofs.Exactness

/-!
# Differences, whatever the scale

Numbers of the same value may have different scales.  Rounding looks at the
value of an exact result only, not at the scale in which it is written, so that
differences of numbers of the same values have the same value: also where they
are rounded, and also where they saturate.

What is left of a quantity after no more than it was taken away has no sign.
-/

namespace MandateDesk.Decimal

theorem sameValue_iff_value
    (first second : Decimal) :
    SameValue first second ↔ first.value = second.value := by
  unfold value
  rw [div_eq_div_iff (tenTo_cast_pos _).ne' (tenTo_cast_pos _).ne']
  show first.numerator * tenTo second.scale =
    second.numerator * tenTo first.scale ↔ _
  exact_mod_cast Iff.rfl

/-! ## Rounding looks at the value -/

theorem roundHalfEven_mul_mul
    (number divisor : Nat)
    {factor : Nat}
    (positive : 0 < factor) :
    roundHalfEven (number * factor) (divisor * factor) =
      roundHalfEven number divisor := by
  have above :
      2 * (number % divisor * factor) > divisor * factor ↔
        2 * (number % divisor) > divisor := by
    rw [← Nat.mul_assoc]
    exact Nat.mul_lt_mul_right positive
  have half :
      2 * (number % divisor * factor) = divisor * factor ↔
        2 * (number % divisor) = divisor := by
    rw [← Nat.mul_assoc]
    exact Nat.mul_left_inj positive.ne'
  unfold roundHalfEven
  rw [Nat.mul_div_mul_right _ _ positive, Nat.mul_mod_mul_right]
  simp only [above, half]

/-- Zeros at the end of an exact result do not matter once they are dropped. -/
theorem fitAt_mul
    (negative : Bool)
    (exact scale extra : Nat)
    {kept : Nat}
    (within : kept ≤ scale)
    (bounded : kept ≤ 28) :
    fitAt negative (exact * tenTo extra) (scale + extra) kept bounded =
      fitAt negative exact scale kept bounded := by
  have rounded {digits : Nat} (fewer : digits ≤ scale) :
      roundHalfEven (exact * tenTo extra) (tenTo (scale + extra - digits)) =
        roundHalfEven exact (tenTo (scale - digits)) := by
    have split : scale + extra - digits = scale - digits + extra := by omega
    rw [split, tenTo_add]
    exact roundHalfEven_mul_mul _ _ (tenTo_pos extra)
  induction kept with
  | zero =>
    have whole := rounded within
    rw [Nat.sub_zero, Nat.sub_zero] at whole
    unfold fitAt
    simp only [whole]
  | succ kept hypothesis =>
    unfold fitAt
    simp only [rounded within, hypothesis (by omega) (by omega)]

theorem fitAt_succ
    (negative : Bool)
    (exact scale : Nat)
    {kept : Nat}
    (bounded : kept + 1 ≤ 28) :
    fitAt negative exact scale (kept + 1) bounded =
      if fits :
          roundHalfEven exact (tenTo (scale - (kept + 1))) < mantissaBound
      then some ⟨negative, _, kept + 1, fits, bounded⟩
      else fitAt negative exact scale kept (Nat.le_of_succ_le bounded) :=
  rfl

/-- Zeros at the end of an exact result do not change the value. -/
theorem value_fitAt_mul
    (negative : Bool)
    (exact scale extra : Nat)
    {more : Nat}
    (within : more ≤ extra)
    (bounded : scale + more ≤ 28) :
    (fitAt negative (exact * tenTo extra) (scale + extra) (scale + more)
        bounded).map value =
      (fitAt negative exact scale scale (by omega)).map value := by
  induction more with
  | zero =>
    exact congrArg (Option.map value)
      (fitAt_mul negative exact scale extra (Nat.le_refl _) bounded)
  | succ more hypothesis =>
    have padded :
        roundHalfEven (exact * tenTo extra)
            (tenTo (scale + extra - (scale + more + 1))) =
          exact * tenTo (more + 1) := by
      have kept :
          roundHalfEven (exact * tenTo (scale + extra - scale))
              (tenTo (scale + extra - (scale + more + 1))) =
            exact * tenTo (scale + more + 1 - scale) :=
        roundHalfEven_of_kept (by omega) (by omega)
      rw [Nat.add_sub_cancel_left, Nat.add_assoc,
        Nat.add_sub_cancel_left] at kept
      exact kept
    have stepped :=
      fitAt_succ negative (exact * tenTo extra) (scale + extra)
        (show scale + more + 1 ≤ 28 from bounded)
    simp only [padded] at stepped
    refine (congrArg (Option.map value) stepped).trans ?_
    by_cases fits : exact * tenTo (more + 1) < mantissaBound
    · have small : exact < mantissaBound :=
        Nat.lt_of_le_of_lt
          (Nat.le_mul_of_pos_right exact (tenTo_pos (more + 1))) fits
      have plain := fit_of_fits negative small (show scale ≤ 28 by omega)
      unfold fit at plain
      simp only [Nat.min_eq_left (show scale ≤ 28 by omega)] at plain
      rw [dif_pos fits, plain]
      simp only [Option.map_some, Option.some.injEq]
      unfold value
      rw [div_eq_div_iff (tenTo_cast_pos _).ne' (tenTo_cast_pos _).ne']
      have digits :
          tenTo (scale + more + 1) = tenTo (more + 1) * tenTo scale := by
        rw [← tenTo_add]
        congr 1
        omega
      cases negative <;> simp only [numerator, digits] <;> push_cast <;> ring
    · rw [dif_neg fits]
      exact hypothesis (by omega) (by omega)

/-- Exact results of the same value are rounded to the same value. -/
theorem value_fit_congr
    (negative : Bool)
    {exact scale other base : Nat}
    (same : exact * tenTo base = other * tenTo scale)
    (scale_le : scale ≤ 28)
    (base_le : base ≤ 28) :
    (fit negative exact scale).map value =
      (fit negative other base).map value := by
  -- the one that is written with more digits ends on zeros
  have padded {exact scale other base : Nat}
      (same : exact * tenTo base = other * tenTo scale)
      (scale_le : scale ≤ 28)
      (fewer : base ≤ scale) :
      (fit negative exact scale).map value =
        (fit negative other base).map value := by
    have zeros : exact = other * tenTo (scale - base) := by
      apply Nat.eq_of_mul_eq_mul_right (tenTo_pos base)
      rw [same, Nat.mul_assoc, ← tenTo_add, Nat.sub_add_cancel fewer]
    have split : scale = base + (scale - base) := by omega
    have base_le : base ≤ 28 := by omega
    generalize scale - base = extra at zeros split
    subst zeros split
    unfold fit
    simp only [Nat.min_eq_left scale_le, Nat.min_eq_left base_le]
    exact value_fitAt_mul negative other base extra (Nat.le_refl _) scale_le
  rcases Nat.le_total base scale with fewer | more
  · exact padded same scale_le fewer
  · exact (padded same.symm base_le more).symm

/-! ## Differences of the same values -/

/-- The sign of a number that is not zero is that of its value. -/
theorem negative_congr
    {first second : Decimal}
    (present : first.isZero = false)
    (same : first.value = second.value) :
    first.negative = second.negative := by
  have other : second.isZero = false := by
    rw [Bool.eq_false_iff, Ne, ← value_eq_zero_iff, ← same,
      value_eq_zero_iff, present]
    exact Bool.false_ne_true
  have below (number : Decimal) (some : number.isZero = false) :
      number.negative = true ↔ number.value < 0 := by
    rw [← value_zero, value_lt_iff, lt_zero_iff]
    simp only [isZero, beq_eq_false_iff_ne] at some
    exact (and_iff_left some).symm
  rw [Bool.eq_iff_iff, below first present, below second other, same]

theorem value_addNonzero_congr
    {first second other another : Decimal}
    (same : first.value = other.value)
    (equal : second.value = another.value) :
    (addNonzero first second).map value =
      (addNonzero other another).map value := by
  have scaled :
      total first second * tenTo (max other.scale another.scale) =
        total other another * tenTo (max first.scale second.scale) := by
    have sums := value_add_value first second
    rw [same, equal, value_add_value other another,
      div_eq_div_iff (tenTo_cast_pos _).ne' (tenTo_cast_pos _).ne'] at sums
    exact_mod_cast sums.symm
  have wide :
      (0 : Int) < tenTo (max other.scale another.scale) := by
    exact_mod_cast tenTo_pos _
  have long : (0 : Int) < tenTo (max first.scale second.scale) := by
    exact_mod_cast tenTo_pos _
  have vanishes : total first second = 0 ↔ total other another = 0 := by
    constructor
    · intro none
      rw [none, Int.zero_mul] at scaled
      exact (Int.mul_eq_zero.mp scaled.symm).resolve_right long.ne'
    · intro none
      rw [none, Int.zero_mul] at scaled
      exact (Int.mul_eq_zero.mp scaled).resolve_right wide.ne'
  have falls : total first second < 0 ↔ total other another < 0 := by
    constructor
    · intro below
      have less := Int.mul_neg_of_neg_of_pos below wide
      rw [scaled] at less
      exact neg_of_mul_neg_left less long.le
    · intro below
      have less := Int.mul_neg_of_neg_of_pos below long
      rw [← scaled] at less
      exact neg_of_mul_neg_left less wide.le
  unfold addNonzero
  show (if total first second = 0 then _
      else fit (total first second < 0) (total first second).natAbs
        _).map value =
    (if total other another = 0 then _
      else fit (total other another < 0) (total other another).natAbs
        _).map value
  by_cases none : total first second = 0
  · rw [if_pos none, if_pos (vanishes.mp none)]
    simp [value, numerator]
  · rw [if_neg none, if_neg (mt vanishes.mpr none), decide_eq_decide.mpr falls]
    refine value_fit_congr _ ?_
      (Nat.max_le.mpr ⟨first.scale_le, second.scale_le⟩)
      (Nat.max_le.mpr ⟨other.scale_le, another.scale_le⟩)
    have sizes := congrArg Int.natAbs scaled
    simpa only [Int.natAbs_mul, Int.natAbs_natCast] using sizes

theorem value_sub?_congr
    {first second other another : Decimal}
    (same : first.value = other.value)
    (equal : second.value = another.value) :
    (sub? first second).map value = (sub? other another).map value := by
  have zeros {number twin : Decimal} (alike : number.value = twin.value) :
      number.isZero = twin.isZero := by
    rw [Bool.eq_iff_iff, ← value_eq_zero_iff, ← value_eq_zero_iff, alike]
  unfold sub?
  rw [zeros same, zeros equal]
  split
  · split
    · simp [equal]
    · simp [equal]
  · split
    · simp [same]
    · exact value_addNonzero_congr same (by simp [equal])

/-- The value of a difference is that of the values. -/
theorem value_saturatingSub_congr
    {first second other another : Decimal}
    (same : first.value = other.value)
    (equal : second.value = another.value) :
    (first.saturatingSub second).value =
      (other.saturatingSub another).value := by
  have differences := value_sub?_congr same equal
  unfold saturatingSub
  cases left : sub? first second with
  | some result =>
    cases right : sub? other another with
    | some twin => simpa [left, right] using differences
    | none => simp [left, right] at differences
  | none =>
    cases right : sub? other another with
    | some twin => simp [left, right] at differences
    | none =>
      have present : first.isZero = false := by
        unfold sub? at left
        split at left
        · contradiction
        · rename_i some
          simpa using some
      rw [negative_congr present same]

/-- Nothing is left of what is taken away as a whole. -/
theorem isZero_saturatingSub
    {first second : Decimal}
    (same : first.value = second.value) :
    (first.saturatingSub second).isZero = true := by
  have none : first.value - second.value = 0 := by rw [same, sub_self]
  have representable : Representable (first.value - second.value) :=
    ⟨zero, by rw [none, value_zero]⟩
  rcases exists_sub? representable with ⟨result, taken, value⟩
  unfold saturatingSub
  rw [taken, Option.getD_some, ← value_eq_zero_iff, value, none]

/-! ## Signs -/

/-- Rounding keeps the sign. -/
theorem negative_of_fitAt
    {negative : Bool}
    {exact scale kept : Nat}
    {bounded : kept ≤ 28}
    {result : Decimal}
    (fitted : fitAt negative exact scale kept bounded = some result) :
    result.negative = negative := by
  induction kept with
  | zero =>
    unfold fitAt at fitted
    simp only at fitted
    split at fitted
    · cases fitted
      rfl
    · contradiction
  | succ kept hypothesis =>
    unfold fitAt at fitted
    simp only at fitted
    split at fitted
    · cases fitted
      rfl
    · exact hypothesis fitted

theorem value_nonneg
    {number : Decimal}
    (unsigned : number.negative = false) :
    0 ≤ number.value := by
  rw [← value_zero, value_le_iff, ← not_lt, lt_zero_iff]
  simp [unsigned]

/-- What is left of a quantity has no sign. -/
theorem negative_saturatingSub
    {first second : Decimal}
    (unsigned : first.negative = false)
    (positive : second.negative = false)
    (within : second ≤ first) :
    (first.saturatingSub second).negative = false := by
  have ordered := (value_le_iff second first).mpr within
  unfold saturatingSub
  cases left : sub? first second with
  | none => simp [limit, unsigned, largest]
  | some result =>
    unfold sub? at left
    split at left
    · rename_i nothing
      have vanished : second.isZero = true := by
        rw [← value_eq_zero_iff] at nothing ⊢
        rw [nothing] at ordered
        exact Rat.le_antisymm ordered (value_nonneg positive)
      rw [if_pos vanished] at left
      cases left
      exact positive
    · split at left
      · cases left
        exact unsigned
      · have sum := value_add_value first second.opposite
        rw [value_opposite] at sum
        have rises : ¬ total first second.opposite < 0 := by
          intro falls
          have negative : first.value + -second.value < 0 := by
            rw [sum]
            exact div_neg_of_neg_of_pos (by exact_mod_cast falls)
              (tenTo_cast_pos _)
          linarith
        unfold addNonzero at left
        have taken :
            (if total first second.opposite = 0 then _
              else fit (total first second.opposite < 0) _ _) =
                some result := left
        split at taken
        · cases taken
          rfl
        · rw [Option.getD_some, negative_of_fitAt taken]
          exact decide_eq_false rises

end MandateDesk.Decimal
