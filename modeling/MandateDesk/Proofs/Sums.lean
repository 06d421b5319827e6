import MandateDesk.Proofs.Exactness
import Mathlib.Algebra.BigOperators.Group.List.Basic

/-!
# Sums in any order

The sum of several numbers has the value of the exact sum where no partial sum
is rounded, but a value has several numbers.  The sum that comes out is the
one with the most fraction digits that fit, up to those of the terms: it is
`Compact`.  There is only one such number, so that the sum does not depend on
the order of its terms.
-/

namespace MandateDesk.Decimal

/--
A number without sign that has as many as `top` fraction digits, unless the
mantissa takes no more of them.  Nothing but bare zeros add up to zero.
-/
structure Compact (top : Nat) (sum : Decimal) : Prop where
  unsigned : sum.negative = false
  scale_le : sum.scale ≤ top
  full : sum.scale < top → mantissaBound ≤ sum.mantissa * 10
  bare : sum.isZero = true → top = 0

theorem compact_zero : Compact 0 zero :=
  ⟨rfl, Nat.le_refl _, fun fewer => absurd fewer (Nat.lt_irrefl _),
    fun _ => rfl⟩

theorem value_of_unsigned
    {number : Decimal}
    (unsigned : number.negative = false) :
    number.value = (number.mantissa : ℚ) / (tenTo number.scale : ℚ) := by
  unfold value numerator
  rw [unsigned]
  rfl

theorem Compact.value_nonneg
    {top : Nat}
    {sum : Decimal}
    (compact : Compact top sum) :
    0 ≤ sum.value := by
  rw [value_of_unsigned compact.unsigned]
  positivity

/-- The size of a number counts as a term of a sum. -/
theorem compact_magnitude
    {number : Decimal}
    (bare : number.isZero = true → number.scale = 0) :
    Compact number.magnitude.scale number.magnitude :=
  ⟨rfl, Nat.le_refl _, fun fewer => absurd fewer (Nat.lt_irrefl _), bare⟩

/-- Of two compact numbers with one value neither has more digits. -/
theorem Compact.scale_le_of_value_eq
    {top : Nat}
    {first second : Decimal}
    (compact : Compact top first)
    (other : Compact top second)
    (same : first.value = second.value) :
    second.scale ≤ first.scale := by
  refine Nat.le_of_not_lt fun fewer => ?_
  rw [value_of_unsigned compact.unsigned, value_of_unsigned other.unsigned,
    div_eq_div_iff (tenTo_cast_pos _).ne' (tenTo_cast_pos _).ne'] at same
  have equal :
      first.mantissa * tenTo second.scale =
        second.mantissa * tenTo first.scale := by
    exact_mod_cast same
  have wide : mantissaBound ≤ first.mantissa * 10 :=
    compact.full (Nat.lt_of_lt_of_le fewer other.scale_le)
  have digits :
      second.mantissa =
        first.mantissa * 10 * tenTo (second.scale - (first.scale + 1)) := by
    apply Nat.eq_of_mul_eq_mul_right (tenTo_pos first.scale)
    rw [← equal, Nat.mul_assoc, Nat.mul_assoc, ← tenTo_add,
      Nat.mul_comm 10, ← tenTo_succ]
    congr 2
    omega
  have large : first.mantissa * 10 ≤ second.mantissa := by
    rw [digits]
    exact Nat.le_mul_of_pos_right _ (tenTo_pos _)
  exact absurd second.mantissa_lt
    (Nat.not_lt.mpr (Nat.le_trans wide large))

/-- A compact number is determined by its value. -/
theorem Compact.unique
    {top : Nat}
    {first second : Decimal}
    (compact : Compact top first)
    (other : Compact top second)
    (same : first.value = second.value) :
    first = second := by
  have scale : first.scale = second.scale :=
    Nat.le_antisymm (other.scale_le_of_value_eq compact same.symm)
      (compact.scale_le_of_value_eq other same)
  rw [value_of_unsigned compact.unsigned, value_of_unsigned other.unsigned,
    scale, div_left_inj' (tenTo_cast_pos _).ne'] at same
  have mantissa : first.mantissa = second.mantissa := by
    exact_mod_cast same
  have sign := compact.unsigned.trans other.unsigned.symm
  cases first
  cases second
  simp only at scale mantissa sign
  subst scale mantissa sign
  rfl

/-- A larger number with at least as many digits has a larger mantissa. -/
theorem mantissa_le_of_value_le
    {first second : Decimal}
    (unsigned : first.negative = false)
    (positive : second.negative = false)
    (le : first.value ≤ second.value)
    (scale_le : first.scale ≤ second.scale) :
    first.mantissa ≤ second.mantissa := by
  rw [value_of_unsigned unsigned, value_of_unsigned positive,
    div_le_div_iff₀ (tenTo_cast_pos _) (tenTo_cast_pos _)] at le
  have crossed :
      first.mantissa * tenTo second.scale ≤
        second.mantissa * tenTo first.scale := by
    exact_mod_cast le
  have powers : tenTo first.scale ≤ tenTo second.scale :=
    Nat.pow_le_pow_right (by decide) scale_le
  apply Nat.le_of_mul_le_mul_right _ (tenTo_pos first.scale)
  calc
    first.mantissa * tenTo first.scale
        ≤ first.mantissa * tenTo second.scale :=
      Nat.mul_le_mul_left _ powers
    _ ≤ second.mantissa * tenTo first.scale := crossed

/-- One more term of a sum. -/
theorem Compact.exists_add?
    {top : Nat}
    {sum term : Decimal}
    (compact : Compact top sum)
    (other : Compact term.scale term)
    (representable : Representable (sum.value + term.value)) :
    ∃ result,
      sum.add? term = some result ∧
      result.value = sum.value + term.value ∧
      Compact (max top term.scale) result := by
  unfold add?
  cases none : sum.isZero with
  | true =>
    rw [(value_eq_zero_iff sum).mpr none, zero_add, compact.bare none,
      Nat.zero_max]
    exact ⟨term, rfl, rfl, other⟩
  | false =>
    cases nothing : term.isZero with
    | true =>
      rw [(value_eq_zero_iff term).mpr nothing, add_zero, other.bare nothing,
        Nat.max_zero]
      exact ⟨sum, rfl, rfl, compact⟩
    | false =>
      rcases exists_addNonzero representable with
        ⟨result, added, same, scale_le, full, negative⟩
      have unsigned : result.negative = false := by
        rw [← Bool.not_eq_true]
        intro signed
        have below := negative signed
        rw [same] at below
        have := compact.value_nonneg
        have := other.value_nonneg
        linarith
      refine ⟨result, added, same, unsigned, ?_, ?_, ?_⟩
      · have := compact.scale_le
        omega
      · intro fewer
        by_cases dropped : result.scale < max sum.scale term.scale
        · exact full dropped
        · -- All digits of the operands are kept, so the sum lost some before.
          have wide : mantissaBound ≤ sum.mantissa * 10 :=
            compact.full (by omega)
          have larger : sum.mantissa ≤ result.mantissa := by
            apply mantissa_le_of_value_le compact.unsigned unsigned
            · rw [same]
              have := other.value_nonneg
              linarith
            · omega
          omega
      · intro vanished
        rw [← value_eq_zero_iff, same] at vanished
        have absent : sum.value = 0 := by
          have := compact.value_nonneg
          have := other.value_nonneg
          linarith
        rw [value_eq_zero_iff, none] at absent
        contradiction

/-- The most fraction digits of any of some numbers. -/
def mostDigits (terms : List Decimal) : Nat :=
  (terms.map scale).foldr max 0

/-- Further terms of a sum. -/
theorem Compact.exists_foldlM
    {terms : List Decimal}
    (each : ∀ term ∈ terms, Compact term.scale term)
    {top : Nat}
    {sum : Decimal}
    (compact : Compact top sum)
    (representable : ∀ part, part <+: terms →
      Representable (sum.value + (part.map value).sum)) :
    ∃ result,
      terms.foldlM add? sum = some result ∧
      result.value = sum.value + (terms.map value).sum ∧
      Compact (max top (mostDigits terms)) result := by
  induction terms generalizing top sum with
  | nil =>
    refine ⟨sum, rfl, (add_zero _).symm, ?_⟩
    exact (Nat.max_zero top).symm ▸ compact
  | cons term rest hypothesis =>
    have first : Representable (sum.value + term.value) := by
      have := representable [term] ⟨rest, rfl⟩
      simpa using this
    rcases compact.exists_add? (each term (List.mem_cons_self ..)) first with
      ⟨next, added, same, grown⟩
    have later (part : List Decimal) (prior : part <+: rest) :
        Representable (next.value + (part.map value).sum) := by
      have := representable (term :: part)
        (List.cons_prefix_cons.mpr ⟨rfl, prior⟩)
      rw [same, add_assoc]
      simpa using this
    rcases hypothesis
        (fun other member => each other (List.mem_cons_of_mem _ member))
        grown later with
      ⟨result, folded, equal, shape⟩
    refine ⟨result, ?_, ?_, ?_⟩
    · rw [List.foldlM_cons, added]
      exact folded
    · rw [equal, same, List.map_cons, List.sum_cons, add_assoc]
    · rw [Nat.max_assoc] at shape
      exact shape

/-- The sum of numbers whose partial sums are not rounded. -/
theorem exists_foldlM
    {terms : List Decimal}
    (each : ∀ term ∈ terms, Compact term.scale term)
    (representable : ∀ part, part <+: terms →
      Representable (part.map value).sum) :
    ∃ result,
      terms.foldlM add? zero = some result ∧
      result.value = (terms.map value).sum ∧
      Compact (mostDigits terms) result := by
  rcases compact_zero.exists_foldlM each (fun part prior => by
      rw [value_zero, zero_add]
      exact representable part prior) with
    ⟨result, folded, same, compact⟩
  rw [value_zero, zero_add] at same
  rw [Nat.zero_max] at compact
  exact ⟨result, folded, same, compact⟩

theorem mostDigits_of_perm
    {terms others : List Decimal}
    (same : terms.Perm others) :
    mostDigits terms = mostDigits others :=
  (same.map scale).foldr_eq 0

end MandateDesk.Decimal
