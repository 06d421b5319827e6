import MandateDesk.Decimal.Basic

/-!
# Risk limits

The constants that the risk gate works with, and what makes them consistent.
They are checked once and do not change afterwards.
-/

namespace MandateDesk.Risk

/-- The constants of the risk gate. -/
structure Limits where
  /-- The largest leverage of the account. -/
  maxLeverage : Decimal
  /-- The leverage that reductions aim for. -/
  targetLeverage : Decimal
  /-- The largest exposure of one symbol, in units of equity. -/
  symbolLeverage : Decimal
  /-- The distance from liquidation that counts as safe. -/
  safeDistance : Decimal
  /-- The distance from liquidation below which a position is closed. -/
  criticalDistance : Decimal
  /-- The share of an exposure that margin must cover. -/
  marginRate : Decimal
  /-- The least share of a position that a reduction removes. -/
  reductionShare : Decimal
deriving DecidableEq

namespace Limits

/-- The limits that hold unless others are chosen. -/
def standard : Limits where
  maxLeverage := ⟨false, 10, 0, by decide, Decimal.scale_zero_le⟩
  targetLeverage := ⟨false, 5, 0, by decide, Decimal.scale_zero_le⟩
  symbolLeverage := ⟨false, 3, 0, by decide, Decimal.scale_zero_le⟩
  safeDistance := ⟨false, 10, 2, by decide, by decide⟩
  criticalDistance := ⟨false, 5, 2, by decide, by decide⟩
  marginRate := ⟨false, 5, 3, by decide, by decide⟩
  reductionShare := ⟨false, 25, 2, by decide, by decide⟩

/-- What can be inconsistent about limits. -/
inductive Problem where
  /-- The account may have no leverage. -/
  | maxLeverage
  /-- The aim is not within the largest leverage. -/
  | targetLeverage
  /-- The share of a symbol is not within the largest leverage. -/
  | symbolLeverage
  /-- The critical distance is not below the safe one. -/
  | criticalDistance
  /-- The safe distance is the whole price. -/
  | safeDistance
  /-- The margin rate is no share. -/
  | marginRate
  /-- The least reduction is no share. -/
  | reductionShare
deriving DecidableEq

/-- The text of a problem. -/
def Problem.text : Problem → String
  | .maxLeverage => "l_max must be positive"
  | .targetLeverage => "l_target must be in (0, l_max]"
  | .symbolLeverage => "l_symbol_max must be in (0, l_max]"
  | .criticalDistance => "d_critical must be in (0, d_min_safe)"
  | .safeDistance => "d_min_safe must be below 1"
  | .marginRate => "mmr must be in (0, 1)"
  | .reductionShare => "reduction_pct must be in (0, 1]"

/-- Whether limits have a problem. -/
def has (limits : Limits) : Problem → Bool
  | .maxLeverage => limits.maxLeverage ≤ Decimal.zero
  | .targetLeverage =>
    limits.targetLeverage ≤ Decimal.zero ||
      limits.maxLeverage < limits.targetLeverage
  | .symbolLeverage =>
    limits.symbolLeverage ≤ Decimal.zero ||
      limits.maxLeverage < limits.symbolLeverage
  | .criticalDistance =>
    limits.criticalDistance ≤ Decimal.zero ||
      limits.safeDistance ≤ limits.criticalDistance
  | .safeDistance => Decimal.one ≤ limits.safeDistance
  | .marginRate =>
    limits.marginRate ≤ Decimal.zero || Decimal.one ≤ limits.marginRate
  | .reductionShare =>
    limits.reductionShare ≤ Decimal.zero ||
      Decimal.one < limits.reductionShare

/-- All kinds of problems, in the order in which they are reported. -/
def Problem.all : List Problem :=
  [.maxLeverage, .targetLeverage, .symbolLeverage, .criticalDistance,
    .safeDistance, .marginRate, .reductionShare]

/-- The problems of limits, in the order in which they are reported. -/
def problems (limits : Limits) : List Problem :=
  Problem.all.filter limits.has

/-- Whether limits are consistent. -/
def Valid (limits : Limits) : Prop :=
  limits.problems = []

instance (limits : Limits) : Decidable limits.Valid :=
  inferInstanceAs (Decidable (_ = _))

theorem Problem.mem_all (problem : Problem) : problem ∈ Problem.all := by
  cases problem <;> decide

/-- Limits are consistent when they have none of the problems. -/
theorem valid_iff
    (limits : Limits) :
    limits.Valid ↔ ∀ problem, limits.has problem = false := by
  simp [Valid, problems, Problem.mem_all]

theorem standard_valid : standard.Valid := by decide

end Limits

end MandateDesk.Risk
