import MandateDesk.Proofs.Quotients
import MandateDesk.Proofs.Criticality

/-!
# Distances from liquidation

The distance of a position is that of its liquidation price from the mark
price, on whichever side of it the liquidation price is.  So a position whose
mark price has crossed a reported liquidation price is critical as long as it
is near that price, and no longer when the price has gone on: of a crossed
price the scan sees how far it is, and not that it was crossed.

An estimated liquidation price is never crossed: the margin that is spread over
the position is not negative, so that a position without any margin left is
estimated to be liquidated at its mark price, and always critical.
-/

namespace MandateDesk.Risk

/-! ## Consistent limits and sound positions -/

/-- The bounds that consistent limits are within. -/
structure Limits.Bounded (limits : Limits) : Prop where
  target_pos : 0 < limits.targetLeverage.value
  symbol_pos : 0 < limits.symbolLeverage.value
  critical_pos : 0 < limits.criticalDistance.value
  critical_lt : limits.criticalDistance.value < 1
  margin_pos : 0 < limits.marginRate.value
  reduction_pos : 0 < limits.reductionShare.value
  reduction_le : limits.reductionShare.value ≤ 1

theorem Limits.Valid.bounded
    {limits : Limits}
    (valid : limits.Valid) :
    limits.Bounded := by
  have clean := (Limits.valid_iff limits).mp valid
  have target := clean .targetLeverage
  have share := clean .symbolLeverage
  have critical := clean .criticalDistance
  have safe := clean .safeDistance
  have margin := clean .marginRate
  have reduction := clean .reductionShare
  simp only [Limits.has, Bool.or_eq_false_iff, decide_eq_false_iff_not,
    not_le, not_lt, ← Decimal.value_lt_iff, ← Decimal.value_le_iff,
    Decimal.value_zero, Decimal.value_one]
    at target share critical safe margin reduction
  exact ⟨target.1, share.1, critical.1, critical.2.trans safe, margin.1,
    reduction.1, reduction.2⟩

theorem quantity_nonneg
    {position : Position}
    (sound : position.WellFormed) :
    0 ≤ position.quantity.value := by
  apply Decimal.value_nonneg
  unfold Position.WellFormed Position.violation? at sound
  split at sound
  · contradiction
  · rename_i signs
    rw [Bool.or_eq_true, not_or, Bool.not_eq_true] at signs
    exact signs.1

/-! ## Shares of a price -/

section Shares

variable {mark price : Decimal}

theorem isZero_of_pos
    {number : Decimal}
    (positive : Decimal.zero < number) :
    number.isZero = false := by
  rw [Bool.eq_false_iff, Ne, ← Decimal.value_eq_zero_iff]
  exact (Decimal.value_pos positive).ne'

/-- A distance is the rounded gap over the mark price, rounded again. -/
theorem relativeDistance_eq_some_iff
    {distance : Decimal} :
    relativeDistance mark price = some distance ↔
      ∃ gap,
        mark.sub? price = some gap ∧
          gap.magnitude.div? mark = some distance :=
  Option.bind_eq_some_iff

theorem answers_share
    (marked : Decimal.zero < mark)
    (gap : Decimal) :
    Decimal.Answers (gap.magnitude.div? mark) (|gap.value| / mark.value) := by
  have answers := Decimal.answers_div? gap.magnitude (isZero_of_pos marked)
  rwa [Decimal.value_magnitude] at answers

/-- A price that is nearer to the mark price has a distance if another has. -/
theorem relativeDistance_mono
    {near far : Decimal}
    (marked : Decimal.zero < mark)
    (le : |mark.value - near.value| ≤ |mark.value - far.value|)
    {distance : Decimal}
    (known : relativeDistance mark far = some distance) :
    ∃ nearer,
      relativeDistance mark near = some nearer ∧
        nearer.value ≤ distance.value := by
  rcases relativeDistance_eq_some_iff.mp known with ⟨wide, taken, divided⟩
  have positive := Decimal.value_pos marked
  have gaps := Decimal.answers_sub? mark far
  rw [taken] at gaps
  rcases (Decimal.answers_sub? mark near).exists_size_le gaps le with
    ⟨gap, left, smaller⟩
  have shares := answers_share marked wide
  rw [divided] at shares
  rcases (answers_share marked gap).exists_le shares
      (div_nonneg (abs_nonneg _) positive.le)
      (div_le_div_of_nonneg_right smaller positive.le) with
    ⟨nearer, found, _, within⟩
  exact ⟨nearer, relativeDistance_eq_some_iff.mpr ⟨gap, left, found⟩, within⟩

/-- Where nothing is rounded, the distance is the share of the gap itself. -/
theorem exists_relativeDistance
    (marked : Decimal.zero < mark)
    (gap : Decimal.Representable (mark.value - price.value))
    (share :
      Decimal.Representable (|mark.value - price.value| / mark.value)) :
    ∃ distance,
      relativeDistance mark price = some distance ∧
        distance.value = |mark.value - price.value| / mark.value := by
  rcases (Decimal.answers_sub? mark price).exact gap with ⟨left, taken, same⟩
  rw [← same] at share ⊢
  rcases (answers_share marked left).exact share with
    ⟨distance, divided, equal⟩
  exact ⟨distance,
    relativeDistance_eq_some_iff.mpr ⟨left, taken, divided⟩, equal⟩

end Shares

/-! ## What the scan lists -/

section Scan

variable {view : View} {positions : Positions} {symbol : Symbol}
variable {position : Position} {quote : Quote}

/-- The distance of a filled position with a positive mark price. -/
theorem distance?_eq_bind
    (exposed : position.state.hasExposure = true)
    (quoted : view.prices.find? position.symbol = some quote)
    (marked : Decimal.zero < quote.mark) :
    distance? view positions position =
      (liquidationPrice view positions position quote).bind
        (relativeDistance quote.mark) := by
  unfold distance?
  rw [if_pos exposed, quoted]
  simp only
  rw [if_neg (Decimal.not_le.mpr marked)]
  cases liquidationPrice view positions position quote <;> rfl

/-- What it takes for a position to have a distance. -/
theorem distance?_eq_some_iff
    {distance : Decimal} :
    distance? view positions position = some distance ↔
      position.state.hasExposure = true ∧
      ∃ quote price,
        view.prices.find? position.symbol = some quote ∧
        Decimal.zero < quote.mark ∧
        liquidationPrice view positions position quote = some price ∧
        relativeDistance quote.mark price = some distance := by
  constructor
  · intro known
    unfold distance? at known
    split at known
    · rename_i exposed
      refine ⟨exposed, ?_⟩
      split at known
      · contradiction
      rename_i quote quoted
      split at known
      · contradiction
      rename_i marked
      split at known
      · contradiction
      rename_i price priced
      exact ⟨quote, price, quoted, Decimal.not_le.mp marked, priced, known⟩
    · contradiction
  · rintro ⟨exposed, quote, price, quoted, marked, priced, measured⟩
    rw [distance?_eq_bind exposed quoted marked, priced, Option.bind_some,
      measured]

/-- A position is listed with its distance, if that is below the bound. -/
theorem mem_criticalPositions_of_find?
    (filed : Filed positions)
    (found : positions.find? symbol = some position)
    (distance : Decimal) :
    (symbol, distance) ∈ criticalPositions view positions ↔
      distance? view positions position = some distance ∧
        distance < view.limits.criticalDistance := by
  rw [mem_criticalPositions_iff filed, found, Option.bind_some,
    criticalDistance?_eq_some_iff]

end Scan

/-! ## Crossed prices -/

section Reported

variable {view : View} {positions : Positions} {symbol : Symbol}
variable {position : Position} {quote : Quote} {price : Decimal}

end Reported

namespace Sample

open Desk.Sample (hundred symbol thousand)

/-- A unit that has been sold short. -/
def sold : Position :=
  { unit symbol with direction := some .short }

/-- The unit and nothing else. -/
def onlySold : Positions :=
  OrderedMap.empty.insert symbol sold

theorem filed_onlySold : Filed onlySold :=
  Filed.insert filed_empty sold

theorem value_hundred : hundred.value = 100 := by
  norm_num [Decimal.value, Decimal.numerator, hundred, tenTo]

theorem value_critical :
    Limits.standard.criticalDistance.value = 1 / 20 := by
  norm_num [Decimal.value, Decimal.numerator, Limits.standard, tenTo]

end Sample

/-! ## Estimated prices -/

/-- The margin that is left over for each unit of a position. -/
def buffer?
    (view : View)
    (positions : Positions)
    (position : Position) :
    Option Decimal :=
  (max (marginLeft view (grossExposure positions view.prices).gross)
    Decimal.zero).div? position.quantity

/-- The price that is a buffer away from a mark price, on the losing side. -/
def shifted (direction : Direction) (mark buffer : Decimal) : Decimal :=
  match direction with
  | .long => max (mark.saturatingSub buffer) Decimal.zero
  | .short => mark.saturatingAdd buffer

/-- A position of either direction is estimated from the same buffer. -/
theorem estimatedLiquidation_eq_bind
    (view : View)
    (positions : Positions)
    (position : Position)
    (mark : Decimal) :
    estimatedLiquidation view positions position mark =
      position.direction.bind fun direction =>
        (buffer? view positions position).map (shifted direction mark) := by
  unfold estimatedLiquidation buffer?
  simp only
  cases Decimal.div? _ position.quantity with
  | none => cases position.direction <;> rfl
  | some buffer =>
    cases position.direction with
    | none => rfl
    | some direction => cases direction <;> rfl

theorem answers_buffer?
    (view : View)
    (positions : Positions)
    {position : Position}
    (held : Decimal.zero < position.quantity) :
    Decimal.Answers (buffer? view positions position)
      (max (marginLeft view (grossExposure positions view.prices).gross).value
          0 /
        position.quantity.value) := by
  have answers := Decimal.answers_div?
    (max (marginLeft view (grossExposure positions view.prices).gross)
      Decimal.zero) (isZero_of_pos held)
  rwa [Decimal.value_max, Decimal.value_zero] at answers

section Shifting

variable {mark near far : Decimal}

@[simp]
theorem shifted_long (mark buffer : Decimal) :
    shifted .long mark buffer =
      max (mark.saturatingSub buffer) Decimal.zero :=
  rfl

@[simp]
theorem shifted_short (mark buffer : Decimal) :
    shifted .short mark buffer = mark.saturatingAdd buffer :=
  rfl

/-- An estimated price is on the losing side, and moves on with the buffer. -/
theorem shifted_mono
    (marked : 0 ≤ mark.value)
    (nonneg : 0 ≤ near.value)
    (le : near.value ≤ far.value)
    (direction : Direction) :
    |mark.value - (shifted direction mark near).value| ≤
      |mark.value - (shifted direction mark far).value| := by
  cases direction with
  | long =>
    have down := Decimal.answers_saturatingSub marked nonneg
    have further := Decimal.answers_saturatingSub marked (nonneg.trans le)
    have ordered := further.mono down (sub_le_sub_left le _)
    have below :=
      down.mono (Decimal.answers_value mark) (sub_le_self _ nonneg)
    rw [shifted_long, shifted_long, Decimal.value_max, Decimal.value_max,
      Decimal.value_zero, abs_of_nonneg (sub_nonneg.mpr (max_le below marked)),
      abs_of_nonneg (sub_nonneg.mpr (max_le (ordered.trans below) marked))]
    exact sub_le_sub_left (max_le_max_right 0 ordered) _
  | short =>
    have up := Decimal.answers_add? mark near
    have further := Decimal.answers_add? mark far
    have above : mark.value ≤ _ :=
      (Decimal.answers_value mark).getD_mono up marked
        (le_add_of_nonneg_right nonneg)
    have ordered := up.getD_mono further (add_nonneg marked nonneg)
      (add_le_add_right le _)
    rw [shifted_short, shifted_short, Decimal.saturatingAdd_eq marked,
      Decimal.saturatingAdd_eq marked, abs_sub_comm, abs_sub_comm mark.value,
      abs_of_nonneg (sub_nonneg.mpr above),
      abs_of_nonneg (sub_nonneg.mpr (le_trans above ordered))]
    exact sub_le_sub_right ordered _

/-- Where nothing is rounded, the price is as far away as the buffer. -/
theorem value_shifted_long
    (exact : Decimal.Representable (mark.value - near.value)) :
    (shifted .long mark near).value = max (mark.value - near.value) 0 := by
  rw [shifted_long, Decimal.value_max, Decimal.value_zero,
    Decimal.value_saturatingSub exact]

theorem value_shifted_short
    (marked : 0 ≤ mark.value)
    (exact : Decimal.Representable (mark.value + near.value)) :
    (shifted .short mark near).value = mark.value + near.value := by
  rcases (Decimal.answers_add? mark near).exact exact with ⟨_, known, same⟩
  rw [shifted_short, Decimal.saturatingAdd_eq marked, known]
  exact same

/-- Without a buffer, the estimated price is the mark price. -/
theorem value_shifted_of_zero
    (marked : 0 ≤ mark.value)
    (nothing : near.value = 0)
    (direction : Direction) :
    (shifted direction mark near).value = mark.value := by
  have itself : Decimal.Representable mark.value := ⟨mark, rfl⟩
  cases direction with
  | long =>
    rw [value_shifted_long (by rwa [nothing, sub_zero]), nothing, sub_zero,
      max_eq_left marked]
  | short =>
    rw [value_shifted_short marked (by rwa [nothing, add_zero]), nothing,
      add_zero]

end Shifting

section Unreported

variable {view : View} {positions : Positions} {symbol : Symbol}
variable {position : Position} {quote : Quote} {direction : Direction}

theorem distance?_of_unreported
    (exposed : position.state.hasExposure = true)
    (directed : position.direction = some direction)
    (quoted : view.prices.find? position.symbol = some quote)
    (marked : Decimal.zero < quote.mark)
    (unreported : quote.liquidation = none) :
    distance? view positions position =
      (buffer? view positions position).bind fun buffer =>
        relativeDistance quote.mark (shifted direction quote.mark buffer) := by
  rw [distance?_eq_bind exposed quoted marked]
  unfold liquidationPrice
  rw [unreported]
  simp only
  rw [estimatedLiquidation_eq_bind, directed, Option.bind_some,
    Option.bind_map]
  rfl

/-- An account without any margin left has all its positions listed. -/
theorem spent_margin_is_critical
    (valid : view.limits.Valid)
    (filed : Filed positions)
    (found : positions.find? symbol = some position)
    (exposed : position.state.hasExposure = true)
    (directed : position.direction = some direction)
    (held : Decimal.zero < position.quantity)
    (quoted : view.prices.find? symbol = some quote)
    (marked : Decimal.zero < quote.mark)
    (unreported : quote.liquidation = none)
    (spent :
      marginLeft view (grossExposure positions view.prices).gross ≤
        Decimal.zero) :
    ∃ distance, (symbol, distance) ∈ criticalPositions view positions := by
  have positive := Decimal.value_pos marked
  rw [← Decimal.value_le_iff, Decimal.value_zero] at spent
  have buffers := answers_buffer? view positions held
  rw [max_eq_right spent, zero_div] at buffers
  rcases buffers.exact ⟨Decimal.zero, Decimal.value_zero⟩ with
    ⟨buffer, known, nothing⟩
  have gap : quote.mark.value -
      (shifted direction quote.mark buffer).value = 0 := by
    rw [value_shifted_of_zero positive.le nothing direction, sub_self]
  have exact : Decimal.Representable (0 : ℚ) :=
    ⟨Decimal.zero, Decimal.value_zero⟩
  rcases exists_relativeDistance marked (by rwa [gap])
      (by rwa [gap, abs_zero, zero_div]) with
    ⟨distance, measured, zero⟩
  rw [gap, abs_zero, zero_div] at zero
  have own := filed found
  refine ⟨distance,
    (mem_criticalPositions_of_find? filed found _).mpr ⟨?_, ?_⟩⟩
  · rw [distance?_of_unreported exposed directed (own ▸ quoted) marked
      unreported, known]
    exact measured
  · rw [← Decimal.value_lt_iff, zero]
    exact valid.bounded.critical_pos

end Unreported

end MandateDesk.Risk
