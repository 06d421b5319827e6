import MandateDesk.Proofs.Distances

/-!
# Margins behind estimated distances

Where no liquidation price is reported, the distance of a position is that of
an estimated price, which lies below the mark price of a long position, but not
below zero, and above that of a short one.  Where nothing is rounded all of
this cancels out: a position is critical if the margin that the account has
left is below the critical share of what the position is worth, whatever its
direction.  A long position whose estimated price is cut off at zero is a whole
price away from it, and the critical distance is less than that.
-/

namespace MandateDesk.Risk

/-! ## Exact gross exposures -/

section Gross

variable {prices : Prices} {positions : Positions}

/-- A position adds its exposure, which is nothing without a quote. -/
theorem value_including
    {exposure : GrossExposure}
    {position : Position}
    (term :
      Decimal.Representable
        (exposureOf prices (position.symbol, exposedQuantity position)))
    (sum :
      Decimal.Representable
        (exposure.gross.value +
          exposureOf prices (position.symbol, exposedQuantity position))) :
    (GrossExposure.including prices exposure position).gross.value =
      exposure.gross.value +
        exposureOf prices (position.symbol, exposedQuantity position) := by
  unfold GrossExposure.including
  cases quoted : prices.find? position.symbol with
  | none =>
    have nothing :
        exposureOf prices (position.symbol, exposedQuantity position) = 0 := by
      unfold exposureOf markOf
      rw [quoted, mul_zero, abs_zero]
    rw [nothing, add_zero]
  | some quote =>
    rcases figure?_eq quoted term with ⟨computed, worth, _⟩
    have counted :
        exposure? position quote.mark =
          some (figure prices (position.symbol, exposedQuantity position)) := by
      unfold figure? at computed
      rw [quoted] at computed
      exact computed
    rw [← worth] at sum ⊢
    rcases (Decimal.answers_add? exposure.gross _).exact sum with
      ⟨result, added, same⟩
    simp only [counted, GrossExposure.sum?, Option.bind_some, added]
    exact same

/-- The gross exposure of a book is exact where no sum in it is rounded. -/
theorem value_grossExposure
    (filed : Filed positions)
    (summable : Summable prices (load positions)) :
    (grossExposure positions prices).gross.value =
      total prices (load positions).entries := by
  have parts (part : List Position) (prior : part <+: exposed positions) :
      (part.foldl (GrossExposure.including prices)
          GrossExposure.none).gross.value =
        total prices
          (part.map fun position =>
            (position.symbol, exposedQuantity position)) := by
    induction part using List.reverseRecOn with
    | nil => exact Decimal.value_zero
    | append_singleton part position hypothesis =>
      have listed := prior.map fun position : Position =>
        (position.symbol, exposedQuantity position)
      rw [← entries_load filed] at listed
      have term := summable.terms (position.symbol, exposedQuantity position)
        (listed.subset (by simp))
      have sum := summable.sums _ listed
      have whole := hypothesis ((List.prefix_append _ _).trans prior)
      rw [List.map_append, total, List.map_append, List.sum_append] at sum ⊢
      rw [List.map_singleton, List.map_singleton, List.sum_singleton] at sum ⊢
      rw [← total, ← whole] at sum ⊢
      rw [List.foldl_append]
      exact value_including term sum
  rw [entries_load filed]
  exact parts (exposed positions) List.prefix_rfl

end Gross

/-! ## The spare margin -/

/-- The exact margin that an account has left; zero where it has none. -/
def spare (view : View) (positions : Positions) : ℚ :=
  max
    (view.account.equity.value -
      view.limits.marginRate.value *
        total view.prices (load positions).entries)
    0

/-- The exact price that a buffer moves a mark price to. -/
def moved (direction : Direction) (mark buffer : ℚ) : ℚ :=
  match direction with
  | .long => mark - buffer
  | .short => mark + buffer

/-- How far an estimated price is away, which is no further than zero. -/
def reach (direction : Direction) (mark buffer : ℚ) : ℚ :=
  match direction with
  | .long => min buffer mark
  | .short => buffer

/-- No operation behind the estimated distance of a position is rounded. -/
structure Unrounded
    (view : View)
    (positions : Positions)
    (position : Position)
    (direction : Direction)
    (mark : ℚ) :
    Prop where
  exposures : Summable view.prices (load positions)
  charged :
    Decimal.Representable
      (view.limits.marginRate.value *
        total view.prices (load positions).entries)
  left :
    Decimal.Representable
      (view.account.equity.value -
        view.limits.marginRate.value *
          total view.prices (load positions).entries)
  spread :
    Decimal.Representable (spare view positions / position.quantity.value)
  price :
    Decimal.Representable
      (moved direction mark (spare view positions / position.quantity.value))
  share :
    Decimal.Representable
      (reach direction mark (spare view positions / position.quantity.value) /
        mark)

section Reaching

variable {mark buffer bound : ℚ}

/-- What is cut off at the whole price is not below a share of it. -/
theorem reach_lt_iff
    (positive : 0 < mark)
    (share : bound < 1)
    (direction : Direction) :
    reach direction mark buffer < bound * mark ↔ buffer < bound * mark := by
  cases direction with
  | long =>
    have whole : ¬ mark < bound * mark :=
      not_lt_of_ge (mul_le_of_le_one_left positive.le share.le)
    show min buffer mark < _ ↔ _
    rw [min_lt_iff, or_iff_left whole]
  | short => exact Iff.rfl

theorem reach_eq
    (within : buffer ≤ mark)
    (direction : Direction) :
    reach direction mark buffer = buffer := by
  cases direction with
  | long => exact min_eq_left within
  | short => rfl

theorem representable_reach
    (price spread : Decimal)
    (direction : Direction) :
    Decimal.Representable (reach direction price.value spread.value) := by
  cases direction with
  | long =>
    show Decimal.Representable (min spread.value price.value)
    rw [← Decimal.value_min]
    exact ⟨_, rfl⟩
  | short => exact ⟨spread, rfl⟩

/-- The estimated price is where the buffer reaches to. -/
theorem abs_sub_shifted
    {price spread : Decimal}
    (marked : 0 ≤ price.value)
    (nonneg : 0 ≤ spread.value)
    (direction : Direction)
    (exact :
      Decimal.Representable (moved direction price.value spread.value)) :
    |price.value - (shifted direction price spread).value| =
      reach direction price.value spread.value := by
  cases direction with
  | long =>
    have below : max (price.value - spread.value) 0 ≤ price.value :=
      max_le (sub_le_self _ nonneg) marked
    rw [value_shifted_long exact, abs_of_nonneg (sub_nonneg.mpr below)]
    show _ = min spread.value price.value
    rcases le_total spread.value price.value with within | beyond
    · rw [max_eq_left (sub_nonneg.mpr within), sub_sub_cancel,
        min_eq_left within]
    · rw [max_eq_right (sub_nonpos.mpr beyond), sub_zero, min_eq_right beyond]
  | short =>
    rw [value_shifted_short marked exact, sub_add_cancel_left, abs_neg,
      abs_of_nonneg nonneg]
    rfl

end Reaching

/-! ## The distance as a share of the margin -/

section Ratio

variable {view : View} {positions : Positions} {symbol : Symbol}
variable {position : Position} {quote : Quote} {direction : Direction}

/-- The margin that is left is spread over the position without rounding. -/
theorem exists_buffer
    (filed : Filed positions)
    (held : Decimal.zero < position.quantity)
    (exact : Unrounded view positions position direction quote.mark.value) :
    ∃ buffer,
      buffer? view positions position = some buffer ∧
        buffer.value = spare view positions / position.quantity.value := by
  have gross := value_grossExposure filed exact.exposures
  have left :
      (marginLeft view (grossExposure positions view.prices).gross).value =
        view.account.equity.value -
          view.limits.marginRate.value *
            total view.prices (load positions).entries := by
    have charged := exact.charged
    have rest := exact.left
    rw [← gross, mul_comm] at charged rest ⊢
    rw [← Decimal.value_saturatingMul charged] at rest ⊢
    exact Decimal.value_saturatingSub rest
  have answers := answers_buffer? view positions held
  rw [left] at answers
  exact answers.exact exact.spread

/-- Without rounding, the distance is that of the exact estimated price. -/
theorem exists_distance
    (filed : Filed positions)
    (exposed : position.state.hasExposure = true)
    (directed : position.direction = some direction)
    (held : Decimal.zero < position.quantity)
    (quoted : view.prices.find? position.symbol = some quote)
    (marked : Decimal.zero < quote.mark)
    (unreported : quote.liquidation = none)
    (exact : Unrounded view positions position direction quote.mark.value) :
    ∃ distance,
      distance? view positions position = some distance ∧
        distance.value =
          reach direction quote.mark.value
              (spare view positions / position.quantity.value) /
            quote.mark.value := by
  rcases exists_buffer filed held exact with ⟨buffer, known, spread⟩
  have price := exact.price
  have share := exact.share
  rw [← spread] at price share ⊢
  have positive := Decimal.value_pos marked
  have nonneg : 0 ≤ buffer.value := by
    rw [spread]
    exact div_nonneg (le_max_right _ _) (Decimal.value_pos held).le
  have gap := abs_sub_shifted positive.le nonneg direction price
  rw [← gap] at share ⊢
  have left : Decimal.Representable
      (quote.mark.value - (shifted direction quote.mark buffer).value) := by
    rw [← Decimal.representable_abs_iff, gap]
    exact representable_reach quote.mark buffer direction
  rcases exists_relativeDistance marked left share with
    ⟨distance, measured, value⟩
  refine ⟨distance, ?_, value⟩
  rw [distance?_of_unreported exposed directed quoted marked unreported, known]
  exact measured

end Ratio

/--
Where no liquidation price is reported and nothing is rounded, a position is
critical if and only if the margin that is left, or zero, is below the critical
share of what the position is worth, for long and for short positions alike.
The distance that is listed is then that margin over what the position is worth.
-/
theorem estimated_distance_is_a_margin_ratio
    {view : View}
    {positions : Positions}
    {symbol : Symbol}
    {position : Position}
    {quote : Quote}
    {direction : Direction}
    (valid : view.limits.Valid)
    (filed : Filed positions)
    (found : positions.find? symbol = some position)
    (exposed : position.state.hasExposure = true)
    (directed : position.direction = some direction)
    (held : Decimal.zero < position.quantity)
    (quoted : view.prices.find? symbol = some quote)
    (marked : Decimal.zero < quote.mark)
    (unreported : quote.liquidation = none)
    (exact : Unrounded view positions position direction quote.mark.value) :
    ((∃ distance, (symbol, distance) ∈ criticalPositions view positions) ↔
      spare view positions <
        view.limits.criticalDistance.value * position.quantity.value *
          quote.mark.value) ∧
    ∀ distance,
      (symbol, distance) ∈ criticalPositions view positions →
        distance.value =
          spare view positions /
            (position.quantity.value * quote.mark.value) := by
  have own := filed found
  rcases exists_distance filed exposed directed held (own ▸ quoted) marked
      unreported exact with
    ⟨known, measured, value⟩
  have share := valid.bounded.critical_lt
  have positive := Decimal.value_pos marked
  have quantity := Decimal.value_pos held
  have critical :
      known < view.limits.criticalDistance ↔
        spare view positions / position.quantity.value <
          view.limits.criticalDistance.value * quote.mark.value := by
    rw [← Decimal.value_lt_iff, value, div_lt_iff₀ positive]
    exact reach_lt_iff positive share direction
  have listed (distance : Decimal) :
      (symbol, distance) ∈ criticalPositions view positions ↔
        distance = known ∧ distance < view.limits.criticalDistance := by
    rw [mem_criticalPositions_of_find? filed found, measured,
      Option.some.injEq, eq_comm]
  constructor
  · rw [mul_right_comm, ← div_lt_iff₀ quantity, ← critical]
    constructor
    · rintro ⟨_, member⟩
      rcases (listed _).mp member with ⟨rfl, below⟩
      exact below
    · intro below
      exact ⟨known, (listed known).mpr ⟨rfl, below⟩⟩
  · intro distance member
    rcases (listed distance).mp member with ⟨rfl, below⟩
    have nearby := critical.mp below
    have within :
        spare view positions / position.quantity.value ≤ quote.mark.value :=
      nearby.le.trans (mul_le_of_le_one_left positive.le share.le)
    rw [value, reach_eq within, div_div]

namespace Sample

open Desk.Sample (hundred one symbol)

theorem scarce_mantissa : 25 < Decimal.mantissaBound := by decide

theorem scarce_scale : 1 ≤ 28 := by decide

/-- An equity of two and a half. -/
def scarce : Decimal :=
  ⟨false, 25, 1, scarce_mantissa, scarce_scale⟩

/-- An account with little equity, and a mark price of a hundred. -/
def strained : View where
  limits := .standard
  account := ⟨scarce⟩
  prices := OrderedMap.empty.insert symbol ⟨hundred, none⟩

theorem find?_strained :
    strained.prices.find? symbol = some ⟨hundred, none⟩ :=
  OrderedMap.find?_insert_self ..

theorem entries_onlySold : (load onlySold).entries = [(symbol, one)] := by
  decide +kernel

theorem exposureOf_one : exposureOf strained.prices (symbol, one) = 100 := by
  unfold exposureOf markOf
  rw [find?_strained]
  show |one.value * hundred.value| = 100
  rw [show one.value = 1 from Decimal.value_one, value_hundred]
  norm_num

theorem value_marginRate : strained.limits.marginRate.value = 1 / 200 := by
  norm_num [Decimal.value, Decimal.numerator, strained, Limits.standard, tenTo]

theorem value_equity : strained.account.equity.value = 5 / 2 := by
  norm_num [Decimal.value, Decimal.numerator, strained, scarce, tenTo]

theorem total_onlySold :
    total strained.prices (load onlySold).entries = 100 := by
  unfold total
  rw [entries_onlySold, List.map_singleton, List.sum_singleton,
    exposureOf_one]

theorem spare_strained : spare strained onlySold = 2 := by
  unfold spare
  rw [total_onlySold, value_marginRate, value_equity]
  norm_num

/-- All figures behind the distance have at most two fraction digits. -/
theorem unrounded_sold :
    Unrounded strained onlySold sold .short hundred.value := by
  have buffer : spare strained onlySold / sold.quantity.value = 2 := by
    rw [spare_strained, show sold.quantity.value = 1 from Decimal.value_one,
      div_one]
  constructor
  · apply summable_of_grid (Nat.zero_le 28) fun _ => 100
    · intro entry member
      rw [entries_onlySold, List.mem_singleton] at member
      rw [member, exposureOf_one]
      norm_num [tenTo]
    · rw [entries_onlySold]
      decide
  · rw [total_onlySold, value_marginRate]
    refine ⟨⟨false, 5, 1, by decide, by decide⟩, ?_⟩
    norm_num [Decimal.value, Decimal.numerator, tenTo]
  · rw [total_onlySold, value_marginRate, value_equity]
    convert Decimal.representable_natCast (show 2 < _ by decide) using 1
    norm_num
  · rw [buffer]
    exact Decimal.representable_natCast (show 2 < _ by decide)
  · rw [buffer, value_hundred]
    convert Decimal.representable_natCast (show 102 < _ by decide) using 1
    norm_num [moved]
  · rw [buffer, value_hundred]
    refine ⟨twoPercent, ?_⟩
    norm_num [Decimal.value, Decimal.numerator, twoPercent, reach, tenTo]

/-- A short unit that has a margin of two is two percent from liquidation. -/
theorem estimated_distance_is_a_margin_ratio_sold :
    ∃ distance,
      (symbol, distance) ∈ criticalPositions strained onlySold ∧
        distance.value = 2 / 100 := by
  have ratio :=
    estimated_distance_is_a_margin_ratio Limits.standard_valid filed_onlySold
      (OrderedMap.find?_insert_self _ symbol sold) rfl rfl (by decide)
      find?_strained (by decide) rfl unrounded_sold
  have critical : strained.limits.criticalDistance.value = 1 / 20 :=
    value_critical
  simp only [spare_strained, value_hundred, critical,
    show sold.quantity.value = 1 from Decimal.value_one] at ratio
  rcases ratio with ⟨listed, measured⟩
  rcases listed.mpr (by norm_num) with ⟨distance, member⟩
  refine ⟨distance, member, ?_⟩
  rw [measured distance member, one_mul]

end Sample

end MandateDesk.Risk
