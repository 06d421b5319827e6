import MandateDesk.Proofs.Margins
import MandateDesk.Proofs.Pricing

/-!
# Entries that ask for less

An entry that is accepted stays accepted if it asks for less or if the account
has more equity.  Every figure behind the decision moves in one direction: the
exposures and the margin grow with the quantity, the quotient that is the
leverage falls when the equity grows, and an estimated liquidation price moves
away from the mark price.  Rounding keeps all these orders, and whatever is in
range stays in range when it becomes smaller.
-/

namespace MandateDesk.Risk

/-! ## Exposures are not negative -/

section Exposures

variable {prices : Prices} {positions : Positions} {symbol : Symbol}

theorem exposure?_nonneg
    {position : Position}
    {mark exposure : Decimal}
    (counted : exposure? position mark = some exposure) :
    0 ≤ exposure.value := by
  rcases Option.map_eq_some_iff.mp counted with ⟨product, _, rfl⟩
  rw [Decimal.value_magnitude]
  exact abs_nonneg _

theorem including_nonneg
    {exposure : GrossExposure}
    (nonneg : 0 ≤ exposure.gross.value)
    (position : Position) :
    0 ≤ (GrossExposure.including prices exposure position).gross.value := by
  unfold GrossExposure.including
  split
  · exact nonneg
  · split
    · rename_i gross summed
      rcases Option.bind_eq_some_iff.mp summed with ⟨added, counted, sum⟩
      have answers := Decimal.answers_add? exposure.gross added
      rw [sum] at answers
      exact answers.nonneg (add_nonneg nonneg (exposure?_nonneg counted))
    · exact nonneg.trans (Decimal.value_le_largest _)

theorem gross_nonneg
    (positions : Positions)
    (prices : Prices) :
    0 ≤ (grossExposure positions prices).gross.value := by
  have folded (members : List Position) (exposure : GrossExposure)
      (nonneg : 0 ≤ exposure.gross.value) :
      0 ≤ (members.foldl (GrossExposure.including prices)
        exposure).gross.value := by
    induction members generalizing exposure with
    | nil => exact nonneg
    | cons position rest hypothesis =>
      exact hypothesis _ (including_nonneg nonneg position)
  exact folded _ GrossExposure.none Decimal.value_zero.ge

theorem heldExposure_nonneg
    {mark held : Decimal}
    (holding : heldExposure positions symbol mark = some held) :
    0 ≤ held.value := by
  unfold heldExposure at holding
  split at holding
  · exact exposure?_nonneg holding
  · cases holding
    exact Decimal.value_zero.ge

/-- A smaller quantity has a smaller exposure. -/
theorem figure_mono
    {quote : Quote}
    {less quantity : Decimal}
    (quoted : prices.find? symbol = some quote)
    (marked : Decimal.zero < quote.mark)
    (positive : Decimal.zero < less)
    (le : less ≤ quantity)
    (computed :
      figure? prices (symbol, quantity) =
        some (figure prices (symbol, quantity))) :
    figure? prices (symbol, less) = some (figure prices (symbol, less)) ∧
      0 ≤ (figure prices (symbol, less)).value ∧
      (figure prices (symbol, less)).value ≤
        (figure prices (symbol, quantity)).value := by
  have shape (amount : Decimal) :
      figure? prices (symbol, amount) =
        (amount.mul? quote.mark).map Decimal.magnitude := by
    unfold figure?
    rw [quoted]
    rfl
  have products := Decimal.answers_mul? quantity quote.mark
  rw [shape] at computed
  rcases Option.map_eq_some_iff.mp computed with ⟨product, whole, same⟩
  rw [whole] at products
  have worth := Decimal.value_pos marked
  rw [← Decimal.value_le_iff] at le
  rcases (Decimal.answers_mul? less quote.mark).exists_le products
      (mul_nonneg (Decimal.value_pos positive).le worth.le)
      (mul_le_mul_of_nonneg_right le worth.le) with
    ⟨part, taken, nonneg, within⟩
  have known :
      figure? prices (symbol, less) = some part.magnitude := by
    rw [shape, taken]
    rfl
  have size : figure prices (symbol, less) = part.magnitude := by
    unfold figure
    rw [known]
    rfl
  refine ⟨size ▸ known, ?_, ?_⟩
  · rw [size, Decimal.value_magnitude]
    exact abs_nonneg _
  · rw [size, ← same, Decimal.value_magnitude, Decimal.value_magnitude,
      abs_of_nonneg nonneg, abs_of_nonneg (nonneg.trans within)]
    exact within

end Exposures

/-! ## Distances with more equity -/

/-- The same prices and limits, with another account. -/
def View.withEquity (view : View) (equity : Decimal) : View :=
  { view with account := ⟨equity⟩ }

section Equity

variable {view : View} {positions : Positions} {equity : Decimal}
variable {position : Position}

theorem marginLeft_mono
    (valid : view.limits.Valid)
    (solvent : 0 ≤ view.account.equity.value)
    (more : view.account.equity ≤ equity)
    {gross : Decimal}
    (nonneg : 0 ≤ gross.value) :
    (marginLeft view gross).value ≤
      (marginLeft (view.withEquity equity) gross).value := by
  have margin := Decimal.saturatingMul_nonneg nonneg valid.bounded.margin_pos.le
  rw [← Decimal.value_le_iff] at more
  exact (Decimal.answers_saturatingSub solvent margin).mono
    (Decimal.answers_saturatingSub (solvent.trans more) margin)
    (sub_le_sub_right more _)

/-- With less equity the buffer of a position is there, too, and smaller. -/
theorem exists_buffer_le
    (valid : view.limits.Valid)
    (solvent : 0 ≤ view.account.equity.value)
    (more : view.account.equity ≤ equity)
    (held : 0 ≤ position.quantity.value)
    {buffer : Decimal}
    (known :
      buffer? (view.withEquity equity) positions position = some buffer) :
    ∃ smaller,
      buffer? view positions position = some smaller ∧
        0 ≤ smaller.value ∧ smaller.value ≤ buffer.value := by
  have present : Decimal.zero < position.quantity := by
    rw [← Decimal.value_lt_iff, Decimal.value_zero]
    refine held.lt_of_ne' fun nothing => ?_
    rw [Decimal.value_eq_zero_iff] at nothing
    unfold buffer? Decimal.div? at known
    rw [if_pos nothing] at known
    contradiction
  have buffers :=
    answers_buffer? (view.withEquity equity) positions present
  rw [known] at buffers
  apply (answers_buffer? view positions present).exists_le buffers
  · exact div_nonneg (le_max_right _ _) held
  · exact div_le_div_of_nonneg_right
      (max_le_max_right 0
        (marginLeft_mono valid solvent more (gross_nonneg _ _))) held

/-- With less equity an estimated price is there, too, and nearer. -/
theorem exists_liquidationPrice_nearer
    (valid : view.limits.Valid)
    (solvent : 0 ≤ view.account.equity.value)
    (more : view.account.equity ≤ equity)
    (held : 0 ≤ position.quantity.value)
    {quote : Quote}
    (marked : 0 ≤ quote.mark.value)
    {price : Decimal}
    (known :
      liquidationPrice (view.withEquity equity) positions position quote =
        some price) :
    ∃ nearer,
      liquidationPrice view positions position quote = some nearer ∧
        |quote.mark.value - nearer.value| ≤
          |quote.mark.value - price.value| := by
  unfold liquidationPrice at known ⊢
  cases reported : quote.liquidation with
  | some listed =>
    rw [reported] at known
    cases known
    exact ⟨_, rfl, le_rfl⟩
  | none =>
    rw [reported] at known
    simp only at known ⊢
    rw [estimatedLiquidation_eq_bind] at known ⊢
    rcases Option.bind_eq_some_iff.mp known with ⟨direction, directed, found⟩
    rcases Option.map_eq_some_iff.mp found with ⟨buffer, there, rfl⟩
    rcases exists_buffer_le valid solvent more held there with
      ⟨smaller, here, nonneg, within⟩
    rw [directed, Option.bind_some, here, Option.map_some]
    exact ⟨_, rfl, shifted_mono marked nonneg within direction⟩

/-- With less equity no position is further away from its liquidation. -/
theorem exists_distance_le
    (valid : view.limits.Valid)
    (solvent : 0 ≤ view.account.equity.value)
    (more : view.account.equity ≤ equity)
    (sound : position.WellFormed)
    {distance : Decimal}
    (known :
      distance? (view.withEquity equity) positions position =
        some distance) :
    ∃ nearer,
      distance? view positions position = some nearer ∧
        nearer.value ≤ distance.value := by
  rcases distance?_eq_some_iff.mp known with
    ⟨exposed, quote, price, quoted, marked, priced, measured⟩
  have positive := Decimal.value_pos marked
  rcases exists_liquidationPrice_nearer valid solvent more
      (quantity_nonneg sound) positive.le priced with
    ⟨estimate, found, closer⟩
  rcases relativeDistance_mono marked closer measured with
    ⟨nearer, there, within⟩
  exact ⟨nearer, distance?_eq_some_iff.mpr
    ⟨exposed, quote, estimate, quoted, marked, found, there⟩, within⟩

theorem criticalDistance?_of_withEquity
    (valid : view.limits.Valid)
    (solvent : 0 ≤ view.account.equity.value)
    (more : view.account.equity ≤ equity)
    (sound : position.WellFormed)
    (safe : criticalDistance? view positions position = none) :
    criticalDistance? (view.withEquity equity) positions position = none := by
  rw [Option.eq_none_iff_forall_ne_some] at safe ⊢
  intro distance known
  rcases criticalDistance?_eq_some_iff.mp known with ⟨measured, below⟩
  rcases exists_distance_le valid solvent more sound measured with
    ⟨nearer, found, within⟩
  apply safe nearer
  refine criticalDistance?_eq_some_iff.mpr ⟨found, ?_⟩
  rw [← Decimal.value_lt_iff] at below ⊢
  exact within.trans_lt below

end Equity

/-! ## The check of a smaller entry -/

section Entries

variable {view : View} {positions : Positions} {action : Action}
variable {quantity equity : Decimal}

/-- The same action for another quantity. -/
def asking (action : Action) (quantity : Decimal) : Action :=
  { action with quantity }

theorem Passed.checkEntry_eq_ok
    (passed : Passed view positions action)
    (directed : action.direction ≠ none) :
    checkEntry view positions action = .ok () := by
  rcases passed with @⟨quote, before, gross, leverage, held, projected, margin,
    available, solvent, sized, quoted, marked, known, computed, added, divided,
    leveraged, holding, share, shared, charged, left, covered⟩
  have named : positiveMark? view.prices action.symbol = some quote.mark := by
    unfold positiveMark?
    rw [quoted, Option.map_some, Option.filter_some, if_pos]
    exact decide_eq_true marked
  have product :
      (action.quantity.mul? quote.mark).map Decimal.magnitude =
        some (figure view.prices (action.symbol, action.quantity)) := by
    unfold figure? at computed
    rw [quoted] at computed
    exact computed
  unfold checkEntry
  simp only
  rw [if_neg (Decimal.not_le.mpr solvent),
    if_neg (not_or.mpr ⟨Decimal.not_le.mpr sized, directed⟩), named]
  unfold checkLimits
  simp only [bind_eq_ok, inRange_eq_ok, checkKnown_eq_ok,
    checkLeverage_eq_ok, checkSymbol_eq_ok, checkMargin_eq_ok]
  rw [known]
  exact ⟨(), rfl, _, product, gross, added, (), ⟨leverage, divided, leveraged⟩,
    (), ⟨held, holding, projected, share, shared⟩, margin, charged, available,
    left, covered⟩

theorem override?_of_accept
    (accepted : judge view positions action = .accept) :
    override? view positions action = none := by
  unfold judge at accepted
  split at accepted
  · contradiction
  · assumption

/-- With more equity no action is overridden that was not before. -/
theorem override?_relaxed
    (quantity : Decimal)
    (valid : view.limits.Valid)
    (solvent : 0 ≤ view.account.equity.value)
    (more : view.account.equity ≤ equity)
    (sound : ∀ position ∈ positions.values, position.WellFormed)
    (stays : override? view positions action = none) :
    override? (view.withEquity equity) positions (asking action quantity) =
      none := by
  unfold override? at stays ⊢
  split at stays
  · rename_i leaves
    exact if_pos leaves
  · rename_i stay
    rw [if_neg (show (asking action quantity).kind ≠ .exit from stay)]
    rw [Option.bind_eq_none_iff] at stays ⊢
    intro position found
    exact criticalDistance?_of_withEquity valid solvent more
      (sound position ((OrderedMap.mem_values_iff _ _).mpr ⟨_, found⟩))
      (stays position found)

theorem direction_of_checkEntry
    (checked : checkEntry view positions action = .ok ()) :
    action.direction ≠ none := by
  unfold checkEntry at checked
  simp only at checked
  split at checked
  · contradiction
  split at checked
  · contradiction
  rename_i sized
  exact fun missing => sized (Or.inr missing)

/-- The figures of an entry pass for a smaller one with more equity. -/
theorem Passed.relaxed
    (passed : Passed view positions action)
    (valid : view.limits.Valid)
    (positive : Decimal.zero < quantity)
    (less : quantity ≤ action.quantity)
    (more : view.account.equity ≤ equity) :
    Passed (view.withEquity equity) positions (asking action quantity) := by
  rcases passed with @⟨quote, before, gross, leverage, held, projected, margin,
    available, solvent, sized, quoted, marked, known, computed, added, divided,
    leveraged, holding, share, shared, charged, left, covered⟩
  have solvent' : Decimal.zero < equity := by
    rw [← Decimal.value_lt_iff] at solvent ⊢
    exact solvent.trans_le ((Decimal.value_le_iff _ _).mpr more)
  have owned := Decimal.value_pos solvent
  have ordered := (Decimal.value_le_iff _ _).mpr more
  rcases figure_mono quoted marked positive less computed with
    ⟨computed', nonneg, within⟩
  -- The sum of all exposures shrinks with the exposure of the entry.
  have whole : 0 ≤ before.value := by
    have gross := gross_nonneg positions view.prices
    rwa [known] at gross
  have sums := Decimal.answers_add? before
    (figure view.prices (action.symbol, action.quantity))
  rw [added] at sums
  rcases (Decimal.answers_add? before
      (figure view.prices (action.symbol, quantity))).exists_le sums
      (add_nonneg whole nonneg) (add_le_add_right within _) with
    ⟨gross', added', whole', lighter⟩
  have quotients := Decimal.answers_div? gross (isZero_of_pos solvent)
  rw [divided] at quotients
  rcases (Decimal.answers_div? gross' (isZero_of_pos solvent')).exists_le
      quotients (div_nonneg whole' (owned.trans_le ordered).le)
      (div_le_div₀ (whole'.trans lighter) lighter owned ordered) with
    ⟨leverage', divided', _, calmer⟩
  -- So does what is held of the symbol, whose share grows with the equity.
  have shares := Decimal.answers_add? held
    (figure view.prices (action.symbol, action.quantity))
  rw [share] at shares
  rcases (Decimal.answers_add? held
      (figure view.prices (action.symbol, quantity))).exists_le shares
      (add_nonneg (heldExposure_nonneg holding) nonneg)
      (add_le_add_right within _) with
    ⟨projected', share', _, narrower⟩
  have wider := Decimal.saturatingMul_mono valid.bounded.symbol_pos.le
    owned.le ordered
  -- The margin shrinks with the sum, so that more of the equity is left.
  have charges := Decimal.answers_mul? gross view.limits.marginRate
  rw [charged] at charges
  rcases (Decimal.answers_mul? gross' view.limits.marginRate).exists_le
      charges (mul_nonneg whole' valid.bounded.margin_pos.le)
      (mul_le_mul_of_nonneg_right lighter valid.bounded.margin_pos.le) with
    ⟨margin', charged', cost, cheaper⟩
  have rests := Decimal.answers_sub? view.account.equity margin
  rw [left] at rests
  have left' := Decimal.sub?_eq_some (owned.le.trans ordered) cost
  have richer := rests.mono
    (Decimal.answers_saturatingSub (owned.le.trans ordered) cost)
    (sub_le_sub ordered cheaper)
  rw [← Decimal.value_le_iff] at leveraged shared covered
  exact .intro solvent' positive quoted marked known computed' added'
    divided' ((Decimal.value_le_iff _ _).mp (calmer.trans leveraged)) holding
    share' ((Decimal.value_le_iff _ _).mp
      (narrower.trans (shared.trans wider)))
    charged' left' ((Decimal.value_le_iff _ _).mp (covered.trans richer))

end Entries

/--
An entry that is accepted stays accepted with any smaller positive quantity and
with any larger equity, all rounding included.
-/
theorem accepted_entry_stays_accepted
    {view : View}
    {positions : Positions}
    {action : Action}
    {quantity equity : Decimal}
    (valid : view.limits.Valid)
    (sound : ∀ position ∈ positions.values, position.WellFormed)
    (enters : action.kind = .entry)
    (accepted : judge view positions action = .accept)
    (positive : Decimal.zero < quantity)
    (less : quantity ≤ action.quantity)
    (more : view.account.equity ≤ equity) :
    judge (view.withEquity equity) positions (asking action quantity) =
      .accept := by
  have checked := checkEntry_of_accept enters accepted
  have passed := passed_of_checkEntry checked
  have solvent : 0 ≤ view.account.equity.value := by
    rcases passed with ⟨solvent⟩
    exact (Decimal.value_pos solvent).le
  have directed := direction_of_checkEntry checked
  have rechecked :=
    (passed.relaxed valid positive less more).checkEntry_eq_ok directed
  have safe :=
    override?_relaxed quantity valid solvent more sound
      (override?_of_accept accepted)
  unfold judge judgeAlone
  rw [safe]
  simp only
  rw [if_pos (show (asking action quantity).kind = .entry from enters),
    rechecked]

namespace Sample

/-- A fraction of an entry, with the largest equity, beside another position. -/
theorem accepted_entry_stays_accepted_held :
    judge (market Desk.Sample.hundred) held entering = .accept ∧
      judge ((market Desk.Sample.hundred).withEquity Decimal.largest) held
          (asking entering twoPercent) =
        .accept := by
  have accepted :
      judge (market Desk.Sample.hundred) held entering = .accept := by
    decide +kernel
  refine ⟨accepted, ?_⟩
  exact accepted_entry_stays_accepted Limits.standard_valid (by decide +kernel)
    rfl accepted (by decide) (by decide) (by decide)

end Sample

end MandateDesk.Risk
