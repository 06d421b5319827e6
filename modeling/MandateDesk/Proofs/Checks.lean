import MandateDesk.Proofs.Exposures

/-!
# What the check of an entry says

`Passed` lists the figures behind an entry that passes its check.  Where the
exposures are not rounded, these are the figures of the book that carries the
entry: its gross exposure is the one that the entry was checked with.
-/

namespace MandateDesk.Risk

/-! ## The figures of a check -/

theorem bind_eq_ok
    {ε α β : Type}
    {first : Except ε α}
    {next : α → Except ε β}
    {result : β} :
    (first >>= next) = .ok result ↔
      ∃ value, first = .ok value ∧ next value = .ok result := by
  cases first with
  | error fault => exact ⟨nofun, nofun⟩
  | ok value =>
    constructor
    · intro passed
      exact ⟨value, rfl, passed⟩
    · rintro ⟨_, ⟨⟩, passed⟩
      exact passed

theorem inRange_eq_ok
    {symbol : Symbol}
    {figure : Option Decimal}
    {value : Decimal} :
    inRange symbol figure = .ok value ↔ figure = some value := by
  cases figure with
  | none => exact ⟨nofun, nofun⟩
  | some known =>
    constructor
    · rintro ⟨⟩
      rfl
    · rintro ⟨⟩
      rfl

theorem unless_eq_ok
    {refused : Prop}
    [Decidable refused]
    {rejection : Rejection}
    {done : Unit} :
    (if refused then .error rejection else .ok () : Except Rejection Unit) =
        .ok done ↔
      ¬ refused := by
  split
  · rename_i holds
    exact ⟨nofun, fun fails => absurd holds fails⟩
  · rename_i fails
    exact ⟨fun _ => fails, fun _ => rfl⟩

theorem checkKnown_eq_ok
    {exposure : GrossExposure}
    {done : Unit} :
    checkKnown exposure = .ok done ↔
      exposure = ⟨exposure.gross, [], none⟩ := by
  rcases exposure with ⟨gross, unpriced, overflow⟩
  unfold checkKnown
  cases overflow with
  | some symbol => simp
  | none => cases unpriced <;> simp

theorem checkLeverage_eq_ok
    {view : View}
    {symbol : Symbol}
    {gross : Decimal}
    {done : Unit} :
    checkLeverage view symbol gross = .ok done ↔
      ∃ leverage, gross.div? view.account.equity = some leverage ∧
        leverage ≤ view.limits.maxLeverage := by
  unfold checkLeverage
  simp only [bind_eq_ok, inRange_eq_ok, unless_eq_ok, Decimal.not_lt]

theorem checkSymbol_eq_ok
    {view : View}
    {positions : Positions}
    {symbol : Symbol}
    {mark added : Decimal}
    {done : Unit} :
    checkSymbol view positions symbol mark added = .ok done ↔
      ∃ held, heldExposure positions symbol mark = some held ∧
        ∃ projected, held.add? added = some projected ∧
          projected ≤
            view.limits.symbolLeverage.saturatingMul
              view.account.equity := by
  unfold checkSymbol
  simp only [bind_eq_ok, inRange_eq_ok, unless_eq_ok, Decimal.not_lt]

theorem checkMargin_eq_ok
    {view : View}
    {symbol : Symbol}
    {gross : Decimal}
    {done : Unit} :
    checkMargin view symbol gross = .ok done ↔
      ∃ margin, gross.mul? view.limits.marginRate = some margin ∧
        ∃ available, view.account.equity.sub? margin = some available ∧
          Decimal.zero ≤ available := by
  unfold checkMargin
  simp only [bind_eq_ok, inRange_eq_ok, unless_eq_ok, Decimal.not_lt]

/-- The figures behind an entry that passes its check. -/
inductive Passed (view : View) (positions : Positions) (action : Action) :
    Prop where
  | intro {quote before gross leverage held projected margin available}
      (solvent : Decimal.zero < view.account.equity)
      (sized : Decimal.zero < action.quantity)
      (quoted : view.prices.find? action.symbol = some quote)
      (marked : Decimal.zero < quote.mark)
      (known : grossExposure positions view.prices = ⟨before, [], none⟩)
      (computed :
        figure? view.prices (action.symbol, action.quantity) =
          some (figure view.prices (action.symbol, action.quantity)))
      (added :
        before.add? (figure view.prices (action.symbol, action.quantity)) =
          some gross)
      (divided : gross.div? view.account.equity = some leverage)
      (leveraged : leverage ≤ view.limits.maxLeverage)
      (holding :
        heldExposure positions action.symbol quote.mark = some held)
      (share :
        held.add? (figure view.prices (action.symbol, action.quantity)) =
          some projected)
      (shared :
        projected ≤
          view.limits.symbolLeverage.saturatingMul view.account.equity)
      (charged : gross.mul? view.limits.marginRate = some margin)
      (left : view.account.equity.sub? margin = some available)
      (covered : Decimal.zero ≤ available)

theorem passed_of_checkEntry
    {view : View}
    {positions : Positions}
    {action : Action}
    (checked : checkEntry view positions action = .ok ()) :
    Passed view positions action := by
  unfold checkEntry at checked
  simp only at checked
  split at checked
  · contradiction
  rename_i solvent
  split at checked
  · contradiction
  rename_i sized
  rw [not_or] at sized
  split at checked
  · contradiction
  rename_i mark marked
  rcases Option.filter_eq_some_iff.mp marked with ⟨named, positive⟩
  rcases Option.map_eq_some_iff.mp named with ⟨quote, quoted, rfl⟩
  unfold checkLimits at checked
  simp only [bind_eq_ok, inRange_eq_ok, checkKnown_eq_ok, checkLeverage_eq_ok,
    checkSymbol_eq_ok, checkMargin_eq_ok] at checked
  rcases checked with ⟨_, known, exposure, product, gross, added, _, ⟨leverage,
    divided, leveraged⟩, _, ⟨held, holding, projected, share, shared⟩,
    margin, charged, available, left, covered⟩
  have computed :
      figure? view.prices (action.symbol, action.quantity) =
        some exposure := by
    unfold figure?
    rw [quoted]
    exact product
  have same :
      figure view.prices (action.symbol, action.quantity) = exposure := by
    unfold figure
    rw [computed]
    rfl
  subst same
  exact .intro (Decimal.not_le.mp solvent) (Decimal.not_le.mp sized.1) quoted
    (of_decide_eq_true positive) known computed added divided leveraged holding
    share shared charged left covered

/-! ## The book that carries an entry -/

/--
The figures of a book are within the limits.  The quotient is the one that the
gate computes; where it is not rounded, the exact one is within its limit.
-/
structure WithinLimits (view : View) (positions : Positions) : Prop where
  solvent : 0 < view.account.equity.value
  leverage : ∃ gross leverage,
    grossExposure positions view.prices = ⟨gross, [], none⟩ ∧
    gross.value = total view.prices (load positions).entries ∧
    gross.div? view.account.equity = some leverage ∧
    leverage ≤ view.limits.maxLeverage ∧
    (gross.value / view.account.equity.value = leverage.value →
      gross.value / view.account.equity.value ≤
        view.limits.maxLeverage.value)
  margin :
    0 ≤ view.account.equity.value -
      total view.prices (load positions).entries *
        view.limits.marginRate.value

/--
None of the products and sums behind the limits of a load needs rounding:
neither on the load itself, nor on the one before its latest entry.
-/
structure Exact (view : View) (load : OrderedMap Symbol Decimal)
    (latest : Symbol) : Prop where
  whole : Summable view.prices load
  before : Summable view.prices (load.erase latest)
  charged :
    Decimal.Representable
      (total view.prices load.entries * view.limits.marginRate.value)
  left :
    Decimal.Representable
      (view.account.equity.value -
        total view.prices load.entries * view.limits.marginRate.value)
  limit :
    Decimal.Representable
      (view.limits.symbolLeverage.value * view.account.equity.value)

/-- A load with one more entry has one more exposure. -/
theorem figures_insert
    {load : OrderedMap Symbol Decimal}
    {symbol : Symbol}
    (absent : load.find? symbol = none)
    (prices : Prices)
    (quantity : Decimal) :
    (figures prices (load.insert symbol quantity)).Perm
      (figure prices (symbol, quantity) :: figures prices load) :=
  (OrderedMap.perm_entries_insert absent quantity).map (figure prices)

theorem total_insert
    {load : OrderedMap Symbol Decimal}
    {symbol : Symbol}
    (absent : load.find? symbol = none)
    (prices : Prices)
    (quantity : Decimal) :
    total prices (load.insert symbol quantity).entries =
      total prices load.entries + exposureOf prices (symbol, quantity) := by
  have same := (OrderedMap.perm_entries_insert absent quantity).map
    (exposureOf prices)
  unfold total
  rw [same.sum_eq, List.map_cons, List.sum_cons, add_comm]

/--
The gross exposure that an entry is checked with is that of the book that
carries it, although the book adds up its exposures in another order.
-/
theorem grossExposure_of_grown
    {positions later : Positions}
    (filed : Filed positions)
    (refiled : Filed later)
    {symbol : Symbol}
    {quantity : Decimal}
    (absent : (load positions).find? symbol = none)
    (grown : load later = (load positions).insert symbol quantity)
    {prices : Prices}
    (whole : Summable prices (load later))
    (before : Summable prices (load positions))
    {quote : Quote}
    (quoted : prices.find? symbol = some quote)
    {sum gross : Decimal}
    (known : grossExposure positions prices = ⟨sum, [], none⟩)
    (added : sum.add? (figure prices (symbol, quantity)) = some gross) :
    grossExposure later prices = ⟨gross, [], none⟩ ∧
      gross.value = total prices (load later).entries := by
  have priced {other : Symbol} {held : Decimal}
      (loaded : (load positions).find? other = some held) :
      ∃ quote, prices.find? other = some quote :=
    priced_of_known filed (by rw [known]) loaded
  have quotes {other : Symbol} {held : Decimal}
      (loaded : (load later).find? other = some held) :
      ∃ quote, prices.find? other = some quote := by
    rw [grown, OrderedMap.find?_insert] at loaded
    split at loaded
    · rename_i here
      exact ⟨quote, here ▸ quoted⟩
    · exact priced loaded
  have member : (symbol, quantity) ∈ (load later).entries := by
    rw [grown, OrderedMap.mem_entries_iff, OrderedMap.find?_insert_self]
  rcases figure?_eq quoted (whole.terms _ member) with ⟨_, equal, term⟩
  have exactly : total prices (load later).entries =
      total prices (load positions).entries +
        exposureOf prices (symbol, quantity) := by
    rw [grown]
    exact total_insert absent prices quantity
  -- The check has added the entry to the exposures that were there before.
  rcases exists_gross filed priced before with ⟨_, named, same, compact⟩
  rw [known] at named
  cases named
  have representable := whole.sums _ List.prefix_rfl
  rw [exactly, ← same, ← equal] at representable
  rcases compact.exists_add? term representable with ⟨_, summed, value, shape⟩
  rw [added] at summed
  cases summed
  -- The book adds it at its place, and comes to the same compact sum.
  rcases exists_gross refiled quotes whole with
    ⟨carried, computed, carries, ordered⟩
  have digits :
      Decimal.mostDigits (figures prices (load later)) =
        max (Decimal.mostDigits (figures prices (load positions)))
          (figure prices (symbol, quantity)).scale := by
    rw [grown, Decimal.mostDigits_of_perm (figures_insert absent _ _),
      Nat.max_comm]
    rfl
  rw [digits] at ordered
  have one : carried = gross := by
    apply ordered.unique shape
    rw [carries, exactly, value, same, equal]
  rw [← one]
  exact ⟨computed, carries⟩

/-- The margin left over is exact where neither step is rounded. -/
theorem value_available
    {equity gross rate margin available : Decimal}
    (charge : Decimal.Representable (gross.value * rate.value))
    (rest :
      Decimal.Representable (equity.value - gross.value * rate.value))
    (charged : gross.mul? rate = some margin)
    (left : equity.sub? margin = some available) :
    available.value = equity.value - gross.value * rate.value := by
  rcases Decimal.exists_mul? charge with ⟨_, taken, cost, _⟩
  rw [charged] at taken
  cases taken
  rw [← cost] at rest ⊢
  rcases Decimal.exists_sub? rest with ⟨_, remaining, worth⟩
  rw [left] at remaining
  cases remaining
  exact worth

/-- A book that carries the load of an entry is within the limits. -/
theorem Passed.withinLimits
    {view : View}
    {positions later : Positions}
    {action : Action}
    (passed : Passed view positions action)
    (filed : Filed positions)
    (refiled : Filed later)
    (absent : (load positions).find? action.symbol = none)
    (grown :
      load later = (load positions).insert action.symbol action.quantity)
    (exact : Exact view (load later) action.symbol) :
    WithinLimits view later := by
  rcases passed with @⟨quote, sum, gross, leverage, _, _, margin, available,
    solvent, _, quoted, _, known, _, added, divided, leveraged, _, _, _,
    charged, left, covered⟩
  have before := exact.before
  rw [grown, OrderedMap.erase_insert absent] at before
  rcases grossExposure_of_grown filed refiled absent grown exact.whole before
      quoted known added with
    ⟨computed, carries⟩
  constructor
  · rw [← Decimal.value_zero, Decimal.value_lt_iff]
    exact solvent
  · refine ⟨gross, leverage, computed, carries, divided, leveraged, ?_⟩
    intro quotient
    rw [quotient, Decimal.value_le_iff]
    exact leveraged
  · have charge := exact.charged
    have rest := exact.left
    rw [← carries] at charge rest ⊢
    rw [← value_available charge rest charged left, ← Decimal.value_zero,
      Decimal.value_le_iff]
    exact covered

/-- The exposure of an entry is within the share of its symbol. -/
theorem Passed.share_le
    {view : View}
    {positions : Positions}
    {action : Action}
    (passed : Passed view positions action)
    (vacant : ∀ position, positions.find? action.symbol = some position →
      (exposedQuantity position).isZero = true)
    (representable :
      Decimal.Representable
        (exposureOf view.prices (action.symbol, action.quantity)))
    (limit :
      Decimal.Representable
        (view.limits.symbolLeverage.value * view.account.equity.value)) :
    action.quantity.value * markOf view.prices action.symbol ≤
      view.limits.symbolLeverage.value * view.account.equity.value := by
  rcases passed with @⟨quote, _, _, _, held, _, _, _, _, _, quoted, _, _, _,
    _, _, _, holding, share, shared, _, _, _⟩
  have empty : held = Decimal.zero := by
    unfold heldExposure at holding
    cases found : positions.find? action.symbol with
    | none =>
      simp only [found, Option.some.injEq] at holding
      exact holding.symm
    | some position =>
      simp only [found, exposure?] at holding
      rw [Decimal.mul?_zero_left quote.mark (vacant position found)] at holding
      cases holding
      rfl
  rw [empty, Decimal.add?_zero_left _ rfl] at share
  cases share
  rcases figure?_eq quoted representable with ⟨_, worth, _⟩
  rcases Decimal.exists_mul? limit with ⟨_, bounded, most, _⟩
  unfold Decimal.saturatingMul at shared
  rw [bounded, Option.getD_some, ← Decimal.value_le_iff, most, worth] at shared
  exact le_trans (le_abs_self _) shared

end MandateDesk.Risk
