import MandateDesk.Proofs.Endurance

/-!
# What a venue holds and what a book says

A venue and a book keep the positions by themselves.  They may write a quantity
in different scales, so that what they hold is compared as a `Stake`: a
direction and the value of a quantity.  A holding of nothing is no stake, and
neither is a position that is flat or still being entered.

A fill changes the holding at the venue before the desk hears of it.  Where the
position takes the fill as well, both come to the same stake again; the only
fill that an entry does not take is a misfill.

A book that reconciliation recovered says of every symbol what the venue holds:
where a saved position agrees with the venue it is kept, which is enough, as
agreement is about the direction and the value of the quantity, and no position
is filed for any other symbol.
-/

namespace MandateDesk

/-- What is held of a symbol, whatever the scale of the quantity. -/
structure Stake where
  /-- The direction. -/
  direction : Option Direction
  /-- The value of the quantity. -/
  value : ℚ

/-! ## Stakes according to a book -/

/-- The stake that a position stands for. -/
def Position.stake? (position : Position) : Option Stake :=
  position.exposure?.map fun held => ⟨held.1, held.2.value⟩

/-- What is held of a symbol according to a book. -/
def Book.stake? (book : Book) (symbol : Symbol) : Option Stake :=
  (book.exposure? symbol).map fun held => ⟨held.1, held.2.value⟩

theorem Position.stake?_of_exposed
    {position : Position}
    (exposed : position.state.hasExposure = true) :
    position.stake? = some ⟨position.direction, position.quantity.value⟩ := by
  simp [stake?, exposure?, exposed]

theorem Position.stake?_eq_none
    {position : Position}
    (empty : position.state.hasExposure = false) :
    position.stake? = none := by
  simp [stake?, exposure?, empty]

theorem Book.stake?_of_get?
    {book : Book}
    {symbol : Symbol}
    {position : Position}
    (found : book.get? symbol = some position) :
    book.stake? symbol = position.stake? := by
  unfold stake? Position.stake?
  rw [exposure?_of_get? found]

theorem Book.stake?_of_none
    {book : Book}
    {symbol : Symbol}
    (absent : book.get? symbol = none) :
    book.stake? symbol = none := by
  simp [stake?, exposure?, absent]

theorem Book.stake?_moved
    (book : Book)
    (symbol other : Symbol)
    (position : Position) :
    (book.moved symbol position).stake? other =
      if other = symbol then position.stake? else book.stake? other := by
  unfold stake? Position.stake?
  rw [exposure?_moved]
  split <;> rfl

theorem Book.stake?_congr
    {first second : Book}
    {symbol : Symbol}
    (same : first.get? symbol = second.get? symbol) :
    first.stake? symbol = second.stake? symbol := by
  simp [stake?, exposure?, same]

/-! ## Stakes at a venue -/

namespace PaperVenue

/-- What a venue holds of a symbol, unless it is nothing. -/
def stake? (venue : PaperVenue) (symbol : Symbol) : Option Stake :=
  (venue.holding? symbol).bind fun held =>
    if held.quantity.isZero then none
    else some ⟨some held.direction, held.quantity.value⟩

theorem stake?_eq_some
    {venue : PaperVenue}
    {symbol : Symbol}
    {stake : Stake}
    (staked : venue.stake? symbol = some stake) :
    ∃ held, venue.holding? symbol = some held ∧
      held.quantity.isZero = false ∧
      stake = ⟨some held.direction, held.quantity.value⟩ := by
  rcases Option.bind_eq_some_iff.mp staked with ⟨held, found, same⟩
  split at same
  · contradiction
  · rename_i present
    cases same
    exact ⟨held, found, by simpa using present, rfl⟩

theorem stake?_of_holding?
    {venue : PaperVenue}
    {symbol : Symbol}
    {held : Venue.Holding}
    (found : venue.holding? symbol = some held)
    (present : held.quantity.isZero = false) :
    venue.stake? symbol =
      some ⟨some held.direction, held.quantity.value⟩ := by
  simp [stake?, found, present]

theorem stake?_of_holdings
    {first second : PaperVenue}
    {symbol : Symbol}
    (same :
      first.holdings.find? symbol = second.holdings.find? symbol) :
    first.stake? symbol = second.stake? symbol := by
  simp [stake?, holding?, same]

theorem stake?_fillPartially_of_ne
    (venue : PaperVenue)
    (dispatch : Venue.Dispatch)
    (quantity price : Decimal)
    {symbol : Symbol}
    (apart : symbol ≠ dispatch.symbol) :
    (venue.fillPartially dispatch quantity price).1.stake? symbol =
      venue.stake? symbol := by
  have closed :
      (venue.closing dispatch.symbol quantity).stake? symbol =
        venue.stake? symbol := by
    refine stake?_of_holdings ?_
    unfold closing
    split
    · rfl
    · simp only
      split
      · rw [OrderedMap.find?_erase, if_neg apart]
      · rw [OrderedMap.find?_insert, if_neg apart]
  unfold fillPartially
  split
  · refine stake?_of_holdings ?_
    simp only
    rw [OrderedMap.find?_insert, if_neg apart]
  · exact closed
  · exact closed
  · rfl

/-- What is left of a stake after a quantity that it covers was closed. -/
theorem stake?_closing
    {venue : PaperVenue}
    {symbol : Symbol}
    {direction : Option Direction}
    {held quantity : Decimal}
    (staked : venue.stake? symbol = some ⟨direction, held.value⟩)
    (unsigned : (held.saturatingSub quantity).negative = false) :
    (venue.closing symbol quantity).stake? symbol =
      if (held.saturatingSub quantity).isZero then none
      else some ⟨direction, (held.saturatingSub quantity).value⟩ := by
  rcases stake?_eq_some staked with ⟨holding, found, _, same⟩
  have directed : direction = some holding.direction :=
    congrArg Stake.direction same
  have valued : held.value = holding.quantity.value :=
    congrArg Stake.value same
  -- the venue cuts off at zero, which no covered quantity comes below
  have left :
      (reduced holding quantity).quantity.value =
        (held.saturatingSub quantity).value := by
    have differences :=
      Decimal.value_saturatingSub_congr valued.symm
        (rfl : quantity.value = quantity.value)
    have above := Decimal.value_nonneg unsigned
    rw [← differences] at above ⊢
    show (if holding.quantity.saturatingSub quantity < Decimal.zero then
        Decimal.zero
      else holding.quantity.saturatingSub quantity).value = _
    rw [if_neg]
    rw [← Decimal.value_lt_iff, Decimal.value_zero]
    exact not_lt.mpr above
  have vanishes :
      (reduced holding quantity).quantity.isZero =
        (held.saturatingSub quantity).isZero := by
    rw [Bool.eq_iff_iff, ← Decimal.value_eq_zero_iff,
      ← Decimal.value_eq_zero_iff, left]
  unfold holding? at found
  unfold closing
  simp only [found, vanishes]
  split
  · simp [stake?, holding?, OrderedMap.find?_erase]
  · rename_i remains
    have present :
        (reduced holding quantity).quantity.isZero = false := by
      rw [vanishes]
      simpa using remains
    have stored :
        PaperVenue.holding?
            { venue with
              holdings :=
                venue.holdings.insert symbol (reduced holding quantity) }
            symbol =
          some (reduced holding quantity) :=
      OrderedMap.find?_insert_self ..
    rw [stake?_of_holding? stored present, left, directed]
    rfl

end PaperVenue

/-! ## Fills on both sides -/

namespace Desk

/-- A fill that an entry of some quantity does not take. -/
def IsMisfill (asked quantity price : Decimal) : Prop :=
  ¬ (Decimal.zero < quantity ∧ Decimal.zero < price ∧ quantity ≤ asked)

instance (asked quantity price : Decimal) :
    Decidable (IsMisfill asked quantity price) :=
  inferInstanceAs (Decidable (¬ _))

section Fill

variable {position : Position} {order : WorkingOrder} {ticket : Nat}
variable {venue : PaperVenue} {dispatch : Venue.Dispatch}
variable {quantity price : Decimal} {now : Instant}

/-- What is left at the venue of a position that is reduced or closed. -/
theorem Cell.stake?_of_leaving
    (cell : Cell (some position) ticket (some order))
    (asked : order.order = dispatch.order)
    (agrees : venue.stake? dispatch.symbol = position.stake?)
    (leaving : position.state = .reducing ∨ position.state = .closing)
    (unsigned : quantity.negative = false)
    (within : quantity ≤ position.quantity) :
    (venue.fillPartially dispatch quantity price).1.stake? dispatch.symbol =
      if (position.quantity.saturatingSub quantity).isZero then none
      else some ⟨position.direction,
        (position.quantity.saturatingSub quantity).value⟩ := by
  have shape := Position.leavingShape cell.wellFormed leaving
  have exposed : position.state.hasExposure = true := by
    rcases leaving with state | state <;> rw [state] <;> rfl
  have fills :
      (venue.fillPartially dispatch quantity price).1 =
        venue.closing dispatch.symbol quantity := by
    unfold PaperVenue.fillPartially
    rw [← asked]
    cases cell with
    | entering shaped state => simp [state] at leaving
    | reducing => rfl
    | closing => rfl
  rw [Position.stake?_of_exposed exposed] at agrees
  rw [fills]
  exact PaperVenue.stake?_closing agrees
    (Decimal.negative_saturatingSub shape.unsigned unsigned within)

/-- A fill that a position takes leads the venue to the same stake. -/
theorem Cell.stake?_of_filled
    (cell : Cell (some position) ticket (some order))
    (asked : order.order = dispatch.order)
    (agrees : venue.stake? dispatch.symbol = position.stake?)
    {next : Position}
    (applied : position.apply (.filled quantity price) now = .ok next) :
    (venue.fillPartially dispatch quantity price).1.stake? dispatch.symbol =
      next.stake? := by
  cases Position.moves_of_apply applied with
  | fillEntry state positive priced within =>
    cases cell with
    | reducing shaped other => simp [other] at state
    | closing shaped other => simp [other] at state
    | entering shaped _ directed =>
      have present : quantity.isZero = false := by
        simpa [Decimal.isZero] using ((Decimal.zero_lt_iff _).mp positive).2
      unfold PaperVenue.fillPartially
      rw [← asked]
      simp [PaperVenue.stake?, PaperVenue.holding?, present, Position.stake?,
        Position.exposure?, Position.entered, Position.touched,
        Position.State.hasExposure, directed]
  | fillReduce state unsigned within left =>
    rw [cell.stake?_of_leaving asked agrees (Or.inl state) unsigned within,
      left]
    rfl
  | fillAllReduced state unsigned within none =>
    rw [cell.stake?_of_leaving asked agrees (Or.inl state) unsigned within,
      none]
    rfl
  | fillClose state whole =>
    have shape := Position.leavingShape cell.wellFormed (Or.inr state)
    have same := (Decimal.sameValue_iff_value _ _).mp whole
    have within : quantity ≤ position.quantity := by
      rw [← Decimal.value_le_iff, same]
    have unsigned : quantity.negative = false := by
      rw [← Decimal.negative_congr shape.filled same.symm]
      exact shape.unsigned
    rw [cell.stake?_of_leaving asked agrees (Or.inr state) unsigned within,
      Decimal.isZero_saturatingSub same.symm]
    rfl

/-- An entry turns only a misfill down. -/
theorem Cell.isMisfill_of_refused
    (cell : Cell (some position) ticket (some order))
    {direction : Direction}
    {asked : Decimal}
    (entry : order.order = .enter direction asked)
    {fault : Fault}
    (refused : position.apply (.filled quantity price) now = .error fault) :
    IsMisfill asked quantity price := by
  rintro ⟨positive, priced, within⟩
  cases cell with
  | reducing => contradiction
  | closing => contradiction
  | entering shaped state =>
    cases entry
    have follows :
        position.successor (.filled quantity price) now =
          .ok (position.entered quantity price now) := by
      simp only [Position.successor, state, Position.fillEntry, positive,
        priced, Decimal.not_lt.mpr within, not_true_eq_false, if_false]
      rfl
    have unexposed : position.IsPriced := by
      intro exposed
      simp [state, Position.State.hasExposure] at exposed
    have kept :=
      (Position.moves_of_successor follows).wellFormed shaped unexposed
    rw [(Position.apply_eq_ok_iff _ _ _ _).mpr ⟨follows, kept⟩] at refused
    contradiction

end Fill

end Desk

/-! ## Recovered books -/

/-- A venue files what it holds under its symbol. -/
def PaperVenue.IsKeyed (venue : PaperVenue) : Prop :=
  ∀ symbol held, venue.holding? symbol = some held → held.symbol = symbol

theorem PaperVenue.isKeyed_holding
    (positions : List Venue.Holding) :
    (holding positions).IsKeyed :=
  fun _ _ found => (OrderedMap.mem_of_find?_indexed found).2

namespace Reconciliation

/-- A resolved position stands for what is held. -/
theorem stake?_of_resolve
    {saved : Option Position}
    {held : Option Venue.Holding}
    {symbol : Symbol}
    {now : Instant}
    {position : Position}
    (resolved : resolve saved held symbol now = .ok position) :
    position.stake? =
      held.map fun holding =>
        ⟨some holding.direction, holding.quantity.value⟩ := by
  have flat {position : Position} (state : position.state = .flat) :
      position.stake? = none :=
    Position.stake?_eq_none (by rw [state]; rfl)
  cases resolve_eq_ok_iff.mp resolved with
  | kept agreed =>
    rcases agreed with ⟨state, directed, same⟩
    rw [Position.stake?_of_exposed (by rw [state]; rfl), directed,
      (Decimal.sameValue_iff_value _ _).mp same]
    rfl
  | adopted => rfl
  | idle state => exact flat state
  | dropped => exact flat rfl

/-- Reconciliation compares with what the venue holds. -/
theorem stake?_eq_held
    {venue : PaperVenue}
    (keyed : venue.IsKeyed)
    (store : Store)
    (symbol : Symbol) :
    venue.stake? symbol =
      ((sides store venue).held.find? symbol).map fun holding =>
        ⟨some holding.direction, holding.quantity.value⟩ := by
  cases found : (sides store venue).held.find? symbol with
  | some held =>
    rcases OrderedMap.mem_of_find?_indexed found with ⟨listed, about⟩
    rcases List.mem_filter.mp listed with ⟨member, present⟩
    rcases (OrderedMap.mem_values_iff _ _).mp member with ⟨key, filed⟩
    have own := keyed key held filed
    rw [about] at own
    subst own
    exact PaperVenue.stake?_of_holding? filed (by simpa using present)
  | none =>
    cases staked : venue.stake? symbol with
    | none => rfl
    | some stake =>
      rcases PaperVenue.stake?_eq_some staked with ⟨held, filed, present, _⟩
      have listed :
          held ∈ venue.openPositions.filter fun held =>
            !held.quantity.isZero := by
        refine List.mem_filter.mpr ⟨?_, by simpa using present⟩
        exact (OrderedMap.mem_values_iff _ _).mpr ⟨symbol, filed⟩
      have indexed :
          ((sides store venue).held.find? held.symbol).isSome = true :=
        OrderedMap.isSome_find?_indexed listed
      rw [keyed symbol held filed, found] at indexed
      contradiction

end Reconciliation

/-- A recovered book says of every symbol what the venue holds. -/
theorem Reconciliation.stake?_of_run
    {store saved : Store}
    {venue : PaperVenue}
    {book : Book}
    {now : Instant}
    {summary : Summary}
    (ran : run store venue Book.empty now = (saved, book, .ok summary))
    (keyed : venue.IsKeyed)
    (symbol : Symbol) :
    venue.stake? symbol = book.stake? symbol := by
  rw [stake?_eq_held keyed store]
  by_cases listed : symbol ∈ (sides store venue).symbols
  · rcases exists_resolves_of_run ran listed with ⟨position, resolves⟩
    have filed := (get?_of_run ran).mpr ⟨listed, resolves⟩
    rw [Book.stake?_of_get? filed]
    exact (stake?_of_resolve resolves).symm
  · -- neither side knows the symbol
    have absent : (sides store venue).held.find? symbol = none := by
      by_contra present
      exact listed (mem_symbols_iff.mpr
        (Or.inr (Option.isSome_iff_ne_none.mpr present)))
    rw [absent, Book.stake?_of_none (get?_of_run_of_unlisted ran listed)]
    rfl

end MandateDesk
