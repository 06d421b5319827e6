import MandateDesk.Proofs.Retrying

/-!
# Fills above what was ordered

A venue may report a fill of more than was ordered.  An entry takes no fill
above its quantity and a close takes that of its quantity alone, so such a
report is turned down and nothing of it is booked.

A reduction is bound otherwise.  It takes every fill that the position covers,
and of a report above the quantity that was ordered all is taken off the
position, down to nothing.
-/

namespace MandateDesk

/-- A position once a quantity that it holds was taken off it. -/
def Position.lessened
    (position : Position)
    (quantity : Decimal)
    (now : Instant) :
    Position :=
  if (position.quantity.saturatingSub quantity).isZero then
    flat position.symbol now
  else position.remaining quantity now

namespace Desk

section Cell

variable {position : Position} {ticket : Nat} {order : WorkingOrder}
variable {asked quantity : Decimal}

/-- A fill above what was ordered is above zero. -/
theorem Cell.negative_of_overfill
    (cell : Cell (some position) ticket (some order))
    (reduces : order.order = .reduce asked)
    (excess : asked < quantity) :
    quantity.negative = false := by
  cases cell with
  | entering => contradiction
  | closing => contradiction
  | reducing shaped state =>
    cases reduces
    have shape := Position.leavingShape shaped (Or.inl state)
    have positive : Decimal.zero < quantity := by
      rw [← Decimal.value_lt_iff] at excess ⊢
      rw [Decimal.value_zero]
      exact (Decimal.value_nonneg shape.pending_unsigned).trans_lt excess
    exact ((Decimal.zero_lt_iff _).mp positive).1

/-- Nothing but a reduction takes a fill above what was ordered. -/
theorem Cell.exists_refusal_of_overfill
    (cell : Cell (some position) ticket (some order))
    (sized : order.order.quantity? = some asked)
    (excess : asked < quantity)
    (uncovered :
      order.order = .reduce asked → position.quantity < quantity)
    (price : Decimal)
    (now : Instant) :
    ∃ refusal,
      position.successor (.filled quantity price) now = .error refusal := by
  cases cell with
  | entering shaped state =>
    cases sized
    simp only [Position.successor, state, Position.fillEntry, excess, if_true]
    split
    · exact ⟨_, rfl⟩
    · split
      · exact ⟨_, rfl⟩
      · exact ⟨_, rfl⟩
  | reducing shaped state =>
    cases sized
    simp only [Position.successor, state, Position.fillReduce, uncovered rfl,
      if_true]
    split
    · exact ⟨_, rfl⟩
    · exact ⟨_, rfl⟩
  | closing shaped state =>
    cases sized
    have apart : ¬ Decimal.SameValue quantity position.quantity := by
      intro same
      rw [Decimal.sameValue_iff_value] at same
      rw [← Decimal.value_lt_iff, same] at excess
      exact lt_irrefl _ excess
    simp only [Position.successor, state, Position.fillClose, if_neg apart]
    exact ⟨_, rfl⟩

/-- A reduction takes a fill above what was ordered if it is held. -/
theorem Cell.successor_of_overfill
    (cell : Cell (some position) ticket (some order))
    (reduces : order.order = .reduce asked)
    (excess : asked < quantity)
    (covered : quantity ≤ position.quantity)
    (price : Decimal)
    (now : Instant) :
    position.successor (.filled quantity price) now =
      .ok (position.lessened quantity now) := by
  have unsigned := cell.negative_of_overfill reduces excess
  cases cell with
  | entering => contradiction
  | closing => contradiction
  | reducing shaped state =>
    simp only [Position.successor, state, Position.fillReduce, unsigned,
      Decimal.not_lt.mpr covered, if_false, Bool.false_eq_true,
      Position.lessened]
    split
    · rfl
    · rfl

end Cell

/--
A report of more than was ordered is turned down: nothing but the count of
reports changes, so that the book, the reservations and the order that works
stay as they are.  Only where a reduction works and the position holds what was
filled is the report taken.  Then all that was filled is taken off the
position, which is open again, or flat once nothing is left.
-/
theorem overfill_is_refused_unless_held
    {parameters : Parameters}
    {limits : Risk.Limits}
    {desk : Desk}
    (reached : Reachable parameters limits desk)
    {report : Venue.Report}
    {order : WorkingOrder}
    {position : Position}
    (names : Names desk report order position)
    {asked quantity price : Decimal}
    (filled : report.outcome = .filled quantity price)
    (sized : order.order.quantity? = some asked)
    (excess : asked < quantity)
    (now : Instant) :
    ((order.order = .reduce asked → position.quantity < quantity) →
      ∃ refusal, desk.settle report now =
        ({ desk with tally := desk.tally.withReport },
          .error
            (.invalidTransition report.symbol position.state .filled
              refusal))) ∧
    (order.order = .reduce asked → quantity ≤ position.quantity →
      (desk.settle report now).1.book =
          desk.book.moved report.symbol (position.lessened quantity now) ∧
        (desk.settle report now).1.working.find? report.symbol = none ∧
        ∃ transition,
          (desk.settle report now).2 = .ok (some transition)) := by
  have coherent := reached.coherent
  have cell := coherent.cell report.symbol
  rw [names.found, names.working] at cell
  have settled := coherent.settled report now
  have meant :
      eventOf? position.state report.outcome =
        some (.filled quantity price) := by
    rw [filled]
    rfl
  constructor
  · intro uncovered
    rcases cell.exists_refusal_of_overfill sized excess uncovered price now with
      ⟨refusal, refuses⟩
    have refused :
        position.apply (.filled quantity price) now =
          .error
            (.invalidTransition report.symbol position.state .filled
              refusal) := by
      rw [← coherent.keyed names.found]
      simp only [Position.apply, refuses]
      rfl
    rcases settled.turned_down names meant refused with ⟨same, failed⟩
    exact ⟨refusal, Prod.ext same failed⟩
  · intro reduces covered
    have follows := cell.successor_of_overfill reduces excess covered price now
    have shaped :=
      (Position.moves_of_successor follows).wellFormed cell.wellFormed
        (reached.isPriced _ _ names.found)
    rcases settled.taken names meant
        ((Position.apply_eq_ok_iff _ _ _ _).mpr ⟨follows, shaped⟩) with
      ⟨book, working, taken⟩
    exact ⟨book, (working _).trans (if_pos rfl), taken⟩

namespace Sample

/-- The desk once the reduction was sent. -/
def halved : Desk :=
  (runCycle { opened with registry := opened.registry.adding halving }
    .standard .standard feed none (moment 2)).1.desk

/-- A fill of the reduction. -/
def overfilled (quantity : Decimal) : Venue.Report :=
  ⟨.issued 2, symbol, .filled quantity hundred⟩

theorem registered_halving :
    opened.registry.register halving =
      .ok (opened.registry.adding halving) :=
  (Registry.register_eq_ok_iff _ _ _).mpr
    ⟨⟨rfl, ((Mandate.defect?_eq_none_iff halving).mp rfl).2⟩,
      by decide +kernel, rfl⟩

theorem reachable_halved : Reachable .standard .standard halved :=
  .step (.step reachable_opened (.submit registered_halving))
    (.cycle _ feed (moment 2))

theorem exists_names_halved (quantity : Decimal) :
    ∃ order position,
      halved.Names (overfilled quantity) order position ∧
        order.order = .reduce half ∧ position.state = .reducing ∧
        position.quantity = one :=
  exists_names (by decide +kernel) (by decide +kernel) _

/-- A reduction of a half is not filled by more than the whole. -/
theorem overfill_is_refused_unless_held_halved :
    ∃ order position refusal,
      halved.Names (overfilled hundred) order position ∧
        order.order = .reduce half ∧ half < hundred ∧
        halved.settle (overfilled hundred) (moment 2) =
          ({ halved with tally := halved.tally.withReport },
            .error
              (.invalidTransition symbol position.state .filled
                refusal)) := by
  rcases exists_names_halved hundred with
    ⟨order, position, names, asked, _, held⟩
  have excess : half < hundred := by decide +kernel
  have sized : order.order.quantity? = some half := by
    rw [asked]
    rfl
  have uncovered : position.quantity < hundred := by
    rw [held]
    decide +kernel
  rcases
      (overfill_is_refused_unless_held reachable_halved names rfl sized excess
        (moment 2)).1 fun _ => uncovered with
    ⟨refusal, refused⟩
  exact ⟨order, position, refusal, names, asked, excess, refused⟩

/-- A reduction of a half is filled by the whole, and nothing is left. -/
theorem reduction_is_overfilled :
    Reachable .standard .standard halved ∧
      (halved.working.find? symbol).map WorkingOrder.order =
        some (.reduce half) ∧
      half < one ∧
      (halved.settle (overfilled one) (moment 2)).1.book.stateOf symbol =
        .flat ∧
      (halved.settle (overfilled one) (moment 2)).1.working.find? symbol =
        none :=
  ⟨reachable_halved, by decide +kernel, by decide +kernel,
    by decide +kernel, by decide +kernel⟩

end Sample

end Desk

end MandateDesk
