import MandateDesk.Proofs.Reachability

/-!
# Book, reservations and working orders

The book, the reservations and the working orders are three tables that the
stages of a cycle and the settlement of reports change one after the other.
`Coupled` says in terms of these tables what a reader may rely on at any time:
a slot is held for exactly the entries that work, and every working order is
the one that its position waits for.

On every desk that can occur the tables are coupled, and after a cycle that did
its work every position that waits has an order at work.
-/

namespace MandateDesk.Desk

/-- What the tables of a desk say about a symbol fits together. -/
structure Coupled (desk : Desk) (symbol : Symbol) : Prop where
  /-- A position has the shape of its state. -/
  checked : ∀ {position},
    desk.book.get? symbol = some position → position.check = .ok ()
  /-- The slot is held exactly while an entry works. -/
  reserved_iff_entry :
    desk.reservations.isReserved symbol = true ↔
      ∃ order, desk.working.find? symbol = some order ∧
        order.order.isEntry = true
  /-- An entry works exactly while the position is being entered. -/
  entry_iff_entering :
    (∃ order, desk.working.find? symbol = some order ∧
      order.order.isEntry = true) ↔
    desk.book.stateOf symbol = .entering
  /-- The ticket in the slot is that of the token of the entry. -/
  ticket : ∀ {order}, desk.working.find? symbol = some order →
    order.order.isEntry = true →
      ∃ token, order.token = some token ∧
        token.receipt.symbol = symbol ∧
        desk.reservations.ticketOf symbol = token.receipt.ticket
  /-- An entry asks for the direction and the quantity of the position. -/
  enter : ∀ {order}, desk.working.find? symbol = some order →
    ∀ {direction quantity}, order.order = .enter direction quantity →
      ∃ position, desk.book.get? symbol = some position ∧
        position.direction = some direction ∧
        position.pendingQuantity = quantity
  /-- A reduction asks for the pending quantity of the position. -/
  reduce : ∀ {order}, desk.working.find? symbol = some order →
    ∀ {quantity}, order.order = .reduce quantity →
      ∃ position, desk.book.get? symbol = some position ∧
        position.state = .reducing ∧ position.pendingQuantity = quantity
  /-- A close asks for all that is held. -/
  close : ∀ {order}, desk.working.find? symbol = some order →
    ∀ {quantity}, order.order = .close quantity →
      ∃ position, desk.book.get? symbol = some position ∧
        position.state = .closing ∧ position.quantity = quantity
  /-- No order works for a position that waits for none. -/
  settled :
    desk.book.stateOf symbol = .flat ∨ desk.book.stateOf symbol = .opened →
      desk.working.find? symbol = none

/-- The tables of a coherent desk are coupled. -/
theorem Coherent.coupled
    {desk : Desk}
    (coherent : desk.Coherent)
    (symbol : Symbol) :
    desk.Coupled symbol := by
  have cell := coherent.cell symbol
  have keyed {position : Position}
      (found : desk.book.get? symbol = some position) :
      position.symbol = symbol :=
    coherent.keyed found
  generalize slot : desk.reservations.ticketOf symbol = ticket at cell
  generalize known : desk.book.get? symbol = held at cell keyed
  generalize works : desk.working.find? symbol = working at cell
  have reserved :
      desk.reservations.isReserved symbol = true ↔
        ticket ≠ Reservations.free := by
    simp [Reservations.isReserved, slot]
  have stands (position : Position) (found : held = some position) :
      desk.book.stateOf symbol = position.state :=
    Book.stateOf_of_get? (known.trans found)
  cases cell with
  | unseen =>
    have state : desk.book.stateOf symbol = .flat := by
      simp [Book.stateOf, known]
    constructor <;> simp [known, works, reserved, state]
  | resting shaped state =>
    have checked := (Position.check_eq_ok_iff _).mpr shaped
    constructor <;> simp [known, works, reserved, stands, state, checked]
  | entering shaped state directed taken own =>
    have checked := (Position.check_eq_ok_iff _).mpr shaped
    constructor <;>
      simp [known, works, reserved, stands, state, checked, taken, own,
        directed, keyed, slot, Venue.Order.isEntry]
  | reducing shaped state =>
    have checked := (Position.check_eq_ok_iff _).mpr shaped
    constructor <;>
      simp [known, works, reserved, stands, state, checked,
        Venue.Order.isEntry]
  | closing shaped state =>
    have checked := (Position.check_eq_ok_iff _).mpr shaped
    constructor <;>
      simp [known, works, reserved, stands, state, checked,
        Venue.Order.isEntry]

/--
On every desk that can occur the tables are coupled for every symbol.  When a
cycle on fresh market data is done, every position that is being entered,
reduced or closed has an order at work.
-/
theorem coupled_of_reachable
    {parameters : Parameters}
    {limits : Risk.Limits}
    {desk : Desk}
    (reached : Reachable parameters limits desk) :
    (∀ symbol, desk.Coupled symbol) ∧
      ∀ feed now turn summary,
        desk.runCycle parameters limits feed none now =
          (turn, .done summary) →
        summary.stale = false →
        ∀ symbol position,
          turn.desk.book.get? symbol = some position →
          position.state = .entering ∨ position.state = .reducing ∨
            position.state = .closing →
          ∃ order, turn.desk.working.find? symbol = some order := by
  refine ⟨fun symbol => reached.coherent.coupled symbol, ?_⟩
  intro feed now turn summary done current symbol position found state
  rcases worked_of_done reached.coherent done current with ⟨snapshot, _, worked⟩
  rcases worked with ⟨expiry, run, resending, served⟩
  have waits : position.state.hasPendingOrder = true := by
    rcases state with state | state | state <;>
      simp [state, Position.State.hasPendingOrder]
  exact Option.isSome_iff_exists.mp (served found waits)

/-- After the cycle that hears of the exit, a close works for the position. -/
theorem coupled_leaving :
    Sample.leaving.Coupled Sample.symbol ∧
      ∃ order,
        (Sample.leaving.runCycle .standard .standard Sample.feed none
          (Sample.moment 2)).1.desk.working.find? Sample.symbol =
            some order := by
  rcases
      CycleEnd.exists_of_summary?
        (show
          ((Sample.leaving.runCycle .standard .standard Sample.feed none
            (Sample.moment 2)).2.summary?).isSome = true by decide +kernel) with
    ⟨summary, done, current⟩
  rcases
      exists_position_of_state
        (Sample.leaving.runCycle .standard .standard Sample.feed none
          (Sample.moment 2)).1.desk Sample.symbol (by decide +kernel) with
    ⟨position, found, state⟩
  have closing : position.state = .closing := by
    rw [state]
    decide +kernel
  have both := coupled_of_reachable Sample.reachable_leaving
  exact ⟨both.1 Sample.symbol,
    both.2 Sample.feed (Sample.moment 2) _ summary (Prod.ext rfl done) current
      Sample.symbol position found (Or.inr (Or.inr closing))⟩

end MandateDesk.Desk
