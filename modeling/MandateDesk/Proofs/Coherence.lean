import MandateDesk.Desk.Settlement
import MandateDesk.Proofs.Lifecycle
import MandateDesk.Proofs.Registry
import MandateDesk.Reservation

/-!
# A coherent desk

Three tables of the desk speak about each symbol: the book about its position,
the reservations about its slot, and the working orders about its order.
`Cell` lists the combinations of the three that belong together, and a desk is
`Coherent` when every symbol has one of them, each position is filed under its
own symbol and the registry agrees with its index.

Taking a report keeps a desk coherent, whatever the report says.
-/

namespace MandateDesk

/-! ## The book -/

namespace Book

theorem positionOf_of_get?
    {book : Book}
    {symbol : Symbol}
    {position : Position}
    (found : book.get? symbol = some position)
    (now : Instant) :
    book.positionOf symbol now = position := by
  simp [positionOf, found]

theorem stateOf_of_get?
    {book : Book}
    {symbol : Symbol}
    {position : Position}
    (found : book.get? symbol = some position) :
    book.stateOf symbol = position.state := by
  simp [stateOf, found]

/-- The state that is looked up is that of the position that is applied to. -/
theorem state_positionOf
    (book : Book)
    (symbol : Symbol)
    (now : Instant) :
    (book.positionOf symbol now).state = book.stateOf symbol := by
  unfold positionOf stateOf
  cases book.get? symbol <;> rfl

/-- A book in which the position of a symbol was replaced by an event. -/
def moved (book : Book) (symbol : Symbol) (position : Position) : Book where
  positions := book.positions.insert symbol position
  transitions := book.transitions + 1

theorem get?_moved
    (book : Book)
    (symbol other : Symbol)
    (position : Position) :
    (book.moved symbol position).get? other =
      if other = symbol then some position else book.get? other :=
  OrderedMap.find?_insert _ _ _ _

/-- The change that an event makes to the position of a symbol. -/
theorem apply_of_ok
    {book : Book}
    {symbol : Symbol}
    {event : Position.Event}
    {now : Instant}
    {next : Position}
    (applied : (book.positionOf symbol now).apply event now = .ok next) :
    book.apply symbol event now =
      (book.moved symbol next,
        .ok ⟨symbol, book.stateOf symbol, next.state, event.kind⟩) := by
  unfold apply
  simp only [applied, state_positionOf]
  rfl

theorem apply_of_error
    {book : Book}
    {symbol : Symbol}
    {event : Position.Event}
    {now : Instant}
    {fault : Fault}
    (refused : (book.positionOf symbol now).apply event now = .error fault) :
    book.apply symbol event now =
      (book.holding symbol (book.positionOf symbol now), .error fault) := by
  unfold apply
  simp only [refused]

/-- Filing a position that is there already changes nothing. -/
theorem holding_of_get?
    {book : Book}
    {symbol : Symbol}
    {position : Position}
    (found : book.get? symbol = some position) :
    book.holding symbol position = book := by
  have same : book.positions.insert symbol position = book.positions := by
    refine OrderedMap.eq_of_find?_eq ?_
    intro other
    rw [OrderedMap.find?_insert]
    by_cases here : other = symbol
    · rw [if_pos here, here]
      exact found.symm
    · rw [if_neg here]
  unfold holding
  rw [same]

end Book

namespace Desk

open Reservation (Receipt Token)

/-! ## Saving and withdrawing -/

/-- Saving a position only concerns the store and the tally. -/
theorem exists_persist_eq
    (desk : Desk)
    (symbol : Symbol) :
    ∃ store tally, desk.persist symbol = { desk with store, tally } := by
  unfold persist
  split
  · exact ⟨desk.store, desk.tally, rfl⟩
  · split
    · rename_i store _
      exact ⟨store, desk.tally, rfl⟩
    · exact ⟨desk.store, _, rfl⟩

/-- An event that a position takes is applied to the book and saved. -/
theorem apply_of_ok
    (desk : Desk)
    (symbol : Symbol)
    {event : Position.Event}
    {now : Instant}
    {next : Position}
    (applied :
      (desk.book.positionOf symbol now).apply event now = .ok next) :
    ∃ store tally,
      desk.apply symbol event now =
        ({ desk with book := desk.book.moved symbol next, store, tally },
          .ok ⟨symbol, desk.book.stateOf symbol, next.state,
            event.kind⟩) := by
  rcases
      exists_persist_eq { desk with book := desk.book.moved symbol next }
        symbol with
    ⟨store, tally, saved⟩
  refine ⟨store, tally, ?_⟩
  unfold apply
  rw [Book.apply_of_ok applied]
  simp only [saved]

theorem apply_of_error
    {desk : Desk}
    {symbol : Symbol}
    {event : Position.Event}
    {now : Instant}
    {position : Position}
    {fault : Fault}
    (found : desk.book.get? symbol = some position)
    (refused : position.apply event now = .error fault) :
    desk.apply symbol event now = (desk, .error fault) := by
  have current := Book.positionOf_of_get? found now
  unfold apply
  rw [Book.apply_of_error (by rw [current]; exact refused), current,
    Book.holding_of_get? found]

theorem withdraw_of_token
    {desk : Desk}
    {symbol : Symbol}
    {order : WorkingOrder}
    {token : Token}
    (found : desk.working.find? symbol = some order)
    (held : order.token = some token) :
    desk.withdraw symbol = (desk.forget symbol).release token := by
  simp [withdraw, found, held]

theorem withdraw_of_no_token
    {desk : Desk}
    {symbol : Symbol}
    {order : WorkingOrder}
    (found : desk.working.find? symbol = some order)
    (held : order.token = none) :
    desk.withdraw symbol = desk.forget symbol := by
  simp [withdraw, found, held]

/-! ## What belongs together -/

/--
The position of a symbol, the ticket in its slot and its working order, as far
as they belong together.
-/
inductive Cell : Option Position → Nat → Option WorkingOrder → Prop where
  /-- Nothing is known of the symbol. -/
  | unseen : Cell none Reservations.free none
  /-- No order works; a reduction or a close may wait for a new one. -/
  | resting {position}
      (shaped : position.WellFormed)
      (state : position.state ≠ .entering) :
      Cell (some position) Reservations.free none
  /-- An entry works under the ticket of its token. -/
  | entering {position dispatch direction token isCancelled}
      (shaped : position.WellFormed)
      (state : position.state = .entering)
      (directed : position.direction = some direction)
      (taken : token.receipt.ticket ≠ Reservations.free)
      (own : token.receipt.symbol = position.symbol) :
      Cell (some position) token.receipt.ticket
        (some ⟨dispatch, .enter direction position.pendingQuantity,
          some token, isCancelled⟩)
  /-- A reduction works. -/
  | reducing {position dispatch isCancelled}
      (shaped : position.WellFormed)
      (state : position.state = .reducing) :
      Cell (some position) Reservations.free
        (some ⟨dispatch, .reduce position.pendingQuantity, none,
          isCancelled⟩)
  /-- A close works. -/
  | closing {position dispatch isCancelled}
      (shaped : position.WellFormed)
      (state : position.state = .closing) :
      Cell (some position) Reservations.free
        (some ⟨dispatch, .close position.quantity, none, isCancelled⟩)

/-- Whether a cancel was asked for does not matter to a cell. -/
theorem Cell.flagged
    {position : Option Position}
    {ticket : Nat}
    {order : WorkingOrder}
    (cell : Cell position ticket (some order))
    (isCancelled : Bool) :
    Cell position ticket (some { order with isCancelled }) := by
  cases cell with
  | entering shaped state directed taken own =>
    exact .entering shaped state directed taken own
  | reducing shaped state => exact .reducing shaped state
  | closing shaped state => exact .closing shaped state

theorem Cell.wellFormed
    {position : Position}
    {ticket : Nat}
    {order : Option WorkingOrder}
    (cell : Cell (some position) ticket order) :
    position.WellFormed := by
  cases cell <;> assumption

/-- A working order has a position. -/
theorem Cell.exists_position
    {position : Option Position}
    {ticket : Nat}
    {order : WorkingOrder}
    (cell : Cell position ticket (some order)) :
    ∃ held, position = some held := by
  cases cell with
  | entering => exact ⟨_, rfl⟩
  | reducing => exact ⟨_, rfl⟩
  | closing => exact ⟨_, rfl⟩

/-- Only an entry holds a slot. -/
theorem Cell.free_of_state
    {position : Position}
    {ticket : Nat}
    {order : Option WorkingOrder}
    (cell : Cell (some position) ticket order)
    (state : position.state ≠ .entering) :
    ticket = Reservations.free := by
  cases cell with
  | resting => rfl
  | entering shaped entering => exact absurd entering state
  | reducing => rfl
  | closing => rfl

/-- Of a symbol that the book does not know, nothing else is known either. -/
theorem Cell.unseen_of_none
    {ticket : Nat}
    {order : Option WorkingOrder}
    (cell : Cell none ticket order) :
    ticket = Reservations.free ∧ order = none := by
  cases cell
  exact ⟨rfl, rfl⟩

/-- The three tables agree on every symbol, and the registry with its index. -/
structure Coherent (desk : Desk) : Prop where
  /-- A position is filed under its own symbol. -/
  keyed : ∀ {symbol position},
    desk.book.get? symbol = some position → position.symbol = symbol
  /-- What is known of a symbol belongs together. -/
  cell : ∀ symbol,
    Cell (desk.book.get? symbol) (desk.reservations.ticketOf symbol)
      (desk.working.find? symbol)
  /-- The registry agrees with its index. -/
  registry : desk.registry.Consistent

/-- Two desks that know the same of a symbol. -/
structure AgreesAt (symbol : Symbol) (before after : Desk) : Prop where
  book : after.book.get? symbol = before.book.get? symbol
  slot :
    after.reservations.ticketOf symbol = before.reservations.ticketOf symbol
  working : after.working.find? symbol = before.working.find? symbol

theorem AgreesAt.refl
    (symbol : Symbol)
    (desk : Desk) :
    AgreesAt symbol desk desk :=
  ⟨rfl, rfl, rfl⟩

theorem AgreesAt.trans
    {symbol : Symbol}
    {first second third : Desk}
    (before : AgreesAt symbol first second)
    (after : AgreesAt symbol second third) :
    AgreesAt symbol first third :=
  ⟨after.book.trans before.book, after.slot.trans before.slot,
    after.working.trans before.working⟩

/-- Two desks that differ at most in what they know of one symbol. -/
def AgreesOff (symbol : Symbol) (before after : Desk) : Prop :=
  ∀ other, other ≠ symbol → AgreesAt other before after

/-- It is enough to look at the one symbol that a change concerns. -/
theorem Coherent.changedAt
    {before after : Desk}
    (coherent : before.Coherent)
    (symbol : Symbol)
    (elsewhere : AgreesOff symbol before after)
    (keyed : ∀ position,
      after.book.get? symbol = some position → position.symbol = symbol)
    (cell :
      Cell (after.book.get? symbol) (after.reservations.ticketOf symbol)
        (after.working.find? symbol))
    (registry : after.registry.Consistent) :
    after.Coherent where
  keyed {other position} found := by
    by_cases here : other = symbol
    · subst here
      exact keyed position found
    · rw [(elsewhere other here).book] at found
      exact coherent.keyed found
  cell other := by
    by_cases here : other = symbol
    · rw [here]
      exact cell
    · rw [(elsewhere other here).book, (elsewhere other here).slot,
        (elsewhere other here).working]
      exact coherent.cell other
  registry := registry

/-- A working order has a position. -/
theorem Coherent.exists_position
    {desk : Desk}
    (coherent : desk.Coherent)
    {symbol : Symbol}
    {order : WorkingOrder}
    (working : desk.working.find? symbol = some order) :
    ∃ position, desk.book.get? symbol = some position := by
  have cell := coherent.cell symbol
  rw [working] at cell
  exact cell.exists_position

/-- The positions on a coherent desk are well-formed. -/
theorem Coherent.wellFormed
    {desk : Desk}
    (coherent : desk.Coherent)
    {symbol : Symbol}
    {position : Position}
    (found : desk.book.get? symbol = some position) :
    position.WellFormed := by
  have cell := coherent.cell symbol
  rw [found] at cell
  exact cell.wellFormed

/-- An event on a symbol is applied to a position of that symbol. -/
theorem Coherent.symbol_positionOf
    {desk : Desk}
    (coherent : desk.Coherent)
    (symbol : Symbol)
    (now : Instant) :
    (desk.book.positionOf symbol now).symbol = symbol := by
  unfold Book.positionOf
  cases found : desk.book.get? symbol with
  | none => rfl
  | some position => exact coherent.keyed found

/-- A change to what is merely kept leaves a desk coherent. -/
theorem Coherent.of_same
    {before after : Desk}
    (coherent : before.Coherent)
    (book : after.book = before.book)
    (reservations : after.reservations = before.reservations)
    (working : after.working = before.working)
    (registry : after.registry = before.registry) :
    after.Coherent := by
  constructor
  · rw [book]
    exact coherent.keyed
  · rw [book, reservations, working]
    exact coherent.cell
  · rw [registry]
    exact coherent.registry

theorem coherent_blank (store : Store) : (blank store).Coherent where
  keyed found := by simp [blank, Book.get?, Book.empty] at found
  cell _ := .unseen
  registry := Registry.consistent_empty

/-! ## Refused cancels -/

/-- The venue may turn down the cancel of an entry at any time. -/
theorem Coherent.keepEntry
    {desk : Desk}
    (coherent : desk.Coherent)
    (symbol : Symbol)
    (target : DispatchId) :
    (desk.keepEntry symbol target).Coherent := by
  unfold Desk.keepEntry
  split
  · exact coherent
  rename_i order found
  split
  · refine coherent.changedAt symbol ?_
      (fun _ => coherent.keyed) ?_ coherent.registry
    · intro other apart
      refine ⟨rfl, rfl, ?_⟩
      simp [apart]
    · have cell := coherent.cell symbol
      rw [found] at cell
      simpa [start] using cell.flagged false
  · exact coherent

/-! ## Reports -/

/-- What a report means is an answer of the venue. -/
theorem kind_of_eventOf?
    {state : Position.State}
    {outcome : Venue.Outcome}
    {event : Position.Event}
    (meant : eventOf? state outcome = some event) :
    event.kind = .filled ∨ event.kind = .failed := by
  cases outcome with
  | filled quantity price =>
    cases meant
    exact Or.inl rfl
  | rejected reason =>
    simp only [eventOf?, Option.ite_none_right_eq_some] at meant
    rcases meant with ⟨_, same⟩
    cases same
    exact Or.inr rfl
  | cancelled reason =>
    simp only [eventOf?, Option.ite_none_right_eq_some] at meant
    rcases meant with ⟨_, same⟩
    cases same
    exact Or.inr rfl

/-- Only a position that is not being entered can be left waiting. -/
theorem state_ne_entering_of_eventOf?
    {state : Position.State}
    {outcome : Venue.Outcome}
    (meant : eventOf? state outcome = none) :
    state ≠ .entering := by
  intro entering
  subst entering
  cases outcome <;> simp [eventOf?] at meant

/-- An order that is not an entry can be forgotten. -/
theorem Coherent.forget
    {desk : Desk}
    (coherent : desk.Coherent)
    {symbol : Symbol}
    {position : Position}
    (found : desk.book.get? symbol = some position)
    (state : position.state ≠ .entering) :
    (desk.forget symbol).Coherent := by
  have cell := coherent.cell symbol
  rw [found] at cell
  refine coherent.changedAt symbol ?_ (fun _ => coherent.keyed)
    ?_ coherent.registry
  · intro other apart
    refine ⟨rfl, rfl, ?_⟩
    simp [apart]
  · rw [find?_working_forget, if_pos rfl]
    show Cell (desk.book.get? symbol) (desk.reservations.ticketOf symbol) none
    rw [found, cell.free_of_state state]
    exact .resting cell.wellFormed state

/-- What a desk looks like once the order on a symbol was withdrawn. -/
structure Withdrawn (symbol : Symbol) (before after : Desk) : Prop where
  book : after.book = before.book
  registry : after.registry = before.registry
  halt : after.halt = before.halt
  slot : ∀ other, after.reservations.ticketOf other =
    if other = symbol then Reservations.free
    else before.reservations.ticketOf other
  working : ∀ other, after.working.find? other =
    if other = symbol then none else before.working.find? other

/-- Withdrawing an order frees the slot that it holds. -/
theorem withdrawn_withdraw
    (desk : Desk)
    {symbol : Symbol}
    {position : Position}
    {order : WorkingOrder}
    (cell :
      Cell (some position) (desk.reservations.ticketOf symbol) (some order))
    (working : desk.working.find? symbol = some order)
    (keyed : position.symbol = symbol) :
    Withdrawn symbol desk (desk.withdraw symbol) := by
  have slots
      (vacant : desk.reservations.ticketOf symbol = Reservations.free)
      (other : Symbol) :
      (desk.forget symbol).reservations.ticketOf other =
        if other = symbol then Reservations.free
        else desk.reservations.ticketOf other := by
    by_cases here : other = symbol
    · rw [if_pos here, here]
      exact vacant
    · rw [if_neg here]
      rfl
  generalize ticket : desk.reservations.ticketOf symbol = held at cell
  cases cell with
  | entering shaped state directed taken own =>
    rw [withdraw_of_token working rfl]
    refine ⟨rfl, rfl, rfl, fun other => ?_, fun other => ?_⟩
    · have freed :=
        Reservations.ticketOf_releaseTicket desk.reservations symbol
          (desk.reservations.ticketOf symbol) other
      simp only [and_true] at freed
      rw [← freed, ticket, ← keyed, ← own]
      rfl
    · exact find?_working_forget desk symbol other
  | reducing =>
    rw [withdraw_of_no_token working rfl]
    exact ⟨rfl, rfl, rfl, slots ticket, find?_working_forget desk symbol⟩
  | closing =>
    rw [withdraw_of_no_token working rfl]
    exact ⟨rfl, rfl, rfl, slots ticket, find?_working_forget desk symbol⟩

/-- An answer of the venue to a working order keeps the desk coherent. -/
theorem Coherent.conclude
    {desk : Desk}
    (coherent : desk.Coherent)
    {symbol : Symbol}
    {order : WorkingOrder}
    (working : desk.working.find? symbol = some order)
    {event : Position.Event}
    (answer : event.kind = .filled ∨ event.kind = .failed)
    (now : Instant) :
    (desk.conclude symbol event now).1.Coherent := by
  rcases coherent.exists_position working with ⟨position, found⟩
  have current := Book.positionOf_of_get? found now
  have cell := coherent.cell symbol
  rw [found, working] at cell
  have keyed : position.symbol = symbol := coherent.keyed found
  unfold Desk.conclude
  cases applied : position.apply event now with
  | error fault =>
    rw [apply_of_error found applied]
    exact coherent
  | ok next =>
    have moves := Position.moves_of_apply applied
    have settled := moves.state_of_answer answer
    have shaped := Position.wellFormed_of_apply applied
    rcases apply_of_ok desk symbol (by rw [current]; exact applied) with
      ⟨store, tally, saved⟩
    have done : next.state.hasPendingOrder = false := by
      rcases settled with state | state <;>
        simp [state, Position.State.hasPendingOrder]
    rw [saved]
    simp only [done, Bool.false_eq_true, if_false]
    have after :=
      withdrawn_withdraw
        { desk with
          book := desk.book.moved symbol next, store, tally }
        cell working keyed
    refine coherent.changedAt symbol ?_ ?_ ?_ ?_
    · intro other apart
      refine ⟨?_, ?_, ?_⟩
      · rw [after.book, Book.get?_moved, if_neg apart]
      · rw [after.slot, if_neg apart]
      · rw [after.working, if_neg apart]
    · intro filed same
      rw [after.book, Book.get?_moved, if_pos rfl] at same
      cases same
      rw [moves.symbol_eq]
      exact keyed
    · rw [after.book, after.slot, after.working, Book.get?_moved]
      simp only [if_true]
      refine .resting shaped ?_
      rcases settled with state | state <;> simp [state]
    · rw [after.registry]
      exact coherent.registry

/-- Taking a report keeps the desk coherent, whatever the report says. -/
theorem Coherent.settle
    {desk : Desk}
    (coherent : desk.Coherent)
    (report : Venue.Report)
    (now : Instant) :
    (desk.settle report now).1.Coherent := by
  have counted :
      Coherent { desk with tally := desk.tally.withReport } :=
    coherent.of_same rfl rfl rfl rfl
  unfold Desk.settle
  simp only
  split
  · rename_i working
    unfold isWorking at working
    split at working
    · contradiction
    rename_i order found
    rcases counted.exists_position found with ⟨position, held⟩
    unfold settleWorking
    split
    · rename_i meant
      refine counted.forget held ?_
      rw [← Book.stateOf_of_get? held]
      exact state_ne_entering_of_eventOf? meant
    · rename_i event meant
      have concluded :=
        counted.conclude found (kind_of_eventOf? meant) now
      split <;> rename_i outcome <;> rw [outcome] at concluded <;>
        exact concluded
  · exact counted

end Desk

end MandateDesk
