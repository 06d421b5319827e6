import MandateDesk.Book
import MandateDesk.Desk.Decision
import MandateDesk.Registry
import MandateDesk.Risk.Deleverage
import MandateDesk.Risk.Metrics
import MandateDesk.Store.Basic

/-!
# The desk

The desk holds all that decisions read and change: the book, the mandates, the
reservations, the orders that work at the venue, the halt latch and the store.
It also keeps what others want to know: a tally, the latest decision on each
symbol, the decisions that nobody has read yet, and the latest risk figures.

Each operation here changes one thing on the desk, or two that belong
together: a position with its saved copy, a working order with its
reservation.
-/

namespace MandateDesk

namespace Desk

open Reservation (Token)

/-- An order that works at the venue. -/
structure WorkingOrder where
  /-- The dispatch that carried it. -/
  dispatch : DispatchId
  /-- What was asked for. -/
  order : Venue.Order
  /-- The reservation of an entry. -/
  token : Option Token
  /-- Whether the venue was asked to cancel it. -/
  isCancelled : Bool
deriving DecidableEq

/-- The risk figures at the end of a cycle. -/
structure RiskReading where
  /-- The cycle. -/
  cycle : Nat
  /-- The figures. -/
  metrics : Risk.Metrics
  /-- The reductions that would bring the account back to its aim. -/
  suggestions : List Risk.Suggestion

end Desk

/-- What decisions read and change. -/
structure Desk where
  /-- The positions. -/
  book : Book
  /-- The mandates. -/
  registry : Registry
  /-- The reservations. -/
  reservations : Reservations
  /-- The order that works on each symbol. -/
  working : OrderedMap Symbol Desk.WorkingOrder
  /-- The halt latch. -/
  halt : Halt
  /-- Where positions are saved. -/
  store : Store
  /-- Counts of what happened. -/
  tally : Desk.Tally
  /-- The latest decision on each symbol. -/
  latest : OrderedMap Symbol Desk.Decision
  /-- The decisions that were not read yet, in order. -/
  unread : List Desk.Decision
  /-- The latest risk figures. -/
  reading : Option Desk.RiskReading
  /-- Number of dispatches that were issued. -/
  issued : Nat

namespace Desk

open Reservation (Conflict Token)

/-- A desk without positions and mandates, over a store. -/
def blank (store : Store) : Desk where
  book := Book.empty
  registry := Registry.empty
  reservations := Reservations.empty
  working := OrderedMap.empty
  halt := Halt.released
  store
  tally := Tally.zero
  latest := OrderedMap.empty
  unread := []
  reading := none
  issued := 0

/-- Saves the position of a symbol. A failure is counted and then ignored. -/
def persist (desk : Desk) (symbol : Symbol) : Desk :=
  match desk.book.get? symbol with
  | none => desk
  | some position =>
    match desk.store.save position with
    | .ok store => { desk with store }
    | .error _ => { desk with tally := desk.tally.withPersistFailure }

@[simp]
theorem book_persist
    (desk : Desk)
    (symbol : Symbol) :
    (desk.persist symbol).book = desk.book := by
  unfold persist
  split
  · rfl
  · split <;> rfl

/-- Applies an event to the position of a symbol and saves what follows. -/
def apply
    (desk : Desk)
    (symbol : Symbol)
    (event : Position.Event)
    (now : Instant) :
    Desk × Except Fault Position.Transition :=
  match desk.book.apply symbol event now with
  | (book, .error fault) => ({ desk with book }, .error fault)
  | (book, .ok transition) =>
    (persist { desk with book } symbol, .ok transition)

/-- Marks the mandate behind an action as consumed, where there is one. -/
def consume (desk : Desk) (action : Action) : Except Fault Desk :=
  match action.mandate with
  | none => .ok desk
  | some id =>
    match desk.registry.update id .consumed with
    | .error fault => .error fault
    | .ok (registry, _) => .ok { desk with registry }

/-- Spends the mandate behind an action on an event of its symbol. -/
def spend
    (desk : Desk)
    (action : Action)
    (event : Position.Event)
    (now : Instant) :
    Desk × Except Fault Unit :=
  match desk.consume action with
  | .error fault => (desk, .error fault)
  | .ok spent =>
    match spent.apply action.symbol event now with
    | (next, .error fault) => (next, .error fault)
    | (next, .ok _) => (next, .ok ())

/-- Marks the mandate behind an action as rejected, if it is still active. -/
def refuse (desk : Desk) (action : Action) : Desk :=
  match action.mandate with
  | none => desk
  | some id =>
    match desk.registry.update id .rejected with
    | .error _ => desk
    | .ok (registry, _) => { desk with registry }

/-- Takes the slot of a symbol, if it is free. -/
def reserve
    (desk : Desk)
    (symbol : Symbol)
    (holder : String)
    (now : Instant) :
    Desk × Except Conflict Token :=
  let (reservations, result) := desk.reservations.reserve symbol holder now
  ({ desk with reservations }, result)

/-- Gives up a reservation. -/
def release (desk : Desk) (token : Token) : Desk :=
  { desk with reservations := (desk.reservations.release token).1 }

/-- Registers an order as the one that works on its symbol. -/
def start
    (desk : Desk)
    (symbol : Symbol)
    (order : WorkingOrder) :
    Desk :=
  { desk with working := desk.working.insert symbol order }

@[simp]
theorem find?_working_start
    (desk : Desk)
    (symbol other : Symbol)
    (order : WorkingOrder) :
    (desk.start symbol order).working.find? other =
      if other = symbol then some order else desk.working.find? other :=
  OrderedMap.find?_insert _ _ _ _

/-- Takes the order that works on a symbol off the desk. -/
def forget (desk : Desk) (symbol : Symbol) : Desk :=
  { desk with working := desk.working.erase symbol }

@[simp]
theorem find?_working_forget
    (desk : Desk)
    (symbol other : Symbol) :
    (desk.forget symbol).working.find? other =
      if other = symbol then none else desk.working.find? other :=
  OrderedMap.find?_erase _ _ _

/-- Takes the order on a symbol off the desk and frees its reservation. -/
def withdraw (desk : Desk) (symbol : Symbol) : Desk :=
  match desk.working.find? symbol with
  | none => desk
  | some order =>
    match order.token with
    | none => desk.forget symbol
    | some token => (desk.forget symbol).release token

/-- The entry that works on a symbol, unless it is being cancelled. -/
def cancellable? (desk : Desk) (symbol : Symbol) : Option WorkingOrder :=
  (desk.working.find? symbol).filter fun order =>
    !order.isCancelled && order.order.isEntry

/-- Notes that the venue turned down the cancel of an entry. -/
def keepEntry
    (desk : Desk)
    (symbol : Symbol)
    (target : DispatchId) :
    Desk :=
  match desk.working.find? symbol with
  | none => desk
  | some order =>
    if order.dispatch = target then
      desk.start symbol { order with isCancelled := false }
    else desk

/-- Keeps a decision for those who ask. -/
def record (desk : Desk) (decision : Decision) : Desk :=
  { desk with
    latest := desk.latest.insert decision.symbol decision
    unread := desk.unread ++ [decision] }

/-- Why the latch is tripped after a fatal fault. -/
def haltReason : Fault → Halt.Reason
  | .invariantViolation symbol violation =>
    .invariantViolation symbol.name violation.text
  | fault => .fatal (fault.message .plain)

/-- Trips the latch. -/
def trip (desk : Desk) (reason : Halt.Reason) (now : Instant) : Desk :=
  { desk with halt := desk.halt.trip reason now }

/-- The quantity of a symbol that is held; zero where there is no position. -/
def heldQuantity (desk : Desk) (symbol : Symbol) : Decimal :=
  match desk.book.get? symbol with
  | none => Decimal.zero
  | some position => position.quantity

end Desk

end MandateDesk
