import MandateDesk.Desk.Basic
import MandateDesk.Risk.Distance

/-!
# Turns

While a cycle decides, it has the desk to itself: its turn is the desk as it
stands and the orders that it has handed over so far. An order is registered
as working before it is handed over. Where no order can be handed over any
more, it is taken off the desk again and the cycle ends.
-/

namespace MandateDesk.Desk

open Reservation (Receipt Token)

/-- What one cycle decides by. -/
structure Round where
  /-- The cycle. -/
  cycle : Nat
  /-- The version of the market data. -/
  version : Nat
  /-- The limits, the account and the prices. -/
  view : Risk.View
  /-- The name under which reservations are taken. -/
  holder : String
  /-- The time of the decisions. -/
  now : Instant

/-- The desk in the middle of a cycle. -/
structure Turn where
  /-- The desk as it stands. -/
  desk : Desk
  /-- The orders that were handed over, in order. -/
  outbox : List Venue.Dispatch
  /-- How many more orders can be handed over, where there is a bound. -/
  room : Option Nat

namespace Turn

/-- A turn that goes on with a changed desk. -/
def on (turn : Turn) (desk : Desk) : Turn :=
  { turn with desk }

/-- The name of the dispatch that is issued next. -/
def nextId (turn : Turn) : DispatchId :=
  .issued (turn.desk.issued + 1)

/-- A turn in which one more dispatch was issued. -/
def issuing (turn : Turn) : Turn :=
  turn.on { turn.desk with issued := turn.desk.issued + 1 }

/-- Adds a dispatch to those that were handed over, if there is room. -/
def place (turn : Turn) (dispatch : Venue.Dispatch) : Option Turn :=
  match turn.room with
  | none => some { turn with outbox := turn.outbox ++ [dispatch] }
  | some 0 => none
  | some (left + 1) =>
    some { turn with
      outbox := turn.outbox ++ [dispatch]
      room := some left }

/-- Issues a dispatch and hands it over. -/
def hand
    (turn : Turn)
    (action : Action)
    (order : Venue.Order)
    (reservation : Option Receipt) :
    Turn × Except Fault DispatchId :=
  let id := turn.nextId
  let issued := turn.issuing
  match issued.place ⟨id, action.symbol, order, action, reservation⟩ with
  | some handed => (handed, .ok id)
  | none => (issued, .error (.stageStopped .dispatchUnreachable))

/-- Registers an order as working and hands it over. -/
def dispatch
    (turn : Turn)
    (action : Action)
    (order : Venue.Order)
    (token : Option Token) :
    Turn × Except Fault DispatchId :=
  let started :=
    turn.on (turn.desk.start action.symbol ⟨turn.nextId, order, token, false⟩)
  match started.hand action order (token.map Token.receipt) with
  | (handed, .ok id) => (handed, .ok id)
  | (left, .error fault) =>
    (left.on (left.desk.withdraw action.symbol), .error fault)

/--
Asks the venue to cancel the entry that works on a symbol. There is nothing to
ask for when no entry works or it is being cancelled already.
-/
def requestCancel
    (turn : Turn)
    (action : Action) :
    Turn × Except Fault (Option DispatchId) :=
  match turn.desk.cancellable? action.symbol with
  | none => (turn, .ok none)
  | some order =>
    let marked :=
      turn.on
        (turn.desk.start action.symbol { order with isCancelled := true })
    match marked.hand action (.cancelEntry order.dispatch) none with
    | (handed, .ok id) => (handed, .ok (some id))
    | (left, .error fault) => (left, .error fault)

end Turn

end MandateDesk.Desk
