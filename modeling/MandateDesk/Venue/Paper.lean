import MandateDesk.Decimal.Arithmetic
import MandateDesk.Fault
import MandateDesk.OrderedMap

/-!
# The paper venue

A venue that trades on paper: it forwards what it is sent to whoever decides
about fills, and keeps the positions that fills lead to. It can be told to
refuse the next order, and the way to the receiver of its dispatches can be
closed.

Filling a cancel order withdraws the entry that it names.
-/

namespace MandateDesk

namespace Venue

/-- What the venue holds of one symbol. -/
structure Holding where
  /-- The instrument. -/
  symbol : Symbol
  /-- Its direction. -/
  direction : Direction
  /-- Its quantity. -/
  quantity : Decimal
  /-- The price at which it was entered. -/
  entryPrice : Decimal
deriving DecidableEq

end Venue

/-- A venue that trades on paper. -/
structure PaperVenue where
  /-- What the venue holds. -/
  holdings : OrderedMap Symbol Venue.Holding
  /-- Whether the next order is refused. -/
  refusesNext : Bool
  /-- Whether the receiver of dispatches is gone. -/
  isClosed : Bool
  /-- Number of orders that were taken. -/
  executed : Nat

namespace PaperVenue

open Venue

/-- A venue that holds some positions; of several for one symbol the last. -/
def holding (positions : List Holding) : PaperVenue :=
  { holdings := OrderedMap.indexed Holding.symbol positions
    refusesNext := false
    isClosed := false
    executed := 0 }

/-- A venue that refuses the next order. -/
def refusingNext (venue : PaperVenue) : PaperVenue :=
  { venue with refusesNext := true }

/-- A venue without a receiver for its dispatches. -/
def closed (venue : PaperVenue) : PaperVenue :=
  { venue with isClosed := true }

/-- What the venue holds of a symbol. -/
def holding? (venue : PaperVenue) (symbol : Symbol) : Option Holding :=
  venue.holdings.find? symbol

/-- All that the venue holds, in symbol order. -/
def openPositions (venue : PaperVenue) : List Holding :=
  venue.holdings.values

/-- Takes an order, unless it is refused or cannot be forwarded. -/
def execute
    (venue : PaperVenue)
    (dispatch : Dispatch) :
    PaperVenue × Except Fault Unit :=
  if venue.refusesNext then
    ({ venue with refusesNext := false },
      .error (.execution (.refused dispatch.order dispatch.symbol)))
  else
    ({ venue with executed := venue.executed + 1 },
      if venue.isClosed then .error (.channelClosed .venueDispatch)
      else .ok ())

/-- What is left of a holding after a quantity of it was closed. -/
def reduced (held : Holding) (quantity : Decimal) : Holding :=
  { held with
    quantity := max (held.quantity.saturatingSub quantity) Decimal.zero }

/-- The venue after a quantity of a symbol was closed. -/
def closing
    (venue : PaperVenue)
    (symbol : Symbol)
    (quantity : Decimal) :
    PaperVenue :=
  match venue.holdings.find? symbol with
  | none => venue
  | some held =>
    let left := reduced held quantity
    { venue with
      holdings :=
        if left.quantity.isZero then venue.holdings.erase symbol
        else venue.holdings.insert symbol left }

/-- The report that an entry was withdrawn. -/
def cancellation (dispatch : Dispatch) (target : DispatchId) : Report :=
  ⟨target, dispatch.symbol, .cancelled "cancelled on request"⟩

/-- The report that a dispatch was filled. -/
def filling (dispatch : Dispatch) (quantity price : Decimal) : Report :=
  ⟨dispatch.id, dispatch.symbol, .filled quantity price⟩

/-- Fills a quantity of a dispatch, which ends it. -/
def fillPartially
    (venue : PaperVenue)
    (dispatch : Dispatch)
    (quantity price : Decimal) :
    PaperVenue × Report :=
  match dispatch.order with
  | .enter direction _ =>
    ({ venue with
       holdings :=
         venue.holdings.insert dispatch.symbol
           ⟨dispatch.symbol, direction, quantity, price⟩ },
      filling dispatch quantity price)
  | .reduce _ =>
    (venue.closing dispatch.symbol quantity, filling dispatch quantity price)
  | .close _ =>
    (venue.closing dispatch.symbol quantity, filling dispatch quantity price)
  | .cancelEntry target => (venue, cancellation dispatch target)

/-- Fills all of a dispatch. -/
def fill
    (venue : PaperVenue)
    (dispatch : Dispatch)
    (price : Decimal) :
    PaperVenue × Report :=
  match dispatch.order with
  | .enter _ quantity => venue.fillPartially dispatch quantity price
  | .reduce quantity => venue.fillPartially dispatch quantity price
  | .close quantity => venue.fillPartially dispatch quantity price
  | .cancelEntry target => (venue, cancellation dispatch target)

/-- Rejects a dispatch. -/
def reject (dispatch : Dispatch) (reason : String) : Report :=
  ⟨dispatch.id, dispatch.symbol, .rejected reason⟩

end PaperVenue

end MandateDesk
