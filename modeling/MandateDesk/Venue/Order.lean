import MandateDesk.Action
import MandateDesk.Decimal.Basic
import MandateDesk.Reservation

/-!
# Orders and reports

An order asks the venue to open a position, to close a part or all of one, or
to cancel an entry that still works. A dispatch is an order on its way, with
the action that it carries out; a report says what became of a dispatch.

The desk numbers the dispatches that it issues. A report may also name a
dispatch that the desk never issued.
-/

namespace MandateDesk

/-- The name of a dispatch. -/
inductive DispatchId where
  /-- The dispatch with a serial number. -/
  | issued (serial : Nat)
  /-- A name that the desk did not give. -/
  | foreign (identifier : Identifier)
deriving DecidableEq

namespace Venue

/-- What the venue is asked to do. -/
inductive Order where
  /-- Open a position. -/
  | enter (direction : Direction) (quantity : Decimal)
  /-- Close a part of the position. -/
  | reduce (quantity : Decimal)
  /-- Close the position. -/
  | close (quantity : Decimal)
  /-- Cancel an entry. -/
  | cancelEntry (target : DispatchId)
deriving DecidableEq

/-- The name of an order. -/
def Order.name : Order → String
  | .enter .. => "enter"
  | .reduce .. => "reduce"
  | .close .. => "close"
  | .cancelEntry .. => "cancel_entry"

/-- Whether an order opens a position. -/
def Order.isEntry : Order → Bool
  | .enter .. => true
  | _ => false

/-- An order on its way to the venue. -/
structure Dispatch where
  /-- The name of the dispatch. -/
  id : DispatchId
  /-- The instrument. -/
  symbol : Symbol
  /-- What is asked for. -/
  order : Order
  /-- The action that the order carries out. -/
  action : Action
  /-- The reservation behind an entry. -/
  reservation : Option Reservation.Receipt
deriving DecidableEq

/-- What became of a dispatch. -/
inductive Outcome where
  /-- A quantity was traded at a price. -/
  | filled (quantity price : Decimal)
  /-- The venue did not work the order. -/
  | rejected (reason : String)
  /-- The order was withdrawn. -/
  | cancelled (reason : String)
deriving DecidableEq

/-- The venue's answer to a dispatch. -/
structure Report where
  /-- The dispatch that is answered. -/
  dispatch : DispatchId
  /-- The instrument. -/
  symbol : Symbol
  /-- What became of the dispatch. -/
  outcome : Outcome
deriving DecidableEq

end Venue

end MandateDesk
