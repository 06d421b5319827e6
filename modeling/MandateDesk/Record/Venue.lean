import MandateDesk.Record.Mandate
import MandateDesk.Venue.Paper

/-!
# Records of orders and reports

Orders and outcomes are records with a tag. The names of dispatches are
chosen by the reader of a record.
-/

namespace MandateDesk

/-- The record of a receipt. -/
def Reservation.Receipt.record (receipt : Receipt) : Json :=
  .object
    [("symbol", Record.ofSymbol receipt.symbol),
      ("holder_id", .string receipt.holder),
      ("ticket", Record.ofNat receipt.ticket)]

namespace Venue

/-- The record of an order. -/
def Order.record (naming : Naming) (order : Order) : Json :=
  .object
    (("type", .string order.name) ::
      match order with
      | .enter direction quantity =>
        [("direction", Record.ofDirection direction),
          ("quantity", Record.ofDecimal quantity)]
      | .reduce quantity => [("quantity", Record.ofDecimal quantity)]
      | .close quantity => [("quantity", Record.ofDecimal quantity)]
      | .cancelEntry target => [("target", .string (naming.dispatch target))])

/-- The names of the parts of an order of a type. -/
def Order.partNames : String → List String
  | "enter" => ["direction", "quantity"]
  | "reduce" => ["quantity"]
  | "close" => ["quantity"]
  | "cancel_entry" => ["target"]
  | _ => []

/-- The order that a record stands for, whose target is read in its own way. -/
def Order.ofRecord?
    (target : Json → Option DispatchId)
    (value : Json) :
    Option Order := do
  let (type, parts) ← Record.tagged? Record.named? "type" Order.partNames value
  match type with
  | "enter" =>
    return .enter
      (← Record.required? "direction" Record.looseDirection? parts)
      (← Record.required? "quantity" Json.asDecimal? parts)
  | "reduce" =>
    return .reduce (← Record.required? "quantity" Json.asDecimal? parts)
  | "close" =>
    return .close (← Record.required? "quantity" Json.asDecimal? parts)
  | "cancel_entry" =>
    return .cancelEntry (← Record.required? "target" target parts)
  | _ => none

/-- The record of a dispatch. -/
def Dispatch.record (naming : Naming) (dispatch : Dispatch) : Json :=
  .object
    [("dispatch_id", .string (naming.dispatch dispatch.id)),
      ("symbol", Record.ofSymbol dispatch.symbol),
      ("order", dispatch.order.record naming),
      ("action", dispatch.action.record),
      ("reservation",
        Record.ofOption Reservation.Receipt.record dispatch.reservation)]

/-- The name of an outcome. -/
def Outcome.name : Outcome → String
  | .filled .. => "filled"
  | .rejected .. => "rejected"
  | .cancelled .. => "cancelled"

/-- The record of an outcome. -/
def Outcome.record (outcome : Outcome) : Json :=
  .object
    (("status", .string outcome.name) ::
      match outcome with
      | .filled quantity price =>
        [("quantity", Record.ofDecimal quantity),
          ("price", Record.ofDecimal price)]
      | .rejected reason => [("reason", .string reason)]
      | .cancelled reason => [("reason", .string reason)])

/-- The names of the parts of an outcome with a status. -/
def Outcome.partNames : String → List String
  | "filled" => ["quantity", "price"]
  | "rejected" => ["reason"]
  | "cancelled" => ["reason"]
  | _ => []

/-- The outcome that a record stands for. -/
def Outcome.ofRecord? (value : Json) : Option Outcome := do
  let (status, parts) ←
    Record.tagged? Record.named? "status" Outcome.partNames value
  match status with
  | "filled" =>
    return .filled
      (← Record.required? "quantity" Json.asDecimal? parts)
      (← Record.required? "price" Json.asDecimal? parts)
  | "rejected" =>
    return .rejected (← Record.required? "reason" Json.asText? parts)
  | "cancelled" =>
    return .cancelled (← Record.required? "reason" Json.asText? parts)
  | _ => none

/-- The record of a report. -/
def Report.record (naming : Naming) (report : Report) : Json :=
  .object
    [("dispatch_id", .string (naming.dispatch report.dispatch)),
      ("symbol", Record.ofSymbol report.symbol),
      ("outcome", report.outcome.record)]

/-- The record of a holding. -/
def Holding.record (holding : Holding) : Json :=
  .object
    [("symbol", Record.ofSymbol holding.symbol),
      ("direction", Record.ofDirection holding.direction),
      ("quantity", Record.ofDecimal holding.quantity),
      ("entry_price", Record.ofDecimal holding.entryPrice)]

/-- The holding that a record stands for. -/
def Holding.ofRecord? (value : Json) : Option Holding := do
  let parts ←
    Record.parts? ["symbol", "direction", "quantity", "entry_price"] value
  return ⟨← Record.required? "symbol" Record.symbol? parts,
    ← Record.required? "direction" Record.direction? parts,
    ← Record.required? "quantity" Json.asDecimal? parts,
    ← Record.required? "entry_price" Json.asDecimal? parts⟩

end Venue

end MandateDesk
