import MandateDesk.Instant.Printer
import MandateDesk.Position.Transition
import MandateDesk.Record.Parts

/-!
# Records of positions

The record of a position has one part for each of its fields, in a fixed
order. Direction and entry price may be left out. An event is a record whose
tag is its type. The profile of a state lists all that can be asked about it.
-/

namespace MandateDesk.Position

/-- The names of the parts of a position. -/
def partNames : List String :=
  ["symbol", "state", "direction", "quantity", "entry_price",
    "pending_quantity", "updated_at"]

/-- The parts of a position. -/
def parts (position : Position) : List (String × Json) :=
  [("symbol", Record.ofSymbol position.symbol),
    ("state", .string position.state.name),
    ("direction", Record.ofOption Record.ofDirection position.direction),
    ("quantity", Record.ofDecimal position.quantity),
    ("entry_price", Record.ofOption Record.ofDecimal position.entryPrice),
    ("pending_quantity", Record.ofDecimal position.pendingQuantity),
    ("updated_at", .string position.updatedAt.text)]

/-- The record of a position. -/
def record (position : Position) : Json :=
  .object position.parts

/-- The record of a position that also shows what follows from its parts. -/
def profile (position : Position) : Json :=
  .object
    (position.parts ++
      [("signed", Record.ofDecimal position.signedQuantity),
        ("flat", .boolean position.isFlat)])

/-- Reads the name of a state. -/
def State.ofRecord? (value : Json) : Option State :=
  value.asWord?.bind State.ofName?

/-- The profile of a state. -/
def State.profile (state : State) : Json :=
  let words (states : List State) : Json :=
    Record.ofList (fun each => .string each.word) states
  .object
    [("name", .string state.word), ("valid", words state.successors),
      ("can", words (State.all.filter state.canBecome)),
      ("admits",
        Record.ofList (fun kind => .string kind.word)
          (Mandate.Kind.all.filter state.admits)),
      ("events",
        Record.ofList (fun kind => .string kind.name) state.acceptedEvents),
      ("has_exposure", .boolean state.hasExposure),
      ("has_pending_order", .boolean state.hasPendingOrder)]

/-- The position that a record stands for. -/
def ofRecord? (value : Json) : Option Position := do
  let parts ← Record.parts? partNames value
  return {
    symbol := ← Record.required? "symbol" Record.symbol? parts
    state := ← Record.required? "state" State.ofRecord? parts
    direction := ← Record.optional? "direction" Record.direction? parts
    quantity := ← Record.required? "quantity" Json.asDecimal? parts
    entryPrice := ← Record.optional? "entry_price" Json.asDecimal? parts
    pendingQuantity :=
      ← Record.required? "pending_quantity" Json.asDecimal? parts
    updatedAt := ← Record.required? "updated_at" Json.asInstant? parts }

/-- The names of the parts of an event of a type. -/
def Event.partNames : String → List String
  | "entry_admitted" => ["direction", "quantity"]
  | "reduce_admitted" => ["quantity"]
  | "filled" => ["quantity", "price"]
  | "failed" => ["reason"]
  | _ => []

/-- The event of a type with parts. -/
def Event.ofParts? (parts : Record.Parts) : String → Option Event
  | "entry_admitted" => do
    return .entryAdmitted
      (← Record.required? "direction" Record.looseDirection? parts)
      (← Record.required? "quantity" Json.asDecimal? parts)
  | "reduce_admitted" => do
    return .reduceAdmitted
      (← Record.required? "quantity" Json.asDecimal? parts)
  | "exit_admitted" => some .exitAdmitted
  | "filled" => do
    return .filled
      (← Record.required? "quantity" Json.asDecimal? parts)
      (← Record.required? "price" Json.asDecimal? parts)
  | "failed" => do
    return .failed (← Record.required? "reason" Json.asText? parts)
  | _ => none

/-- The event that a record stands for. -/
def Event.ofRecord? (value : Json) : Option Event := do
  let (type, parts) ← Record.tagged? Record.named? "type" Event.partNames value
  Event.ofParts? parts type

/-- The record of a transition. -/
def Transition.record (transition : Transition) : Json :=
  .object
    [("symbol", Record.ofSymbol transition.symbol),
      ("from", .string transition.source.name),
      ("to", .string transition.target.name),
      ("event", .string transition.event.name)]

end MandateDesk.Position
