import MandateDesk.Action
import MandateDesk.Instant.Printer
import MandateDesk.Record.Parts

/-!
# Records of mandates and actions

A mandate and an action are records with one part for each of their fields.
Words are upper case; the direction of a mandate and its quantity may be left
out.
-/

namespace MandateDesk

namespace Mandate

/-- The names of the parts of a mandate. -/
def partNames : List String :=
  ["id", "symbol", "kind", "authority", "timestamp", "source_id", "direction",
    "quantity", "status"]

/-- The record of a mandate. -/
def record (mandate : Mandate) : Json :=
  .object
    [("id", Record.ofIdentifier mandate.id),
      ("symbol", Record.ofSymbol mandate.symbol),
      ("kind", .string mandate.kind.word),
      ("authority", Record.ofNat mandate.authority),
      ("timestamp", .string mandate.stamp.text),
      ("source_id", .string mandate.source),
      ("direction", Record.ofOption Record.ofDirection mandate.direction),
      ("quantity", Record.ofDecimal mandate.quantity),
      ("status", .string mandate.status.word)]

/-- Reads the word for a kind. -/
def Kind.ofRecord? (value : Json) : Option Kind :=
  value.asWord?.bind Kind.ofWord?

/-- Reads the word for a status. -/
def Status.ofRecord? (value : Json) : Option Status :=
  value.asWord?.bind Status.ofWord?

/-- The mandate that a record stands for. -/
def ofRecord? (value : Json) : Option Mandate := do
  let parts ← Record.parts? partNames value
  return {
    id := ← Record.required? "id" Json.asIdentifier? parts
    symbol := ← Record.required? "symbol" Record.symbol? parts
    kind := ← Record.required? "kind" Kind.ofRecord? parts
    authority := ← Record.required? "authority" Record.unsigned32? parts
    stamp := ← Record.required? "timestamp" Json.asInstant? parts
    source := ← Record.required? "source_id" Json.asText? parts
    direction :=
      ← Record.defaulted? "direction" none
        (Json.asOptional? Record.direction?) parts
    quantity :=
      ← Record.defaulted? "quantity" Decimal.zero Json.asDecimal? parts
    status := ← Record.required? "status" Status.ofRecord? parts }

end Mandate

namespace Action

/-- The names of the parts of an action. -/
def partNames : List String :=
  ["kind", "symbol", "originating_mandate_id", "direction", "quantity",
    "origin"]

/-- The record of an action whose mandates have names. -/
def namedRecord (name : Identifier → String) (action : Action) : Json :=
  .object
    [("kind", .string action.kind.word),
      ("symbol", Record.ofSymbol action.symbol),
      ("originating_mandate_id",
        Record.ofOption (fun id => .string (name id)) action.mandate),
      ("direction", Record.ofOption Record.ofDirection action.direction),
      ("quantity", Record.ofDecimal action.quantity),
      ("origin", .string action.origin.name)]

/-- The record of an action. -/
def record (action : Action) : Json :=
  action.namedRecord Identifier.text

/-- Reads the word for the kind of an action. -/
def Kind.ofRecord? (value : Json) : Option Kind :=
  value.asWord?.bind Kind.ofWord?

/-- The action that a record stands for. -/
def ofRecord? (value : Json) : Option Action := do
  let parts ← Record.parts? partNames value
  return {
    kind := ← Record.required? "kind" Kind.ofRecord? parts
    symbol := ← Record.required? "symbol" Record.symbol? parts
    mandate :=
      ← Record.optional? "originating_mandate_id" Json.asIdentifier? parts
    direction := ← Record.optional? "direction" Record.direction? parts
    quantity := ← Record.required? "quantity" Json.asDecimal? parts
    origin :=
      ← Record.required? "origin"
        (fun origin => origin.asWord?.bind Origin.ofName?) parts }

end Action

end MandateDesk
