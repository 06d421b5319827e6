import MandateDesk.Record.Decision
import MandateDesk.Record.Fault
import MandateDesk.Session.Command
import MandateDesk.Session.Health

/-!
# Records of sessions

An overview of a desk at work, the reply to a command, the health of a
session, and the risk figures that its desk took last. The reason of a halt is
left out of the health while there is none.
-/

namespace MandateDesk

/-- The record of risk figures. -/
def Desk.RiskReading.record (reading : Desk.RiskReading) : Json :=
  .object
    [("cycle", Record.ofNat reading.cycle),
      ("metrics", reading.metrics.record),
      ("deleverage",
        Record.ofList Risk.Suggestion.record reading.suggestions)]

/-- What an overview of a desk shows. -/
def Desk.overview (desk : Desk) : List (String × Json) :=
  [("book", Record.ofList Position.record desk.book.positions.values),
    ("reserved", Record.ofNat desk.reservations.heldCount),
    ("working", Record.ofNat desk.working.size),
    ("active", Record.ofNat desk.registry.activeCount),
    ("halted", .boolean desk.halt.isHalted),
    ("halt",
      Record.ofOption (fun reason => .string reason.text) desk.halt.reason?)]

namespace Session

/-- The dispatches that the decisions behind a reply mention. -/
def Reply.mentions : Reply → List DispatchId
  | .summary made =>
    made.decisions.filterMap fun decision => decision.outcome.dispatch?
  | _ => []

/-- The record of a reply. -/
def Reply.record (naming : Naming) : Reply → Json
  | .registered id => Record.ofIdentifier id
  | .cancelled ids => Record.ofList Record.ofIdentifier ids
  | .summary made => made.record naming
  | .settled transition =>
    Record.ofOption Position.Transition.record transition
  | .published version => Record.ofNat version
  | .done => .null
  | .failed fault => fault.record naming

/-- The record of a session's health. -/
def Health.record (health : Health) : Json :=
  let reason :=
    match health.haltReason with
    | none => []
    | some text => [("halt_reason", Json.string text)]
  .object
    ([("status", .string health.status.name)] ++ reason ++
      [("snapshot_version", Record.ofNat health.version),
        ("positions_below_min_safe",
          Record.ofList Record.ofSymbol health.belowSafe)])

/-- The record of what a reader missed and reads now. -/
def Catchup.record (naming : Naming) (catchup : Catchup) : Json :=
  let lost :=
    if catchup.lost = 0 then []
    else [.object [("lagged", Record.ofNat catchup.lost)]]
  .array
    (lost ++ catchup.decisions.map (Desk.Decision.record naming))

end Session

end MandateDesk
