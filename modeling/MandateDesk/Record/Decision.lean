import MandateDesk.Desk.Decision
import MandateDesk.Record.Position
import MandateDesk.Record.Risk
import MandateDesk.Record.Venue

/-!
# Records of decisions

Decisions, the summaries of cycles and the tally of all of them. An outcome is
a record whose tag is its name.
-/

namespace MandateDesk.Desk

namespace Outcome

/-- The record of an outcome. -/
def record (naming : Naming) (outcome : Outcome) : Json :=
  let dispatch (id : DispatchId) : Json := .string (naming.dispatch id)
  .object
    (("outcome", .string outcome.name) ::
      match outcome with
      | dispatched id => [("dispatch_id", dispatch id)]
      | rejected rejection => [("rejection", rejection.record)]
      | forcedExit distance id =>
        [("distance", Record.ofDecimal distance),
          ("dispatch_id", Record.ofOption dispatch id)]
      | deferred reason => [("reason", .string reason)]
      | conflict holder => [("holder", Record.ofOption Json.string holder)]
      | halted => []
      | failed reason => [("reason", .string reason)]
      | noAction => [])

/-- The names of the parts of an outcome with a name. -/
def partNames : String → List String
  | "dispatched" => ["dispatch_id"]
  | "rejected" => ["rejection"]
  | "forced_exit" => ["distance", "dispatch_id"]
  | "deferred" => ["reason"]
  | "conflict" => ["holder"]
  | "failed" => ["reason"]
  | _ => []

/-- Reads the name of a dispatch that the desk did not give. -/
def foreign? (value : Json) : Option DispatchId :=
  value.asIdentifier?.map DispatchId.foreign

/-- The outcome that a record stands for. -/
def ofRecord? (value : Json) : Option Outcome := do
  let (name, parts) ← Record.tagged? Record.named? "outcome" partNames value
  match name with
  | "dispatched" =>
    return dispatched (← Record.required? "dispatch_id" foreign? parts)
  | "rejected" =>
    return rejected
      (← Record.required? "rejection" Risk.Rejection.ofInnerRecord? parts)
  | "forced_exit" =>
    return forcedExit
      (← Record.required? "distance" Json.asDecimal? parts)
      (← Record.optional? "dispatch_id" foreign? parts)
  | "deferred" =>
    return deferred (← Record.required? "reason" Json.asText? parts)
  | "conflict" =>
    return conflict (← Record.optional? "holder" Json.asText? parts)
  | "halted" => return halted
  | "failed" => return failed (← Record.required? "reason" Json.asText? parts)
  | "no_action" => return noAction
  | _ => none

end Outcome

namespace Decision

/-- The record of a decision. -/
def record (naming : Naming) (decision : Decision) : Json :=
  .object
    [("cycle", Record.ofNat decision.cycle),
      ("snapshot_version", Record.ofNat decision.version),
      ("symbol", Record.ofSymbol decision.symbol),
      ("position_state", .string decision.state.name),
      ("action", decision.action.record),
      ("outcome", decision.outcome.record naming),
      ("decided_at", .string decision.decidedAt.text)]

/-- The names of the parts of a decision. -/
def partNames : List String :=
  ["cycle", "snapshot_version", "symbol", "position_state", "action",
    "outcome", "decided_at"]

/-- The decision that a record stands for. -/
def ofRecord? (value : Json) : Option Decision := do
  let parts ← Record.parts? partNames value
  return {
    cycle := ← Record.required? "cycle" Record.unsigned64? parts
    version := ← Record.required? "snapshot_version" Record.unsigned64? parts
    symbol := ← Record.required? "symbol" Record.symbol? parts
    state :=
      ← Record.required? "position_state" Position.State.ofRecord? parts
    action := ← Record.required? "action" Action.ofRecord? parts
    outcome := ← Record.required? "outcome" Outcome.ofRecord? parts
    decidedAt := ← Record.required? "decided_at" Json.asInstant? parts }

end Decision

namespace CycleSummary

/-- The record of a summary. -/
def record (naming : Naming) (summary : CycleSummary) : Json :=
  .object
    [("cycle", Record.ofNat summary.cycle),
      ("snapshot_version", Record.ofOption Record.ofNat summary.version),
      ("stale", .boolean summary.stale),
      ("expired_mandates", Record.ofNat summary.expired),
      ("decisions",
        Record.ofList (Decision.record naming) summary.decisions)]

/-- The names of the parts of a summary. -/
def partNames : List String :=
  ["cycle", "snapshot_version", "stale", "expired_mandates", "decisions"]

/-- The summary that a record stands for. -/
def ofRecord? (value : Json) : Option CycleSummary := do
  let parts ← Record.parts? partNames value
  return {
    cycle := ← Record.required? "cycle" Record.unsigned64? parts
    version := ← Record.optional? "snapshot_version" Record.unsigned64? parts
    stale := ← Record.required? "stale" Json.asBoolean? parts
    expired := ← Record.required? "expired_mandates" Record.unsigned64? parts
    decisions :=
      ← Record.required? "decisions" (Record.list? Decision.ofRecord?) parts }

end CycleSummary

/-- The record of a tally. -/
def Tally.record (tally : Tally) : Json :=
  .object
    [("cycles", Record.ofNat tally.cycles),
      ("stale_cycles", Record.ofNat tally.staleCycles),
      ("dispatched", Record.ofNat tally.dispatched),
      ("rejections", Record.ofNat tally.rejections),
      ("forced_exits", Record.ofNat tally.forcedExits),
      ("conflicts", Record.ofNat tally.conflicts),
      ("failures", Record.ofNat tally.failures),
      ("reports", Record.ofNat tally.reports),
      ("persist_failures", Record.ofNat tally.persistFailures)]

end MandateDesk.Desk
