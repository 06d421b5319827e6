import MandateDesk.Halt
import MandateDesk.Record.Parts

/-!
# Records of halts

The reason of a halt is a record whose tag is its kind. The record of the
latch shows its reason, also as a text, and whether the time of the trip is
known.
-/

namespace MandateDesk.Halt

namespace Reason

/-- The kind of a reason. -/
def kind : Reason → String
  | .staleReservation .. => "stale_reservation"
  | .invariantViolation .. => "invariant_violation"
  | .fatal .. => "fatal"
  | .manual .. => "manual"

/-- The record of a reason. -/
def record (reason : Reason) : Json :=
  .object
    (("kind", .string reason.kind) ::
      match reason with
      | .staleReservation symbol ticket =>
        [("symbol", .string symbol), ("ticket", Record.ofNat ticket)]
      | .invariantViolation symbol detail =>
        [("symbol", .string symbol), ("detail", .string detail)]
      | .fatal detail => [("detail", .string detail)]
      | .manual text => [("reason", .string text)])

/-- The names of the parts of a reason of a kind. -/
def partNames : String → List String
  | "stale_reservation" => ["symbol", "ticket"]
  | "invariant_violation" => ["symbol", "detail"]
  | "fatal" => ["detail"]
  | "manual" => ["reason"]
  | _ => []

/-- The reason that a record stands for. -/
def ofRecord? (value : Json) : Option Reason := do
  let (kind, parts) ← Record.tagged? Record.named? "kind" partNames value
  match kind with
  | "stale_reservation" =>
    return .staleReservation
      (← Record.required? "symbol" Json.asText? parts)
      (← Record.required? "ticket" Record.unsigned64? parts)
  | "invariant_violation" =>
    return .invariantViolation
      (← Record.required? "symbol" Json.asText? parts)
      (← Record.required? "detail" Json.asText? parts)
  | "fatal" => return .fatal (← Record.required? "detail" Json.asText? parts)
  | "manual" => return .manual (← Record.required? "reason" Json.asText? parts)
  | _ => none

end Reason

/-- The record of the latch. -/
def record (halt : Halt) : Json :=
  .object
    [("halted", .boolean halt.isHalted),
      ("reason", Record.ofOption Reason.record halt.reason?),
      ("text",
        Record.ofOption (fun reason => .string reason.text) halt.reason?),
      ("stamped", .boolean halt.since?.isSome)]

end MandateDesk.Halt
