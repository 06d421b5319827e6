import MandateDesk.Fault
import MandateDesk.Record.Parts

/-!
# Records of faults

The record of a fault names its kind and says what happened, except where the
text would depend on the machine. A fatal fault is marked. Stale market data
is described by its version and the limit on its age instead of a text, which
would depend on the clock.
-/

namespace MandateDesk.Fault

/-- The name of a kind of fault. -/
def name : Fault → String
  | configuration => "Config"
  | invalidConfiguration .. => "InvalidConfig"
  | invalidTransition .. => "InvalidTransition"
  | invariantViolation .. => "InvariantViolation"
  | riskViolation .. => "RiskViolation"
  | staleSnapshot .. => "StaleSnapshot"
  | duplicateMandate .. => "DuplicateMandate"
  | unknownMandate .. => "UnknownMandate"
  | invalidMandate .. => "InvalidMandate"
  | halted .. => "Halted"
  | channelClosed .. => "ChannelClosed"
  | stageStopped .. => "StageStopped"
  | execution .. => "Execution"
  | persistence => "Persistence"
  | unprintable => "Other"

/-- What a record says about a fault, apart from its kind. -/
def details (naming : Naming) (fault : Fault) : List (String × Json) :=
  match fault with
  | configuration => []
  | persistence => []
  | unprintable => []
  | staleSnapshot version _ oldest =>
    [("version", Record.ofNat version), ("max_age_ms", Record.ofNat oldest)]
  | _ =>
    let message := ("message", Json.string (fault.message naming))
    if fault.isFatal then [message, ("fatal", .boolean true)] else [message]

/-- The record of a fault. -/
def record (naming : Naming) (fault : Fault) : Json :=
  .object (("error", .string fault.name) :: fault.details naming)

end MandateDesk.Fault
