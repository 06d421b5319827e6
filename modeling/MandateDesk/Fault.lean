import MandateDesk.Halt
import MandateDesk.Position.Basic
import MandateDesk.Risk.Rejection
import MandateDesk.Venue.Order

/-!
# Faults

Everything that can go wrong, by its cause, and the text for each cause. The
names of mandates and dispatches inside a text are chosen by the reader of the
text.

After a fatal fault the desk must not go on acting on its state.
-/

namespace MandateDesk

/-- How mandates and dispatches are called in a text. -/
structure Naming where
  /-- The name of a dispatch. -/
  dispatch : DispatchId → String
  /-- The name of a mandate. -/
  mandate : Identifier → String

/-- Mandates are called by their identifiers and dispatches by their number. -/
def Naming.plain : Naming where
  dispatch
    | .issued serial => "d" ++ Text.decimalText serial
    | .foreign identifier => identifier.text
  mandate := Identifier.text

namespace Mandate

/-- What is wrong with a submitted mandate. -/
inductive Defect where
  /-- It names no symbol. -/
  | blankSymbol
  /-- It names no source. -/
  | blankSource
  /-- Its quantity carries a minus sign. -/
  | negativeQuantity (quantity : Decimal)
  /-- Its quantity is too large. -/
  | quantityAboveLimit (quantity : Decimal)
  /-- It is not active. -/
  | notActive (status : Status)
  /-- It asks for an entry without a direction. -/
  | entryWithoutDirection
  /-- It asks for an entry of nothing. -/
  | entryWithoutQuantity
  /-- It asks for a reduction by nothing. -/
  | reduceWithoutQuantity
deriving DecidableEq

/-- The text of a defect. -/
def Defect.text : Defect → String
  | .blankSymbol => "empty symbol"
  | .blankSource => "empty source_id"
  | .negativeQuantity quantity => s!"negative quantity {quantity}"
  | .quantityAboveLimit quantity =>
    s!"quantity {quantity} above limit {largestQuantity}"
  | .notActive status => s!"submitted with status {status}"
  | .entryWithoutDirection => "ENTRY requires a direction"
  | .entryWithoutQuantity => "ENTRY requires a positive quantity"
  | .reduceWithoutQuantity => "REDUCE requires a positive quantity"

/-- Why a mandate is refused. -/
inductive Refusal where
  /-- It has a defect. -/
  | defective (id : Identifier) (defect : Defect)
  /-- It has left the active status already. -/
  | settled (id : Identifier) (current target : Status)
  /-- Its text has not three or five fields. -/
  | fieldCount (text : String)
  /-- Its text does not begin with a kind. -/
  | unknownKind (text : String)
  /-- Its text has no number as authority. -/
  | badAuthority (text : String)
  /-- Its text has no direction where one is expected. -/
  | unknownDirection (text : String)
  /-- Its text has no quantity where one is expected. -/
  | badQuantity (text : String)
deriving DecidableEq

/-- The text of a refusal. -/
def Refusal.text (naming : Naming) : Refusal → String
  | .defective id defect => s!"{naming.mandate id}: {defect.text}"
  | .settled id current target =>
    s!"{naming.mandate id}: cannot move from {current} to {target}"
  | .fieldCount text =>
    s!"expected KIND:AUTHORITY:SOURCE[:DIRECTION:QUANTITY], got {text}"
  | .unknownKind text => s!"Unknown mandate kind: {text}"
  | .badAuthority text => s!"bad authority: {text}"
  | .unknownDirection text => s!"Unknown direction: {text}"
  | .badQuantity text => s!"bad quantity: {text}"

end Mandate

/-- Why an order or a report has no effect. -/
inductive ExecutionFault where
  /-- A report names an order that does not work on the symbol. -/
  | notWorking (dispatch : DispatchId) (symbol : Symbol)
  /-- The venue refused an order. -/
  | refused (order : Venue.Order) (symbol : Symbol)
deriving DecidableEq

/-- The text of a fault of execution. -/
def ExecutionFault.text (naming : Naming) : ExecutionFault → String
  | .notWorking dispatch symbol =>
    s!"no working order {naming.dispatch dispatch} for {symbol}"
  | .refused order symbol => s!"paper venue refused {order.name} for {symbol}"

/-- The connections that can be closed. -/
inductive Channel where
  /-- The way from the venue to whoever works its orders. -/
  | venueDispatch
  /-- The way of commands to the desk. -/
  | command
  /-- The way of answers from the desk. -/
  | reply
deriving DecidableEq

/-- The name of a connection. -/
def Channel.name : Channel → String
  | .venueDispatch => "paper venue dispatch"
  | .command => "pipeline command"
  | .reply => "pipeline reply"

/-- How a stage of the desk ends before its time. -/
inductive StageEnd where
  /-- No order can be handed to the venue any more. -/
  | dispatchUnreachable
  /-- The stage itself died. -/
  | taskFailed
deriving DecidableEq

/-- The text for the end of a stage. -/
def StageEnd.text : StageEnd → String
  | .dispatchUnreachable => "dispatch stage"
  | .taskFailed => "stage task failed"

/-- How the shape of the book can be broken. -/
inductive BookViolation where
  /-- A position has not the shape of its state. -/
  | position (violation : Position.Violation) (position : Position)
  /-- Two positions were recovered for one symbol. -/
  | repeatedSymbol
deriving DecidableEq

/-- The text of a violation. -/
def BookViolation.text : BookViolation → String
  | .position violation broken =>
    s!"{violation.text} ({broken.description})"
  | .repeatedSymbol => "more than one position recovered for symbol"

/-- What went wrong. -/
inductive Fault where
  /-- The configuration cannot be read. -/
  | configuration
  /-- The configuration contradicts itself. -/
  | invalidConfiguration (problems : List String)
  /-- A position does not take an event. -/
  | invalidTransition
      (symbol : Symbol)
      (state : Position.State)
      (event : Position.EventKind)
      (refusal : Position.Refusal)
  /-- A position lost its shape. -/
  | invariantViolation (symbol : Symbol) (violation : BookViolation)
  /-- The risk gate refuses an entry. -/
  | riskViolation (rejection : Risk.Rejection)
  /-- The market data is too old. -/
  | staleSnapshot (version age oldest : Nat)
  /-- A mandate was registered before. -/
  | duplicateMandate (id : Identifier)
  /-- There is no such mandate. -/
  | unknownMandate (id : Identifier)
  /-- A mandate is refused. -/
  | invalidMandate (refusal : Mandate.Refusal)
  /-- The desk stopped for a reason. -/
  | halted (reason : String)
  /-- A connection is closed. -/
  | channelClosed (channel : Channel)
  /-- A stage of the desk ended. -/
  | stageStopped (ending : StageEnd)
  /-- An order or a report has no effect. -/
  | execution (cause : ExecutionFault)
  /-- The store cannot be read or written. -/
  | persistence
  /-- Something cannot be written. -/
  | unprintable
deriving DecidableEq

namespace Fault

/-- The text of a fault. -/
def message (naming : Naming) : Fault → String
  | configuration => "Configuration error"
  | invalidConfiguration problems =>
    "Invalid configuration: " ++ String.intercalate "; " problems
  | invalidTransition symbol state event refusal =>
    s!"Invalid transition for {symbol}: {event.name} not allowed from " ++
      s!"{state} ({refusal.text})"
  | invariantViolation symbol violation =>
    s!"Invariant violation for {symbol}: {violation.text}"
  | riskViolation rejection => s!"Risk violation: {rejection.text}"
  | staleSnapshot version age oldest =>
    s!"Stale snapshot: version {Text.decimalText version} is " ++
      s!"{Text.decimalText age}ms old (max {Text.decimalText oldest}ms)"
  | duplicateMandate id => s!"Duplicate mandate: {naming.mandate id}"
  | unknownMandate id => s!"Unknown mandate: {naming.mandate id}"
  | invalidMandate refusal => s!"Invalid mandate: {refusal.text naming}"
  | halted reason => s!"Pipeline halted: {reason}"
  | channelClosed channel => s!"Channel closed: {channel.name}"
  | stageStopped ending => s!"Pipeline stage stopped: {ending.text}"
  | execution cause => s!"Execution error: {cause.text naming}"
  | persistence => "Persistence error"
  | unprintable => "unprintable"

/-- Whether the desk must not go on after a fault. -/
def isFatal : Fault → Bool
  | invariantViolation .. => true
  | halted .. => true
  | stageStopped .. => true
  | _ => false

end Fault

end MandateDesk
