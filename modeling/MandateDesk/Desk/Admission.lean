import MandateDesk.Desk.Turn

/-!
# Admission

An action that the risk gate lets pass is carried out here: the mandate behind
it is spent, the position takes the event, and the order is handed over. An
entry needs a reservation first, which it gives back when it fails. An exit
while an entry works asks for the entry to be cancelled and leaves its mandate
active, so that it closes the position should the entry be filled first.

A fault that is not fatal becomes the outcome of the decision. A fatal one
ends the cycle.
-/

namespace MandateDesk.Desk

open Reservation (Receipt Token)

/-- The outcome of an action that a fault stopped, unless the fault is fatal. -/
def Outcome.ofFault (fault : Fault) : Except Fault Outcome :=
  if fault.isFatal then .error fault
  else .ok (.failed (fault.message .plain))

/-- The outcome of an action whose order was to be handed over. -/
def Outcome.ofDispatch
    (outcome : DispatchId → Outcome) :
    Except Fault DispatchId → Except Fault Outcome
  | .ok id => .ok (outcome id)
  | .error fault => ofFault fault

/-- The outcome of an action that asks for an entry to be cancelled. -/
def Outcome.ofCancel
    (outcome : DispatchId → Outcome) :
    Except Fault (Option DispatchId) → Except Fault Outcome
  | .ok (some id) => .ok (outcome id)
  | .ok none => .ok (.deferred "entry cancel already requested")
  | .error fault => .error fault

/-- Carries out an action by an event of its symbol and an order. -/
def carryOut
    (round : Round)
    (action : Action)
    (event : Position.Event)
    (order : Desk → Venue.Order)
    (turn : Turn) :
    Turn × Except Fault DispatchId :=
  match turn.desk.spend action event round.now with
  | (desk, .error fault) => (turn.on desk, .error fault)
  | (desk, .ok ()) => (turn.on desk).dispatch action (order desk) none

/-- Closes all of an open position. -/
def close
    (round : Round)
    (action : Action)
    (turn : Turn) :
    Turn × Except Fault DispatchId :=
  carryOut round action .exitAdmitted
    (fun desk => .close (desk.heldQuantity action.symbol)) turn

/-- Enters under a reservation. -/
def enterWith
    (round : Round)
    (action : Action)
    (direction : Direction)
    (token : Token)
    (turn : Turn) :
    Turn × Except Fault Outcome :=
  let event : Position.Event := .entryAdmitted direction action.quantity
  match turn.desk.spend action event round.now with
  | (desk, .error fault) =>
    (turn.on (desk.release token), Outcome.ofFault fault)
  | (desk, .ok ()) =>
    let (next, result) :=
      (turn.on desk).dispatch action (.enter direction action.quantity)
        (some token)
    (next, Outcome.ofDispatch .dispatched result)

/-- Admits an entry. -/
def admitEntry
    (round : Round)
    (action : Action)
    (turn : Turn) :
    Turn × Except Fault Outcome :=
  if turn.desk.halt.isHalted then (turn, .ok .halted)
  else
    match action.direction with
    | none => (turn, .ok (.failed "entry without direction"))
    | some direction =>
      match turn.desk.reserve action.symbol round.holder round.now with
      | (desk, .error conflict) =>
        (turn.on desk, .ok (.conflict (conflict.holder.map Receipt.holder)))
      | (desk, .ok token) =>
        enterWith round action direction token (turn.on desk)

/-- The quantity of a position, if it is open. -/
def openQuantity? (position : Position) : Option Decimal :=
  match position.state with
  | .opened => some position.quantity
  | _ => none

/-- Admits a reduction. No more than what is held is asked for. -/
def admitReduce
    (round : Round)
    (action : Action)
    (turn : Turn) :
    Turn × Except Fault Outcome :=
  match (turn.desk.book.get? action.symbol).bind openQuantity? with
  | none => (turn, .ok (.deferred "position not open"))
  | some held =>
    let quantity := min action.quantity held
    let (next, result) :=
      carryOut round action (.reduceAdmitted quantity)
        (fun _ => .reduce quantity) turn
    (next, Outcome.ofDispatch .dispatched result)

/-- Admits an exit. -/
def admitExit
    (round : Round)
    (action : Action)
    (turn : Turn) :
    Turn × Except Fault Outcome :=
  match turn.desk.book.stateOf action.symbol with
  | .entering =>
    let (next, result) := turn.requestCancel action
    (next, Outcome.ofCancel .dispatched result)
  | .opened =>
    let (next, result) := close round action turn
    (next, Outcome.ofDispatch .dispatched result)
  | state => (turn, .ok (.deferred s!"exit not applicable in {state}"))

/-- Carries out an exit that the risk gate imposes at a distance. -/
def forceExit
    (round : Round)
    (action : Action)
    (distance : Decimal)
    (turn : Turn) :
    Turn × Except Fault Outcome :=
  let imposed (id : DispatchId) : Outcome := .forcedExit distance (some id)
  match turn.desk.book.stateOf action.symbol with
  | .opened =>
    let (next, result) := close round action turn
    (next, Outcome.ofDispatch imposed result)
  | .entering =>
    let (next, result) := turn.requestCancel action
    (next, Outcome.ofCancel imposed result)
  | .flat => (turn, .ok (.forcedExit distance none))
  | state => (turn, .ok (.deferred s!"{state} order already working"))

/-- Carries out an action that the risk gate lets pass. -/
def admitAction
    (round : Round)
    (action : Action)
    (turn : Turn) :
    Turn × Except Fault Outcome :=
  match action.kind with
  | .entry => admitEntry round action turn
  | .reduce => admitReduce round action turn
  | .exit => admitExit round action turn
  | .hold => (turn, .ok .noAction)
  | .noAction => (turn, .ok .noAction)

end MandateDesk.Desk
