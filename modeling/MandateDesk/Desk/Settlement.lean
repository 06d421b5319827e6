import MandateDesk.Desk.Basic

/-!
# Settlement

A report says what became of an order. It is taken only when it names the
order that works on its symbol. A fill moves the position on; a rejected or
cancelled entry makes it flat again; a rejected or cancelled reduction or
close leaves the position waiting, and its order is handed over again in the
next cycle. An order leaves the desk with its reservation once its position
waits for nothing.
-/

namespace MandateDesk.Desk

/-- Whether an order works on a symbol under the name of a dispatch. -/
def isWorking
    (desk : Desk)
    (symbol : Symbol)
    (dispatch : DispatchId) :
    Bool :=
  match desk.working.find? symbol with
  | none => false
  | some order => decide (order.dispatch = dispatch)

/--
What a report means for a position in a state. An order that is not worked
means nothing for a position that holds a quantity.
-/
def eventOf? (state : Position.State) : Venue.Outcome → Option Position.Event
  | .filled quantity price => some (.filled quantity price)
  | .rejected reason =>
    if state = .entering then some (.failed reason) else none
  | .cancelled reason =>
    if state = .entering then some (.failed reason) else none

/-- Applies an event to a symbol, and withdraws its order when it is done. -/
def conclude
    (desk : Desk)
    (symbol : Symbol)
    (event : Position.Event)
    (now : Instant) :
    Desk × Except Fault Position.Transition :=
  match desk.apply symbol event now with
  | (next, .error fault) => (next, .error fault)
  | (next, .ok transition) =>
    (if transition.target.hasPendingOrder then next else next.withdraw symbol,
      .ok transition)

/-- Applies a report on the order that works on its symbol. -/
def settleWorking
    (desk : Desk)
    (report : Venue.Report)
    (now : Instant) :
    Desk × Except Fault (Option Position.Transition) :=
  match eventOf? (desk.book.stateOf report.symbol) report.outcome with
  | none => (desk.forget report.symbol, .ok none)
  | some event =>
    match desk.conclude report.symbol event now with
    | (next, .error fault) => (next, .error fault)
    | (next, .ok transition) => (next, .ok (some transition))

/-- Takes a report. -/
def settle
    (desk : Desk)
    (report : Venue.Report)
    (now : Instant) :
    Desk × Except Fault (Option Position.Transition) :=
  let counted := { desk with tally := desk.tally.withReport }
  if desk.isWorking report.symbol report.dispatch then
    counted.settleWorking report now
  else
    (counted,
      .error (.execution (.notWorking report.dispatch report.symbol)))

end MandateDesk.Desk
