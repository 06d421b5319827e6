import MandateDesk.Arbitration
import MandateDesk.Desk.Admission
import MandateDesk.Risk.Gate

/-!
# The gate

The gate turns the actions of a cycle into decisions, one for each symbol with
an action or with a position that is critically close to its liquidation, in
symbol order. Which positions are critical is looked up once, before the first
decision. Every decision sees the book as the decisions before it left it.

After the last decision, orders for positions that wait for one are handed
over again, and the risk figures are taken anew.
-/

namespace MandateDesk.Desk

/-- What the gate works off in one cycle. -/
structure Agenda where
  /-- The action for each symbol that a mandate concerns. -/
  actions : OrderedMap Symbol Action
  /-- The distance of each critical position. -/
  critical : OrderedMap Symbol Decimal

namespace Agenda

/-- The symbols to decide on, in order. -/
def symbols (agenda : Agenda) : List Symbol :=
  OrderedMap.sortedKeys (agenda.actions.keys ++ agenda.critical.keys)

/-- The action for a symbol; none where no mandate concerns it. -/
def actionOf (agenda : Agenda) (symbol : Symbol) : Action :=
  (agenda.actions.find? symbol).getD (Action.noAction symbol)

/-- The distance that overrides the action for a symbol. -/
def override? (agenda : Agenda) (symbol : Symbol) : Option Decimal :=
  if (agenda.actionOf symbol).kind = .exit then none
  else agenda.critical.find? symbol

end Agenda

/-- What is to be decided in a round. -/
def agenda
    (round : Round)
    (book : Book)
    (actions : OrderedMap Symbol Action) :
    Agenda where
  actions
  critical :=
    OrderedMap.ofList (Risk.criticalPositions round.view book.positions)

/-- Judges the action for a symbol. -/
def judge
    (round : Round)
    (agenda : Agenda)
    (book : Book)
    (symbol : Symbol) :
    Risk.Verdict :=
  match agenda.override? symbol with
  | some distance => .forceExit symbol distance
  | none =>
    Risk.judge round.view book.positions (agenda.actionOf symbol)

/-- The action that a judgement leads to. -/
def ruled (action : Action) : Risk.Verdict → Action
  | .accept => action
  | .reject _ => action
  | .forceExit .. => Action.forcedExit action.symbol

/-- Carries out a judgement of an action. -/
def carryOutVerdict
    (round : Round)
    (action : Action)
    (turn : Turn) :
    Risk.Verdict → Turn × Except Fault Outcome
  | .accept => admitAction round action turn
  | .reject rejection =>
    (turn.on (turn.desk.refuse action), .ok (.rejected rejection))
  | .forceExit _ distance =>
    forceExit round (Action.forcedExit action.symbol) distance turn

/-- Decides on a symbol. -/
def decideSymbol
    (round : Round)
    (agenda : Agenda)
    (symbol : Symbol)
    (turn : Turn) :
    Turn × Except Fault Decision :=
  let action := agenda.actionOf symbol
  let verdict := judge round agenda turn.desk.book symbol
  match carryOutVerdict round action turn verdict with
  | (next, .error fault) => (next, .error fault)
  | (next, .ok outcome) =>
    let decision : Decision :=
      { cycle := round.cycle
        version := round.version
        symbol
        state := turn.desk.book.stateOf symbol
        action := ruled action verdict
        outcome
        decidedAt := round.now }
    (next.on (next.desk.record decision), .ok decision)

/-- Decides on symbols one after another, up to a fatal fault. -/
def decideAll
    (round : Round)
    (agenda : Agenda) :
    List Symbol → Turn → Turn × Except Fault (List Decision)
  | [], turn => (turn, .ok [])
  | symbol :: rest, turn =>
    match decideSymbol round agenda symbol turn with
    | (next, .error fault) => (next, .error fault)
    | (next, .ok decision) =>
      match decideAll round agenda rest next with
      | (last, .error fault) => (last, .error fault)
      | (last, .ok decisions) => (last, .ok (decision :: decisions))

/-- The kind of action and the order that a position waits for. -/
def pendingOrder? (position : Position) : Option (Action.Kind × Venue.Order) :=
  match position.state with
  | .reducing => some (.reduce, .reduce position.pendingQuantity)
  | .closing => some (.exit, .close position.quantity)
  | _ => none

/-- The action behind an order that is handed over again. -/
def resentAction (position : Position) (kind : Action.Kind) : Action where
  kind
  symbol := position.symbol
  mandate := none
  direction := position.direction
  quantity := position.pendingQuantity
  origin := .arbitrated

/-- Hands over again the order of a position that waits for one in vain. -/
def resendOne
    (position : Position)
    (turn : Turn) :
    Turn × Except Fault Unit :=
  if turn.desk.working.contains position.symbol then (turn, .ok ())
  else
    match pendingOrder? position with
    | none => (turn, .ok ())
    | some (kind, order) =>
      match turn.dispatch (resentAction position kind) order none with
      | (next, .error fault) => (next, .error fault)
      | (next, .ok _) => (next, .ok ())

/-- Hands over again the orders of positions, up to a fault. -/
def resendAll : List Position → Turn → Turn × Except Fault Unit
  | [], turn => (turn, .ok ())
  | position :: rest, turn =>
    match resendOne position turn with
    | (next, .error fault) => (next, .error fault)
    | (next, .ok ()) => resendAll rest next

/-- The risk figures of a book. -/
def takeReading (round : Round) (book : Book) : RiskReading where
  cycle := round.cycle
  metrics := Risk.metrics round.view book.positions
  suggestions := Risk.suggestions round.view book.positions

/-- Works off the actions of a cycle. -/
def gate
    (round : Round)
    (actions : OrderedMap Symbol Action)
    (turn : Turn) :
    Turn × Except Fault (List Decision) :=
  let agenda := agenda round turn.desk.book actions
  match decideAll round agenda agenda.symbols turn with
  | (decided, .error fault) => (decided, .error fault)
  | (decided, .ok decisions) =>
    match resendAll decided.desk.book.positions.values decided with
    | (resent, .error fault) => (resent, .error fault)
    | (resent, .ok ()) =>
      let reading := takeReading round resent.desk.book
      (resent.on { resent.desk with reading := some reading }, .ok decisions)

end MandateDesk.Desk
