import MandateDesk.Position.State
import MandateDesk.Risk.Rejection
import MandateDesk.Venue.Order

/-!
# Decisions

What a cycle decided about each symbol and what came of it. A decision names
the dispatch that carries it out, where one does. A tally counts cycles and
outcomes over the life of the desk.
-/

namespace MandateDesk.Desk

/-- What came of a decision. -/
inductive Outcome where
  /-- An order was handed to the venue. -/
  | dispatched (dispatch : DispatchId)
  /-- The risk gate refused the action. -/
  | rejected (rejection : Risk.Rejection)
  /-- The risk gate imposed an exit. -/
  | forcedExit (distance : Decimal) (dispatch : Option DispatchId)
  /-- An order works on the symbol already. -/
  | deferred (reason : String)
  /-- Another order holds the reservation. -/
  | conflict (holder : Option String)
  /-- An entry was held back by the latch. -/
  | halted
  /-- The action could not be applied. -/
  | failed (reason : String)
  /-- There was nothing to do. -/
  | noAction
deriving DecidableEq

namespace Outcome

/-- The name of an outcome. -/
def name : Outcome → String
  | dispatched .. => "dispatched"
  | rejected .. => "rejected"
  | forcedExit .. => "forced_exit"
  | deferred .. => "deferred"
  | conflict .. => "conflict"
  | halted => "halted"
  | failed .. => "failed"
  | noAction => "no_action"

/-- The dispatch that carries a decision out. -/
def dispatch? : Outcome → Option DispatchId
  | dispatched dispatch => some dispatch
  | forcedExit _ dispatch => dispatch
  | _ => none

end Outcome

/-- What a cycle decided about one symbol. -/
structure Decision where
  /-- The cycle. -/
  cycle : Nat
  /-- The version of the market data. -/
  version : Nat
  /-- The instrument. -/
  symbol : Symbol
  /-- The state of the position at the time of the decision. -/
  state : Position.State
  /-- The action. -/
  action : Action
  /-- What came of it. -/
  outcome : Outcome
  /-- The time of the decision. -/
  decidedAt : Instant
deriving DecidableEq

/-- What a cycle did. -/
structure CycleSummary where
  /-- The cycle. -/
  cycle : Nat
  /-- The version of the market data, where it was looked at. -/
  version : Option Nat
  /-- Whether the market data was too old. -/
  stale : Bool
  /-- Number of mandates that expired. -/
  expired : Nat
  /-- The decisions, in symbol order. -/
  decisions : List Decision
deriving DecidableEq

namespace CycleSummary

/-- A cycle that did nothing. -/
def skipped (cycle : Nat) : CycleSummary :=
  ⟨cycle, none, false, 0, []⟩

/-- The first decision about a symbol. -/
def decision? (summary : CycleSummary) (symbol : Symbol) : Option Decision :=
  summary.decisions.find? fun decision => decision.symbol == symbol

/-- Number of decisions that name a dispatch. -/
def dispatchedCount (summary : CycleSummary) : Nat :=
  (summary.decisions.filter fun decision =>
    decision.outcome.dispatch?.isSome).length

/-- Number of decisions whose outcome has a name. -/
def count (summary : CycleSummary) (name : String) : Nat :=
  (summary.decisions.filter fun decision =>
    decision.outcome.name == name).length

end CycleSummary

/-- Counts of what happened. -/
structure Tally where
  /-- Cycles. -/
  cycles : Nat
  /-- Cycles whose market data was too old. -/
  staleCycles : Nat
  /-- Dispatched actions. -/
  dispatched : Nat
  /-- Rejected actions. -/
  rejections : Nat
  /-- Imposed exits. -/
  forcedExits : Nat
  /-- Entries without a reservation. -/
  conflicts : Nat
  /-- Actions that could not be applied. -/
  failures : Nat
  /-- Reports. -/
  reports : Nat
  /-- Failed saves. -/
  persistFailures : Nat
deriving DecidableEq

namespace Tally

/-- Nothing happened yet. -/
def zero : Tally :=
  ⟨0, 0, 0, 0, 0, 0, 0, 0, 0⟩

instance : Inhabited Tally :=
  ⟨zero⟩

/-- Counts an outcome. -/
def withOutcome (tally : Tally) : Outcome → Tally
  | .dispatched .. => { tally with dispatched := tally.dispatched + 1 }
  | .rejected .. => { tally with rejections := tally.rejections + 1 }
  | .forcedExit .. => { tally with forcedExits := tally.forcedExits + 1 }
  | .conflict .. => { tally with conflicts := tally.conflicts + 1 }
  | .failed .. => { tally with failures := tally.failures + 1 }
  | .deferred .. => tally
  | .halted => tally
  | .noAction => tally

/-- Counts a cycle with its decisions. -/
def withCycle (tally : Tally) (summary : CycleSummary) : Tally :=
  let counted :=
    { tally with
      cycles := tally.cycles + 1
      staleCycles := tally.staleCycles + (if summary.stale then 1 else 0) }
  summary.decisions.foldl
    (fun known decision => known.withOutcome decision.outcome) counted

/-- Counts a report. -/
def withReport (tally : Tally) : Tally :=
  { tally with reports := tally.reports + 1 }

/-- Counts a failed save. -/
def withPersistFailure (tally : Tally) : Tally :=
  { tally with persistFailures := tally.persistFailures + 1 }

end Tally

end MandateDesk.Desk
