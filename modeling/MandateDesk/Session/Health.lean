import MandateDesk.Session.Basic

/-!
# Watching a session

How well a session does, and which decisions were made since someone looked.
A halted session is unhealthy. One on old market data, or with a position that
is too close to its liquidation, is degraded.

Only so many decisions are kept for a reader who stays away: the earlier ones
are lost, and the reader is told how many.
-/

namespace MandateDesk.Session

open Desk (Decision)

/-- How well a session does. -/
inductive Status where
  /-- All is well. -/
  | healthy
  /-- Something needs attention. -/
  | degraded
  /-- The latch is tripped. -/
  | unhealthy
deriving DecidableEq

/-- The name of a status. -/
def Status.name : Status → String
  | .healthy => "healthy"
  | .degraded => "degraded"
  | .unhealthy => "unhealthy"

/-- What is said about the health of a session. -/
structure Health where
  /-- How well it does. -/
  status : Status
  /-- Why the latch is tripped. -/
  haltReason : Option String
  /-- The version of the market data. -/
  version : Nat
  /-- The symbols whose distance was not safe in the latest cycle. -/
  belowSafe : List Symbol
deriving DecidableEq

/-- The symbols whose distance was not safe in the latest cycle. -/
def belowSafe (session : Session) : List Symbol :=
  match session.desk.reading with
  | none => []
  | some reading => reading.metrics.belowSafe

/-- How well a session does, on market data of an age up to a limit. -/
def status (session : Session) (oldest : Nat) (now : Instant) : Status :=
  if session.desk.halt.isHalted then .unhealthy
  else if oldest < session.feed.latest.age now ∨ session.belowSafe ≠ [] then
    .degraded
  else .healthy

/-- Examines a session, which reads the market data once. -/
def examine
    (session : Session)
    (oldest : Nat)
    (now : Instant) :
    Session × Health :=
  ({ session with feed := session.feed.read },
    { status := session.status oldest now
      haltReason := session.desk.halt.reason?.map Halt.Reason.text
      version := session.feed.version
      belowSafe := session.belowSafe })

/-- The number of decisions that are kept: a power of two. -/
def keptDecisions (capacity : Nat) : Nat :=
  (max capacity 1).nextPowerOfTwo

/-- The decisions since the last look, and how many of them were lost. -/
structure Catchup where
  /-- The number of decisions that were lost. -/
  lost : Nat
  /-- The others, in order. -/
  decisions : List Decision
deriving DecidableEq

/-- Splits decisions into those that are lost and those that are kept. -/
def catchup (capacity : Nat) (decisions : List Decision) : Catchup :=
  let lost := decisions.length - keptDecisions capacity
  ⟨lost, decisions.drop lost⟩

/-- Reads the decisions since the last look. -/
def catchUp (session : Session) : Session × Catchup :=
  ({ session with desk := { session.desk with unread := [] } },
    catchup session.parameters.auditCapacity session.desk.unread)

end MandateDesk.Session
