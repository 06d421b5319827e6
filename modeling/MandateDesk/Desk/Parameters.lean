import MandateDesk.Aging
import MandateDesk.Text.Blank
import MandateDesk.Text.Digits

/-!
# Parameters of the desk

How often the desk decides, how much it holds, and how long things may last.
`problems` lists what makes parameters unusable. Times are in milliseconds.
-/

namespace MandateDesk.Desk

/-- How a desk works. -/
structure Parameters where
  /-- The time between two cycles; cycles only run on request when zero. -/
  cycleInterval : Nat
  /-- The number of orders that may wait for the venue. -/
  channelCapacity : Nat
  /-- The number of decisions that are kept for those who follow them. -/
  auditCapacity : Nat
  /-- The largest age of market data that is decided on. -/
  oldestSnapshot : Nat
  /-- The longest time that a reservation may be held. -/
  reservationTimeout : Nat
  /-- The time after which a mandate expires; never when zero. -/
  mandateLifetime : Nat
  /-- The name under which the desk reserves. -/
  holder : String
  /-- How the authority of waiting mandates grows. -/
  aging : Aging
deriving DecidableEq

namespace Parameters

/-- The parameters that hold unless others are chosen. -/
def standard : Parameters where
  cycleInterval := 250
  channelCapacity := 64
  auditCapacity := 1024
  oldestSnapshot := 2000
  reservationTimeout := 30000
  mandateLifetime := 60000
  holder := "arbiter"
  aging := Aging.standard

instance : Inhabited Parameters :=
  ⟨standard⟩

/-- What can make parameters unusable. -/
inductive Problem where
  /-- No order may wait for the venue. -/
  | channelCapacity
  /-- No decision is kept. -/
  | auditCapacity
  /-- All market data is too old. -/
  | oldestSnapshot
  /-- No reservation may be held. -/
  | reservationTimeout
  /-- The desk reserves under no name. -/
  | holder
  /-- One bump exceeds the ceiling. -/
  | aging
deriving DecidableEq

/-- All kinds of problems, in the order in which they are reported. -/
def Problem.all : List Problem :=
  [.channelCapacity, .auditCapacity, .oldestSnapshot, .reservationTimeout,
    .holder, .aging]

/-- The text of a problem. -/
def Problem.text : Problem → String
  | .channelCapacity => "pipeline.channel_capacity must be > 0"
  | .auditCapacity => "pipeline.audit_capacity must be > 0"
  | .oldestSnapshot => "pipeline.max_snapshot_age_ms must be > 0"
  | .reservationTimeout => "pipeline.reservation_timeout_ms must be > 0"
  | .holder => "pipeline.holder_id cannot be empty"
  | .aging => "pipeline.aging.bump_per_step cannot exceed max_bump"

/-- Whether parameters have a problem. -/
def has (parameters : Parameters) : Problem → Bool
  | .channelCapacity => parameters.channelCapacity == 0
  | .auditCapacity => parameters.auditCapacity == 0
  | .oldestSnapshot => parameters.oldestSnapshot == 0
  | .reservationTimeout => parameters.reservationTimeout == 0
  | .holder => Text.isBlankText parameters.holder
  | .aging =>
    decide (0 < parameters.aging.interval) &&
      decide (parameters.aging.ceiling < parameters.aging.bump)

/-- The problems of parameters, in the order in which they are reported. -/
def problems (parameters : Parameters) : List Problem :=
  Problem.all.filter parameters.has

theorem Problem.mem_all (problem : Problem) : problem ∈ Problem.all := by
  cases problem <;> decide

/-- Parameters are usable when they have none of the problems. -/
theorem problems_eq_nil_iff
    (parameters : Parameters) :
    parameters.problems = [] ↔
      ∀ problem, parameters.has problem = false := by
  simp [problems, Problem.mem_all]

theorem problems_standard : standard.problems = [] := by decide

end Parameters

end MandateDesk.Desk
