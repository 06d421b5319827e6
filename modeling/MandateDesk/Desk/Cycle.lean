import MandateDesk.Desk.Gate
import MandateDesk.Desk.Parameters
import MandateDesk.Observation

/-!
# Cycles

A cycle trips the latch when a reservation was held for too long, lets old
mandates expire, arbitrates the active ones with the authority of their age,
and sends the actions through the gate. On market data that is too old it does
nothing but that.

A cycle breaks down when the time before which mandates expire is not in the
calendar.
-/

namespace MandateDesk.Desk

/-- How a cycle ends. -/
inductive CycleEnd where
  /-- It did its work. -/
  | done (summary : CycleSummary)
  /-- A fatal fault stopped it. -/
  | stopped (fault : Fault)
  /-- It broke down. -/
  | brokeDown
deriving DecidableEq

/-- Trips the latch if a reservation was held for too long. -/
def tripOverdue (desk : Desk) (timeout : Nat) (now : Instant) : Desk :=
  match desk.reservations.stale (Text.asSigned64 timeout) now with
  | [] => desk
  | receipt :: _ =>
    desk.trip (.staleReservation receipt.symbol.name receipt.ticket) now

/--
The active mandates once those that outlived their time have expired, and the
number of these.
-/
def expire
    (registry : Registry)
    (lifetime : Nat)
    (now : Instant) :
    Option (Registry × Nat) :=
  if lifetime = 0 then some (registry.purge, 0)
  else
    (now.before? (Text.asSigned64 lifetime)).map fun cutoff =>
      let (expired, ids) := registry.expireBefore cutoff
      (expired.purge, ids.length)

/-- The action for each symbol that an active mandate concerns. -/
def arbitrate
    (desk : Desk)
    (aging : Aging)
    (now : Instant) :
    OrderedMap Symbol Action :=
  Arbitration.resolveAll desk.book.positions
    (aging.apply now desk.registry.activeMandates)

/-- Counts a cycle that did its work. -/
def finish (summary : CycleSummary) (turn : Turn) : Turn × CycleEnd :=
  (turn.on { turn.desk with tally := turn.desk.tally.withCycle summary },
    .done summary)

/-- Decides on market data. -/
def decideOn
    (parameters : Parameters)
    (limits : Risk.Limits)
    (snapshot : Snapshot)
    (now : Instant)
    (turn : Turn) :
    Turn × CycleEnd :=
  match expire turn.desk.registry parameters.mandateLifetime now with
  | none => (turn, .brokeDown)
  | some (registry, expired) =>
    let collected := { turn.desk with registry }
    let round : Round :=
      { cycle := turn.desk.tally.cycles + 1
        version := snapshot.version
        view := ⟨limits, snapshot.account, snapshot.prices⟩
        holder := parameters.holder
        now }
    let actions := collected.arbitrate parameters.aging now
    match gate round actions (turn.on collected) with
    | (next, .error fault) => (next, .stopped fault)
    | (next, .ok decisions) =>
      finish ⟨round.cycle, some round.version, false, expired, decisions⟩ next

/-- Runs a cycle, in which only so many orders can be handed over. -/
def runCycle
    (desk : Desk)
    (parameters : Parameters)
    (limits : Risk.Limits)
    (feed : Feed)
    (room : Option Nat)
    (now : Instant) :
    Turn × CycleEnd :=
  let turn : Turn :=
    ⟨desk.tripOverdue parameters.reservationTimeout now, [], room⟩
  match feed.fresh parameters.oldestSnapshot now with
  | .ok snapshot => decideOn parameters limits snapshot now turn
  | .error _ =>
    finish ⟨desk.tally.cycles + 1, some feed.version, true, 0, []⟩ turn

end MandateDesk.Desk
