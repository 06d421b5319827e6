import MandateDesk.Decimal.Arithmetic
import MandateDesk.Fault

/-!
# Transitions

`apply` computes the position that follows from an event. It refuses an event
that the state does not accept or whose figures do not fit the position; the
position that follows has the shape of its state.

`successor` decides between a refusal and the next position, one small
function for each pair of a state and an event that belong together.
-/

namespace MandateDesk.Position

/-- A position in another state, changed now. -/
def touched (position : Position) (now : Instant) : Position :=
  { position with updatedAt := now }

/-- Starts an entry. -/
def enter
    (position : Position)
    (direction : Direction)
    (quantity : Decimal)
    (now : Instant) :
    Except Refusal Position :=
  if Decimal.zero < quantity then
    .ok { position.touched now with
      state := .entering
      direction := some direction
      quantity := Decimal.zero
      entryPrice := none
      pendingQuantity := quantity }
  else .error (.notPositive .entryQuantity quantity)

/-- Takes the fill of an entry. -/
def fillEntry
    (position : Position)
    (quantity price : Decimal)
    (now : Instant) :
    Except Refusal Position :=
  if ¬ Decimal.zero < quantity then
    .error (.notPositive .fillQuantity quantity)
  else if ¬ Decimal.zero < price then .error (.notPositive .fillPrice price)
  else if position.pendingQuantity < quantity then
    .error (.fillExceedsEntry quantity position.pendingQuantity)
  else
    .ok { position.touched now with
      state := .opened
      quantity
      entryPrice := some price
      pendingQuantity := Decimal.zero }

/-- Starts a reduction. -/
def startReduce
    (position : Position)
    (quantity : Decimal)
    (now : Instant) :
    Except Refusal Position :=
  if ¬ Decimal.zero < quantity then
    .error (.notPositive .reduceQuantity quantity)
  else if position.quantity < quantity then
    .error (.reduceExceedsHeld quantity position.quantity)
  else
    .ok { position.touched now with
      state := .reducing
      pendingQuantity := quantity }

/-- Starts to close. -/
def startClose (position : Position) (now : Instant) : Position :=
  { position.touched now with
    state := .closing
    pendingQuantity := position.quantity }

/-- Takes the fill of a reduction. -/
def fillReduce
    (position : Position)
    (quantity : Decimal)
    (now : Instant) :
    Except Refusal Position :=
  if quantity.negative then .error (.negativeFill quantity)
  else if position.quantity < quantity then
    .error (.fillExceedsHeld quantity position.quantity)
  else
    let remaining := position.quantity.saturatingSub quantity
    if remaining.isZero then .ok (flat position.symbol now)
    else
      .ok { position.touched now with
        state := .opened
        quantity := remaining
        pendingQuantity := Decimal.zero }

/-- Takes the fill of a close. -/
def fillClose
    (position : Position)
    (quantity : Decimal)
    (now : Instant) :
    Except Refusal Position :=
  if Decimal.SameValue quantity position.quantity then
    .ok (flat position.symbol now)
  else .error (.closeMismatch quantity position.quantity)

/-- The position that follows from an event, or why there is none. -/
def successor
    (position : Position)
    (event : Event)
    (now : Instant) :
    Except Refusal Position :=
  match position.state, event with
  | .flat, .entryAdmitted direction quantity =>
    position.enter direction quantity now
  | .entering, .filled quantity price => position.fillEntry quantity price now
  | .entering, .failed _ => .ok (flat position.symbol now)
  | .opened, .reduceAdmitted quantity => position.startReduce quantity now
  | .opened, .exitAdmitted => .ok (position.startClose now)
  | .reducing, .filled quantity _ => position.fillReduce quantity now
  | .closing, .filled quantity _ => position.fillClose quantity now
  | state, other => .error (.notAccepted state other.kind)

/-- Accepts a position that has the shape of its state. -/
def check (position : Position) : Except Fault Unit :=
  match position.violation? with
  | some violation =>
    .error
      (.invariantViolation position.symbol (.position violation position))
  | none => .ok ()

/-- The position that follows from an event, or the fault. -/
def apply
    (position : Position)
    (event : Event)
    (now : Instant) :
    Except Fault Position :=
  match position.successor event now with
  | .error refusal =>
    .error
      (.invalidTransition position.symbol position.state event.kind refusal)
  | .ok next =>
    match next.check with
    | .error fault => .error fault
    | .ok () => .ok next

/-- An open position, as the venue reports it. -/
def opened?
    (symbol : Symbol)
    (direction : Direction)
    (quantity entryPrice : Decimal)
    (now : Instant) :
    Except Fault Position :=
  let position : Position :=
    { symbol
      state := .opened
      direction := some direction
      quantity
      entryPrice := some entryPrice
      pendingQuantity := Decimal.zero
      updatedAt := now }
  match position.check with
  | .error fault => .error fault
  | .ok () => .ok position

theorem check_eq_ok_iff
    (position : Position) :
    position.check = .ok () ↔ position.WellFormed := by
  unfold check WellFormed
  cases position.violation? <;> simp

/-- A position that follows from an event has the shape of its state. -/
theorem wellFormed_of_apply
    {position next : Position}
    {event : Event}
    {now : Instant}
    (applied : position.apply event now = .ok next) :
    next.WellFormed := by
  unfold apply at applied
  split at applied
  · contradiction
  · rename_i candidate _
    split at applied
    · contradiction
    · rename_i checked
      cases applied
      exact (check_eq_ok_iff _).mp checked

/-- The change of a position's state by an event. -/
structure Transition where
  /-- The instrument. -/
  symbol : Symbol
  /-- The state in front of the event. -/
  source : State
  /-- The state behind it. -/
  target : State
  /-- What happened. -/
  event : EventKind
deriving DecidableEq

end MandateDesk.Position
