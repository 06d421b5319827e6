import MandateDesk.Decimal.Printer
import MandateDesk.Direction
import MandateDesk.Instant.Basic
import MandateDesk.OrderedMap
import MandateDesk.Position.State
import MandateDesk.Text.Quoted

/-!
# Positions

There is one position for each symbol. It holds a filled quantity with its
direction and entry price, and the quantity of the order that works for it.

`check` is the shape that a position must have in each state: `WellFormed`
says that it finds nothing. A position that is flat holds nothing and carries
no order, and only such a position is flat.
-/

namespace MandateDesk

/-- What is held of one symbol. -/
structure Position where
  /-- The instrument. -/
  symbol : Symbol
  /-- Where the position is in its life. -/
  state : Position.State
  /-- The direction of what is held or being entered. -/
  direction : Option Direction
  /-- The filled quantity. -/
  quantity : Decimal
  /-- The price at which the position was entered. -/
  entryPrice : Option Decimal
  /-- The quantity of the working order. -/
  pendingQuantity : Decimal
  /-- When the position last changed. -/
  updatedAt : Instant
deriving DecidableEq

/-- Positions by symbol. -/
abbrev Positions := OrderedMap Symbol Position

namespace Position

/-- A position that holds nothing. -/
def flat (symbol : Symbol) (now : Instant) : Position :=
  { symbol
    state := .flat
    direction := none
    quantity := Decimal.zero
    entryPrice := none
    pendingQuantity := Decimal.zero
    updatedAt := now }

/-- Whether a position holds nothing. -/
def isFlat (position : Position) : Bool :=
  position.state == .flat

/-- The held quantity, negative when it is short. -/
def signedQuantity (position : Position) : Decimal :=
  match position.direction with
  | some .short => position.quantity.opposite
  | _ => position.quantity

/-- Something that happens to a position. -/
inductive Event where
  /-- An entry passed all gates. -/
  | entryAdmitted (direction : Direction) (quantity : Decimal)
  /-- A reduction passed all gates. -/
  | reduceAdmitted (quantity : Decimal)
  /-- An exit passed all gates. -/
  | exitAdmitted
  /-- The venue filled the working order. -/
  | filled (quantity price : Decimal)
  /-- The venue cancelled or rejected the working order. -/
  | failed (reason : String)
deriving DecidableEq

/-- An event without its details. -/
def Event.kind : Event → EventKind
  | .entryAdmitted .. => .entryAdmitted
  | .reduceAdmitted .. => .reduceAdmitted
  | .exitAdmitted => .exitAdmitted
  | .filled .. => .filled
  | .failed .. => .failed

/-- The name of an event. -/
def Event.name (event : Event) : String :=
  event.kind.name

/-- The figures that an event must bring as positive numbers. -/
inductive Figure where
  /-- The quantity of an entry. -/
  | entryQuantity
  /-- The quantity of a reduction. -/
  | reduceQuantity
  /-- The quantity of a fill. -/
  | fillQuantity
  /-- The price of a fill. -/
  | fillPrice
deriving DecidableEq

/-- The name of a figure. -/
def Figure.name : Figure → String
  | .entryQuantity => "entry quantity"
  | .reduceQuantity => "reduce quantity"
  | .fillQuantity => "fill quantity"
  | .fillPrice => "fill price"

/-- Why a position does not take an event. -/
inductive Refusal where
  /-- A figure is zero or negative. -/
  | notPositive (figure : Figure) (value : Decimal)
  /-- More was filled than the entry asked for. -/
  | fillExceedsEntry (fill requested : Decimal)
  /-- More is to be reduced than is held. -/
  | reduceExceedsHeld (quantity held : Decimal)
  /-- A negative quantity was filled. -/
  | negativeFill (fill : Decimal)
  /-- More was filled than is held. -/
  | fillExceedsHeld (fill held : Decimal)
  /-- A close was filled with another quantity than the one held. -/
  | closeMismatch (fill held : Decimal)
  /-- The state does not accept such an event. -/
  | notAccepted (state : State) (event : EventKind)
deriving DecidableEq

/-- The text of a refusal. -/
def Refusal.text : Refusal → String
  | .notPositive figure value =>
    s!"{figure.name} must be positive, got {value}"
  | .fillExceedsEntry fill requested =>
    s!"fill {fill} exceeds requested entry {requested}"
  | .reduceExceedsHeld quantity held =>
    s!"reduce {quantity} exceeds held {held}"
  | .negativeFill fill => s!"negative fill {fill}"
  | .fillExceedsHeld fill held => s!"fill {fill} exceeds held {held}"
  | .closeMismatch fill held =>
    s!"close fill {fill} does not match held {held}"
  | .notAccepted state event =>
    let accepted :=
      String.intercalate ", " (state.acceptedEvents.map EventKind.name)
    s!"{state} does not accept {event.name} (accepts: {accepted})"

/-- How the shape of a position can be broken. -/
inductive Violation where
  /-- A quantity carries a minus sign. -/
  | negativeQuantity
  /-- Being flat and holding nothing do not coincide. -/
  | flatShape
  /-- A flat position carries an order or an entry price. -/
  | flatWithOrder
  /-- An entering position holds something or has no order. -/
  | enteringShape
  /-- An open position lacks quantity, direction or entry price. -/
  | openShape
  /-- An open position has a working order. -/
  | openWithOrder
  /-- A reducing or closing position lacks quantity or direction. -/
  | exposureShape
  /-- The order of a reducing or closing position is not within what is held. -/
  | pendingOutsideHeld
deriving DecidableEq

/-- The text of a violation. -/
def Violation.text : Violation → String
  | .negativeQuantity => "negative quantity"
  | .flatShape => "FLAT must coincide with zero quantity and no direction"
  | .flatWithOrder => "FLAT position carries order state"
  | .enteringShape => "ENTERING requires zero filled and positive pending"
  | .openShape => "OPEN requires quantity, direction and entry price"
  | .openWithOrder => "OPEN position has an order in flight"
  | .exposureShape => "exposure state without quantity or direction"
  | .pendingOutsideHeld => "pending order outside held quantity"

/-- What is wrong with a position of its state, apart from the general shape. -/
def stateViolation (position : Position) : Option Violation :=
  match position.state with
  | .flat =>
    if !position.pendingQuantity.isZero || position.entryPrice.isSome then
      some .flatWithOrder
    else none
  | .entering =>
    if !position.quantity.isZero || position.pendingQuantity.isZero then
      some .enteringShape
    else none
  | .opened =>
    if position.quantity.isZero || position.direction.isNone ||
        position.entryPrice.isNone then
      some .openShape
    else if !position.pendingQuantity.isZero then some .openWithOrder
    else none
  | .reducing | .closing =>
    if position.quantity.isZero || position.direction.isNone then
      some .exposureShape
    else if position.pendingQuantity.isZero ||
        decide (position.quantity < position.pendingQuantity) then
      some .pendingOutsideHeld
    else none

/-- Whether nothing is held in any direction. -/
def holdsNothing (position : Position) : Bool :=
  position.quantity.isZero && position.direction.isNone

/-- What is wrong with the shape of a position, if anything. -/
def violation? (position : Position) : Option Violation :=
  if position.quantity.negative || position.pendingQuantity.negative then
    some .negativeQuantity
  else if position.isFlat != position.holdsNothing then some .flatShape
  else position.stateViolation

/-- A position whose shape is that of its state. -/
def WellFormed (position : Position) : Prop :=
  position.violation? = none

instance (position : Position) : Decidable position.WellFormed :=
  inferInstanceAs (Decidable (_ = _))

/-- The name of a direction inside the full description of a position. -/
def directionName : Direction → String
  | .long => "Long"
  | .short => "Short"

/-- An optional value inside the full description of a position. -/
def described {α : Type} (written : α → String) : Option α → String
  | none => "None"
  | some value => s!"Some({written value})"

/-- The full description of a position, with the time of its change blanked. -/
def description (position : Position) : String :=
  "Position \x7b symbol: Symbol(" ++ Text.quoted position.symbol.name ++
    "), state: " ++ position.state.name ++
    ", direction: " ++ described directionName position.direction ++
    ", quantity: " ++ position.quantity.text ++
    ", entry_price: " ++ described Decimal.text position.entryPrice ++
    ", pending_quantity: " ++ position.pendingQuantity.text ++
    ", updated_at: _ \x7d"

theorem flat_wellFormed
    (symbol : Symbol)
    (now : Instant) :
    (flat symbol now).WellFormed := by
  simp [WellFormed, violation?, flat, isFlat, holdsNothing, stateViolation,
    Decimal.zero, Decimal.isZero]

end Position

end MandateDesk
