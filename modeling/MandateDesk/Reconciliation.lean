import MandateDesk.Book
import MandateDesk.Store.Basic
import MandateDesk.Venue.Paper

/-!
# Reconciliation

When the desk starts, each saved position is compared with what the venue
holds, and the venue wins every disagreement. Orders that worked before are
taken for dead: a position settles to what the venue holds now. Corrected
positions are saved before the book is restored, also when a later symbol
fails.
-/

namespace MandateDesk

namespace Reconciliation

/-- What came of a reconciliation. -/
structure Summary where
  /-- Number of positions in the book. -/
  restored : Nat
  /-- The symbols whose saved position was wrong, in symbol order. -/
  corrected : List Symbol
deriving DecidableEq

/-- Whether a saved position is what the venue holds. -/
def agrees (position : Position) (held : Venue.Holding) : Prop :=
  position.state = .opened ∧ position.direction = some held.direction ∧
    Decimal.SameValue position.quantity held.quantity

instance (position : Position) (held : Venue.Holding) :
    Decidable (agrees position held) :=
  inferInstanceAs (Decidable (_ ∧ _ ∧ _))

/-- The position of a symbol that the venue holds. -/
def resolveHeld
    (saved : Option Position)
    (held : Venue.Holding)
    (now : Instant) :
    Except Fault Position :=
  match saved with
  | some position =>
    if agrees position held then .ok position
    else
      Position.opened? held.symbol held.direction held.quantity
        held.entryPrice now
  | none =>
    Position.opened? held.symbol held.direction held.quantity held.entryPrice
      now

/-- The position of a symbol that the venue does not hold. -/
def resolveUnheld
    (saved : Option Position)
    (symbol : Symbol)
    (now : Instant) :
    Position :=
  match saved with
  | some position =>
    if position.isFlat then position else Position.flat symbol now
  | none => Position.flat symbol now

/-- The position that a symbol has after reconciliation. -/
def resolve
    (saved : Option Position)
    (held : Option Venue.Holding)
    (symbol : Symbol)
    (now : Instant) :
    Except Fault Position :=
  match held with
  | some holding => resolveHeld saved holding now
  | none => .ok (resolveUnheld saved symbol now)

/-- Whether a saved position differs from the one that it resolves to. -/
def isCorrection (saved : Option Position) (resolved : Position) : Bool :=
  match saved with
  | none => !resolved.isFlat
  | some position =>
    decide (position.state ≠ resolved.state) ||
      decide (¬ Decimal.SameValue position.quantity resolved.quantity) ||
      decide (position.direction ≠ resolved.direction)

/-- What reconciliation compares. -/
structure Sides where
  /-- The saved positions by symbol. -/
  saved : Positions
  /-- What the venue holds of each symbol, without empty holdings. -/
  held : OrderedMap Symbol Venue.Holding

/-- The saved positions and the holdings of a venue. -/
def sides (store : Store) (venue : PaperVenue) : Sides where
  saved := OrderedMap.indexed Position.symbol store.memory.loadAll
  held :=
    OrderedMap.indexed Venue.Holding.symbol
      (venue.openPositions.filter fun held => !held.quantity.isZero)

/-- The symbols on either side, in order. -/
def Sides.symbols (sides : Sides) : List Symbol :=
  OrderedMap.sortedKeys (sides.saved.keys ++ sides.held.keys)

/-- How far a reconciliation has come. -/
structure Progress where
  /-- The store with the corrections so far. -/
  store : Store
  /-- The resolved positions so far, in symbol order. -/
  resolved : List Position
  /-- The corrected symbols so far, in symbol order. -/
  corrected : List Symbol

/-- Saves a correction, if it is one. -/
def record
    (progress : Progress)
    (saved : Option Position)
    (resolved : Position) :
    Except Fault Progress :=
  let known := { progress with resolved := progress.resolved ++ [resolved] }
  if isCorrection saved resolved then
    match progress.store.save resolved with
    | .error fault => .error fault
    | .ok store =>
      .ok { known with
        store
        corrected := progress.corrected ++ [resolved.symbol] }
  else .ok known

/-- Reconciles one symbol. -/
def settleSymbol
    (sides : Sides)
    (now : Instant)
    (progress : Progress)
    (symbol : Symbol) :
    Except Fault Progress :=
  let saved := sides.saved.find? symbol
  match resolve saved (sides.held.find? symbol) symbol now with
  | .error fault => .error fault
  | .ok resolved => record progress saved resolved

/-- Reconciles symbols up to the first fault, keeping what was saved. -/
def settleAll
    (sides : Sides)
    (now : Instant) :
    Progress → List Symbol → Progress × Except Fault Unit
  | progress, [] => (progress, .ok ())
  | progress, symbol :: rest =>
    match settleSymbol sides now progress symbol with
    | .error fault => (progress, .error fault)
    | .ok next => settleAll sides now next rest

/-- Reconciles a store and a book with a venue. -/
def run
    (store : Store)
    (venue : PaperVenue)
    (book : Book)
    (now : Instant) :
    Store × Book × Except Fault Summary :=
  let sides := sides store venue
  let (progress, settled) := settleAll sides now ⟨store, [], []⟩ sides.symbols
  match settled with
  | .error fault => (progress.store, book, .error fault)
  | .ok () =>
    match book.restore progress.resolved with
    | .error fault => (progress.store, book, .error fault)
    | .ok restored =>
      (progress.store, restored,
        .ok ⟨restored.size, progress.corrected⟩)

end Reconciliation

end MandateDesk
