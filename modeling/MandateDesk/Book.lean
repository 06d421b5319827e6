import MandateDesk.Position.Transition

/-!
# The position book

The book holds the one position of each symbol that has been referred to. A
symbol that is new to it starts flat. An event replaces a position by the one
that follows from it, or leaves it as it is.
-/

namespace MandateDesk

/-- The positions of all symbols. -/
structure Book where
  /-- The positions by symbol. -/
  positions : Positions
  /-- Number of events that changed a position. -/
  transitions : Nat

namespace Book

/-- No positions. -/
def empty : Book :=
  ⟨OrderedMap.empty, 0⟩

instance : Inhabited Book :=
  ⟨empty⟩

/-- The position of a symbol. -/
def get? (book : Book) (symbol : Symbol) : Option Position :=
  book.positions.find? symbol

/-- The state of a symbol's position; flat where there is none. -/
def stateOf (book : Book) (symbol : Symbol) : Position.State :=
  match book.get? symbol with
  | some position => position.state
  | none => .flat

/-- The position of a symbol, or a flat one. -/
def positionOf (book : Book) (symbol : Symbol) (now : Instant) : Position :=
  (book.get? symbol).getD (Position.flat symbol now)

/-- A book in which a symbol has a position. -/
def holding (book : Book) (symbol : Symbol) (position : Position) : Book :=
  { book with positions := book.positions.insert symbol position }

/--
Applies an event to a symbol's position. When it is refused the position stays
as it is; a symbol that is new has a flat one from then on.
-/
def apply
    (book : Book)
    (symbol : Symbol)
    (event : Position.Event)
    (now : Instant) :
    Book × Except Fault Position.Transition :=
  let current := book.positionOf symbol now
  match current.apply event now with
  | .error fault => (book.holding symbol current, .error fault)
  | .ok next =>
    ({ positions := book.positions.insert symbol next
       transitions := book.transitions + 1 },
      .ok ⟨symbol, current.state, next.state, event.kind⟩)

/-- Collects positions that have the shape of their state, one a symbol. -/
def collect : Positions → List Position → Except Fault Positions
  | known, [] => .ok known
  | known, position :: rest =>
    match position.check with
    | .error fault => .error fault
    | .ok () =>
      if known.contains position.symbol then
        .error (.invariantViolation position.symbol .repeatedSymbol)
      else collect (known.insert position.symbol position) rest

/-- A book of recovered positions. -/
def restore
    (book : Book)
    (positions : List Position) :
    Except Fault Book :=
  match collect OrderedMap.empty positions with
  | .error fault => .error fault
  | .ok recovered => .ok { book with positions := recovered }

/-- Checks the shape of every position, in symbol order. -/
def check (book : Book) : Except Fault Unit :=
  book.positions.values.forM Position.check

/-- Number of positions. -/
def size (book : Book) : Nat :=
  book.positions.size

/-- Whether there is no position. -/
def isEmpty (book : Book) : Bool :=
  book.positions.isEmpty

end Book

end MandateDesk
