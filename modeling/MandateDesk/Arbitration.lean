import MandateDesk.Action
import MandateDesk.Position.Basic

/-!
# Arbitration

Arbitration turns the mandates for a symbol into one action. Mandates that are
inactive, concern another symbol or are not admitted in the position's state
do not count. An exit wins over everything. A block removes the entries and is
never the result itself. Of the rest the kind with the highest rank wins.

Among mandates of one kind the higher authority wins, then the lower source,
then the earlier time, then the lower identifier. This is a linear order of
mandates with distinct identifiers, so that the order in which they are listed
does not matter.
-/

namespace MandateDesk.Arbitration

/-- The order among mandates of one kind; the lower one wins. -/
def precedence (first second : Mandate) : Ordering :=
  (compare second.authority first.authority).then
    ((compare first.source second.source).then
      ((compare first.stamp second.stamp).then
        (compare first.id second.id)))

/-- The order among mandates of all kinds; the lower one wins. -/
def seniority (first second : Mandate) : Ordering :=
  (compare second.kind.rank first.kind.rank).then
    (precedence first second)

/-- The first of the least values of a list. -/
def least {α : Type} (order : α → α → Ordering) : List α → Option α
  | [] => none
  | first :: rest =>
    match least order rest with
    | none => some first
    | some other =>
      if order other first = .lt then some other else some first

/-- The mandates that count for a symbol in a state. -/
def admissible
    (symbol : Symbol)
    (state : Position.State)
    (mandates : List Mandate) :
    List Mandate :=
  mandates.filter fun mandate =>
    mandate.symbol == symbol && mandate.isActive && state.admits mandate.kind

/-- Whether a mandate is an exit. -/
def isExit (mandate : Mandate) : Bool :=
  mandate.kind == .exit

/-- Whether a mandate is a block. -/
def isBlock (mandate : Mandate) : Bool :=
  mandate.kind == .block

/-- Whether a mandate is an entry. -/
def isEntry (mandate : Mandate) : Bool :=
  mandate.kind == .entry

/-- The mandates that blocks leave over. -/
def unblocked (mandates : List Mandate) : List Mandate :=
  let blocked := mandates.any isBlock
  mandates.filter fun mandate =>
    !isBlock mandate && !(blocked && isEntry mandate)

/-- The mandate that wins, if one does. -/
def winner
    (symbol : Symbol)
    (state : Position.State)
    (mandates : List Mandate) :
    Option Mandate :=
  let counted := admissible symbol state mandates
  match least precedence (counted.filter isExit) with
  | some mandate => some mandate
  | none => least seniority (unblocked counted)

/-- The one action for a symbol in a state. -/
def resolve
    (symbol : Symbol)
    (state : Position.State)
    (mandates : List Mandate) :
    Action :=
  match winner symbol state mandates with
  | some mandate => Action.ofMandate mandate
  | none => Action.noAction symbol

/-- The state of a symbol's position; flat where there is none. -/
def stateOf (positions : Positions) (symbol : Symbol) : Position.State :=
  match positions.find? symbol with
  | some position => position.state
  | none => .flat

/-- The mandates, grouped by their symbols, each group in the listed order. -/
def grouped (mandates : List Mandate) : OrderedMap Symbol (List Mandate) :=
  mandates.foldl
    (fun groups mandate =>
      groups.insert mandate.symbol
        ((groups.find? mandate.symbol).getD [] ++ [mandate]))
    OrderedMap.empty

/-- One action for each symbol that a mandate concerns. -/
def resolveAll
    (positions : Positions)
    (mandates : List Mandate) :
    OrderedMap Symbol Action :=
  (grouped mandates).mapValues fun symbol group =>
    resolve symbol (stateOf positions symbol) group

end MandateDesk.Arbitration
