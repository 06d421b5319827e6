import MandateDesk.Mandate.Basic

/-!
# Actions

An action is the one decision for a symbol in a cycle. It carries the intent
of the mandate that won, or is imposed by the risk gate. A block never becomes
an action of its own.
-/

namespace MandateDesk

namespace Action

/-- The kind of a decision. -/
inductive Kind where
  /-- Close the position, or cancel its entry. -/
  | exit
  /-- Close a part of the position. -/
  | reduce
  /-- Open a position. -/
  | entry
  /-- Leave things as they are, on a strategy's wish. -/
  | hold
  /-- Leave things as they are. -/
  | noAction
deriving DecidableEq, Inhabited

namespace Kind

/-- All kinds of decisions. -/
def all : List Kind := [exit, reduce, entry, hold, noAction]

/-- The word for a kind. -/
def word : Kind → String
  | exit => "EXIT"
  | reduce => "REDUCE"
  | entry => "ENTRY"
  | hold => "HOLD"
  | noAction => "NO_ACTION"

instance : ToString Kind :=
  ⟨word⟩

/-- The kind that a word stands for, exactly as it is written. -/
def ofWord? (text : String) : Option Kind :=
  all.find? fun kind => kind.word == text

/-- Whether a decision sends an order to the venue. -/
def isExecutable : Kind → Bool
  | exit => true
  | reduce => true
  | entry => true
  | hold => false
  | noAction => false

end Kind

/-- Who made a decision. -/
inductive Origin where
  /-- The arbitration of mandates. -/
  | arbitrated
  /-- The risk gate. -/
  | forcedByRisk
deriving DecidableEq, Inhabited

/-- The name of an origin. -/
def Origin.name : Origin → String
  | .arbitrated => "arbitrated"
  | .forcedByRisk => "forced_by_risk"

/-- The origin that a name stands for. -/
def Origin.ofName? (text : String) : Option Origin :=
  [Origin.arbitrated, Origin.forcedByRisk].find? fun origin =>
    origin.name == text

end Action

/-- The decision for one symbol. -/
structure Action where
  /-- What is decided. -/
  kind : Action.Kind
  /-- The instrument. -/
  symbol : Symbol
  /-- The mandate that won. -/
  mandate : Option Identifier
  /-- The direction that it asks for. -/
  direction : Option Direction
  /-- The quantity that it asks for. -/
  quantity : Decimal
  /-- Who decided. -/
  origin : Action.Origin
deriving DecidableEq

namespace Action

/-- The decision to leave a symbol as it is. -/
def noAction (symbol : Symbol) : Action :=
  { kind := .noAction
    symbol
    mandate := none
    direction := none
    quantity := Decimal.zero
    origin := .arbitrated }

/-- The exit that the risk gate imposes. -/
def forcedExit (symbol : Symbol) : Action :=
  { kind := .exit
    symbol
    mandate := none
    direction := none
    quantity := Decimal.zero
    origin := .forcedByRisk }

/-- The kind of decision that a mandate asks for; a block asks for none. -/
def kindFor? : Mandate.Kind → Option Kind
  | .exit => some .exit
  | .reduce => some .reduce
  | .entry => some .entry
  | .hold => some .hold
  | .block => none

/-- Two kinds of mandates never ask for the same kind of decision. -/
theorem kindFor?_inj
    {first second : Mandate.Kind}
    {kind : Kind}
    (one : kindFor? first = some kind)
    (other : kindFor? second = some kind) :
    first = second := by
  rw [← other] at one
  cases first <;> cases second <;> first | rfl | cases one

/-- No mandate asks for the absence of a decision. -/
theorem kindFor?_ne_noAction
    (kind : Mandate.Kind) :
    kindFor? kind ≠ some .noAction := by
  cases kind <;> decide

/-- The decision that carries a mandate's intent. -/
def ofMandate (mandate : Mandate) : Action :=
  match kindFor? mandate.kind with
  | some kind =>
    { kind
      symbol := mandate.symbol
      mandate := some mandate.id
      direction := mandate.direction
      quantity := mandate.quantity
      origin := .arbitrated }
  | none => noAction mandate.symbol

/-- Whether the risk gate imposed a decision. -/
def isForced (action : Action) : Bool :=
  action.origin == .forcedByRisk

theorem symbol_ofMandate
    (mandate : Mandate) :
    (ofMandate mandate).symbol = mandate.symbol := by
  unfold ofMandate
  split <;> rfl

end Action

end MandateDesk
