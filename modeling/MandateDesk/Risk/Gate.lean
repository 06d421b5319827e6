import MandateDesk.Action
import MandateDesk.Risk.Distance
import MandateDesk.Risk.Rejection

/-!
# The risk gate

The gate judges one action against the account, the book and the prices. An
action on a symbol whose position is critically close to its liquidation is
replaced by an exit, unless it is one. Only an entry can be rejected: the
others never add risk.

An entry is judged by the book as if it were filled at the mark price: the
leverage of the account, the share of the symbol and the margin must stay
within the limits.
-/

namespace MandateDesk.Risk

/-- The judgement of an action. -/
inductive Verdict where
  /-- The action may go on. -/
  | accept
  /-- The action is refused. -/
  | reject (rejection : Rejection)
  /-- An exit takes the place of the action. -/
  | forceExit (symbol : Symbol) (distance : Decimal)
deriving DecidableEq

/-- The mark price of a symbol, if it is positive. -/
def positiveMark? (prices : Prices) (symbol : Symbol) : Option Decimal :=
  ((prices.find? symbol).map Quote.mark).filter fun mark =>
    decide (Decimal.zero < mark)

/-- A figure that is in range, or a rejection for a symbol. -/
def inRange (symbol : Symbol) : Option Decimal → Except Rejection Decimal
  | some figure => .ok figure
  | none => .error (.exposureOverflow symbol)

/-- Checks that the account's leverage stays within the limit. -/
def checkLeverage
    (view : View)
    (symbol : Symbol)
    (gross : Decimal) :
    Except Rejection Unit := do
  let projected ← inRange symbol (gross.div? view.account.equity)
  if view.limits.maxLeverage < projected then
    .error (.leverageExceeded projected view.limits.maxLeverage)
  else .ok ()

/-- The exposure of a symbol that the book holds already. -/
def heldExposure
    (positions : Positions)
    (symbol : Symbol)
    (mark : Decimal) :
    Option Decimal :=
  match positions.find? symbol with
  | some position => exposure? position mark
  | none => some Decimal.zero

/-- Checks that the share of a symbol stays within the limit. -/
def checkSymbol
    (view : View)
    (positions : Positions)
    (symbol : Symbol)
    (mark added : Decimal) :
    Except Rejection Unit := do
  let limit := view.limits.symbolLeverage.saturatingMul view.account.equity
  let held ← inRange symbol (heldExposure positions symbol mark)
  let projected ← inRange symbol (held.add? added)
  if limit < projected then
    .error (.symbolExposureExceeded symbol projected limit)
  else .ok ()

/-- Checks that the margin suffices. -/
def checkMargin
    (view : View)
    (symbol : Symbol)
    (gross : Decimal) :
    Except Rejection Unit := do
  let margin ← inRange symbol (gross.mul? view.limits.marginRate)
  let available ← inRange symbol (view.account.equity.sub? margin)
  if available < Decimal.zero then .error (.insufficientMargin available)
  else .ok ()

/-- Checks that the exposure of the book is known. -/
def checkKnown (exposure : GrossExposure) : Except Rejection Unit :=
  match exposure.overflow, exposure.unpriced with
  | some symbol, _ => .error (.exposureOverflow symbol)
  | none, symbol :: _ => .error (.missingMarkPrice symbol)
  | none, [] => .ok ()

/-- Checks an entry of a quantity at a mark price against all limits. -/
def checkLimits
    (view : View)
    (positions : Positions)
    (symbol : Symbol)
    (quantity mark : Decimal) :
    Except Rejection Unit := do
  let exposure := grossExposure positions view.prices
  checkKnown exposure
  let added ← inRange symbol ((quantity.mul? mark).map Decimal.magnitude)
  let gross ← inRange symbol (exposure.gross.add? added)
  checkLeverage view symbol gross
  checkSymbol view positions symbol mark added
  checkMargin view symbol gross

/-- Checks an entry. -/
def checkEntry
    (view : View)
    (positions : Positions)
    (action : Action) :
    Except Rejection Unit :=
  let equity := view.account.equity
  if equity ≤ Decimal.zero then .error (.nonPositiveEquity equity)
  else if action.quantity ≤ Decimal.zero ∨ action.direction = none then
    .error (.invalidQuantity action.symbol action.quantity)
  else
    match positiveMark? view.prices action.symbol with
    | none => .error (.missingMarkPrice action.symbol)
    | some mark =>
      checkLimits view positions action.symbol action.quantity mark

/-- The critical distance that overrides an action. -/
def override?
    (view : View)
    (positions : Positions)
    (action : Action) :
    Option Decimal :=
  if action.kind = .exit then none
  else
    (positions.find? action.symbol).bind
      (criticalDistance? view positions)

/-- Judges an action that no critical distance overrides. -/
def judgeAlone
    (view : View)
    (positions : Positions)
    (action : Action) :
    Verdict :=
  if action.kind = .entry then
    match checkEntry view positions action with
    | .ok () => .accept
    | .error rejection => .reject rejection
  else .accept

/-- Judges an action. -/
def judge
    (view : View)
    (positions : Positions)
    (action : Action) :
    Verdict :=
  match override? view positions action with
  | some distance => .forceExit action.symbol distance
  | none => judgeAlone view positions action

end MandateDesk.Risk
