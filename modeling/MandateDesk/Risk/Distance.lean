import MandateDesk.Decimal.Division
import MandateDesk.Risk.Exposure
import MandateDesk.Risk.Limits

/-!
# Distance from liquidation

The distance of a position is that of its mark price from the price at which
it would be liquidated, as a share of the mark price. The liquidation price is
the one that the exchange reports; where it reports none it is estimated by
spreading the margin that is left over the quantity of the position.

Only a filled position with a positive mark price has a distance.
-/

namespace MandateDesk.Risk

/-- What the risk figures are computed from. -/
structure View where
  /-- The constants. -/
  limits : Limits
  /-- The account. -/
  account : Account
  /-- The prices. -/
  prices : Prices

/-- The margin that a gross exposure leaves over. -/
def marginLeft (view : View) (gross : Decimal) : Decimal :=
  view.account.equity.saturatingSub
    (gross.saturatingMul view.limits.marginRate)

/-- The price at which a position would be liquidated, by the margin left. -/
def estimatedLiquidation
    (view : View)
    (positions : Positions)
    (position : Position)
    (mark : Decimal) :
    Option Decimal :=
  let gross := (grossExposure positions view.prices).gross
  let available := max (marginLeft view gross) Decimal.zero
  match available.div? position.quantity, position.direction with
  | some buffer, some .long =>
    some (max (mark.saturatingSub buffer) Decimal.zero)
  | some buffer, some .short => some (mark.saturatingAdd buffer)
  | _, _ => none

/-- The price at which a position would be liquidated. -/
def liquidationPrice
    (view : View)
    (positions : Positions)
    (position : Position)
    (quote : Quote) :
    Option Decimal :=
  match quote.liquidation with
  | some price => some price
  | none => estimatedLiquidation view positions position quote.mark

/-- How far a price is from another one, as a share of it. -/
def relativeDistance (mark price : Decimal) : Option Decimal :=
  (mark.sub? price).bind fun gap => gap.magnitude.div? mark

/-- How far a position is from its liquidation. -/
def distance?
    (view : View)
    (positions : Positions)
    (position : Position) :
    Option Decimal :=
  if position.state.hasExposure then
    match view.prices.find? position.symbol with
    | none => none
    | some quote =>
      if quote.mark ≤ Decimal.zero then none
      else
        match liquidationPrice view positions position quote with
        | none => none
        | some price => relativeDistance quote.mark price
  else none

/-- The distance of a position, if it is critical. -/
def criticalDistance?
    (view : View)
    (positions : Positions)
    (position : Position) :
    Option Decimal :=
  (distance? view positions position).filter fun distance =>
    decide (distance < view.limits.criticalDistance)

/-- The positions whose distance is critical, in symbol order. -/
def criticalPositions
    (view : View)
    (positions : Positions) :
    List (Symbol × Decimal) :=
  positions.values.filterMap fun position =>
    (criticalDistance? view positions position).map fun distance =>
      (position.symbol, distance)

end MandateDesk.Risk
