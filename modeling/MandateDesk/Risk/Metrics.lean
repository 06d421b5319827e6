import MandateDesk.Risk.Distance

/-!
# Risk figures

The figures of an account at one point in time, for those who watch it.
-/

namespace MandateDesk.Risk

/-- The risk figures of an account. -/
structure Metrics where
  /-- The equity of the account. -/
  equity : Decimal
  /-- The sum of all exposures. -/
  grossExposure : Decimal
  /-- The exposure in units of equity, where there is any. -/
  leverage : Option Decimal
  /-- The margin that the exposures need. -/
  marginUsed : Decimal
  /-- The margin that is left. -/
  marginAvailable : Decimal
  /-- The distance of each position that has one. -/
  distances : OrderedMap Symbol Decimal
  /-- The symbols whose distance is not safe. -/
  belowSafe : List Symbol
  /-- The symbols whose distance is critical. -/
  belowCritical : List Symbol
  /-- The symbols without a quote. -/
  unpriced : List Symbol

/-- The positions that have a distance, with it. -/
def measured
    (view : View)
    (positions : Positions) :
    List (Symbol × Decimal) :=
  positions.values.filterMap fun position =>
    (distance? view positions position).map fun distance =>
      (position.symbol, distance)

/-- The symbols whose distance is below a bound. -/
def symbolsBelow
    (bound : Decimal)
    (measured : List (Symbol × Decimal)) :
    List Symbol :=
  (measured.filter fun entry => decide (entry.2 < bound)).map Prod.fst

/-- The risk figures of an account. -/
def metrics (view : View) (positions : Positions) : Metrics :=
  let exposure := grossExposure positions view.prices
  let equity := view.account.equity
  let marginUsed := exposure.gross.saturatingMul view.limits.marginRate
  let measured := measured view positions
  { equity
    grossExposure := exposure.gross
    leverage :=
      if Decimal.zero < equity then exposure.gross.div? equity else none
    marginUsed
    marginAvailable := equity.saturatingSub marginUsed
    distances := OrderedMap.ofList measured
    belowSafe := symbolsBelow view.limits.safeDistance measured
    belowCritical := symbolsBelow view.limits.criticalDistance measured
    unpriced := exposure.unpriced }

end MandateDesk.Risk
