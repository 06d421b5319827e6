import MandateDesk.Decimal.Printer
import MandateDesk.Symbol

/-!
# Rejections

Why the risk gate refuses an entry. Each rejection has a code of its own and a
text that names the figures that led to it.
-/

namespace MandateDesk.Risk

/-- Why an entry is refused. -/
inductive Rejection where
  /-- The account has no equity. -/
  | nonPositiveEquity (equity : Decimal)
  /-- A symbol has no usable mark price. -/
  | missingMarkPrice (symbol : Symbol)
  /-- The entry has no positive quantity or no direction. -/
  | invalidQuantity (symbol : Symbol) (quantity : Decimal)
  /-- The account would exceed its leverage. -/
  | leverageExceeded (projected limit : Decimal)
  /-- One symbol would exceed its share. -/
  | symbolExposureExceeded (symbol : Symbol) (projected limit : Decimal)
  /-- The margin would not suffice. -/
  | insufficientMargin (available : Decimal)
  /-- An exposure is out of range. -/
  | exposureOverflow (symbol : Symbol)
deriving DecidableEq

namespace Rejection

/-- The code of a rejection. -/
def code : Rejection → String
  | nonPositiveEquity .. => "non_positive_equity"
  | missingMarkPrice .. => "missing_mark_price"
  | invalidQuantity .. => "invalid_quantity"
  | leverageExceeded .. => "leverage_exceeded"
  | symbolExposureExceeded .. => "symbol_exposure_exceeded"
  | insufficientMargin .. => "insufficient_margin"
  | exposureOverflow .. => "exposure_overflow"

/-- The text of a rejection. -/
def text : Rejection → String
  | nonPositiveEquity equity => s!"Account equity is not positive: {equity}"
  | missingMarkPrice symbol => s!"No mark price for {symbol}"
  | invalidQuantity symbol quantity =>
    s!"Invalid quantity for {symbol}: {quantity}"
  | leverageExceeded projected limit =>
    s!"Leverage would reach {projected} > limit {limit}"
  | symbolExposureExceeded symbol projected limit =>
    s!"Exposure on {symbol} would reach {projected} > limit {limit}"
  | insufficientMargin available =>
    s!"Margin available would fall to {available}"
  | exposureOverflow symbol =>
    s!"Exposure on {symbol} is outside the representable range"

end Rejection

end MandateDesk.Risk
