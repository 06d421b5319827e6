import MandateDesk.Decimal.Basic
import MandateDesk.OrderedMap
import MandateDesk.Symbol

/-!
# Market data

What the desk knows about the market: the mark price of each symbol, with the
price at which the exchange would liquidate the account's position where it
reports one, and the equity of the account.
-/

namespace MandateDesk

/-- The prices of one symbol. -/
structure Quote where
  /-- The current mark price. -/
  mark : Decimal
  /-- The price at which the exchange liquidates the held position. -/
  liquidation : Option Decimal
deriving DecidableEq

/-- The quotes of all symbols that have one. -/
abbrev Prices := OrderedMap Symbol Quote

/-- The balances of the account. -/
structure Account where
  /-- Collateral plus unrealised profit. -/
  equity : Decimal
deriving DecidableEq

end MandateDesk
