import MandateDesk.Decimal.Arithmetic
import MandateDesk.Market
import MandateDesk.Position.Basic

/-!
# Exposure

The exposure of a position is its quantity times the mark price: the filled
quantity, or the quantity asked for while an entry works. The gross exposure
of a book adds the exposures of all positions that are not flat, in symbol
order.

A position without a quote adds nothing and is listed as unpriced. When an
exposure or a sum is out of range, the first symbol at which that happens is
kept and the gross exposure becomes the largest number.
-/

namespace MandateDesk.Risk

/-- The quantity of a position that is exposed to the market. -/
def exposedQuantity (position : Position) : Decimal :=
  match position.state with
  | .entering => position.pendingQuantity
  | _ => position.quantity

/-- The exposure of a position, if it is in range. -/
def exposure? (position : Position) (mark : Decimal) : Option Decimal :=
  ((exposedQuantity position).mul? mark).map Decimal.magnitude

/-- The exposure of a whole book. -/
structure GrossExposure where
  /-- The sum of all exposures. -/
  gross : Decimal
  /-- The symbols without a quote, in symbol order. -/
  unpriced : List Symbol
  /-- The first symbol at which the sum left the range. -/
  overflow : Option Symbol
deriving DecidableEq

namespace GrossExposure

/-- The exposure of an empty book. -/
def none : GrossExposure :=
  ⟨Decimal.zero, [], Option.none⟩

/-- A sum of exposures with one more of them, if that is in range. -/
def sum? (gross : Decimal) (added : Option Decimal) : Option Decimal :=
  added.bind gross.add?

/-- The exposure of a book with one more position. -/
def including
    (prices : Prices)
    (exposure : GrossExposure)
    (position : Position) :
    GrossExposure :=
  match prices.find? position.symbol with
  | Option.none =>
    { exposure with unpriced := exposure.unpriced ++ [position.symbol] }
  | some quote =>
    match sum? exposure.gross (exposure? position quote.mark) with
    | some gross => { exposure with gross }
    | Option.none =>
      { exposure with
        gross := Decimal.largest
        overflow := exposure.overflow.or (some position.symbol) }

end GrossExposure

/-- The exposure of a book. -/
def grossExposure (positions : Positions) (prices : Prices) : GrossExposure :=
  (positions.values.filter fun position => !position.isFlat).foldl
    (GrossExposure.including prices) GrossExposure.none

end MandateDesk.Risk
