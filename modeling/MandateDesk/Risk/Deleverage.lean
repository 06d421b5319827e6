import MandateDesk.Risk.Distance

/-!
# Deleveraging

When the exposure of an account is above its aim, reductions are suggested
that bring it back. The largest open positions come first; each suggestion
removes at least a fixed share of its position and at most all of it.
-/

namespace MandateDesk.Risk

/-- A suggested reduction. -/
structure Suggestion where
  /-- The instrument. -/
  symbol : Symbol
  /-- The quantity to remove. -/
  quantity : Decimal
  /-- The exposure that this removes. -/
  reduction : Decimal
deriving DecidableEq

/-- A position that can be reduced, with its mark price. -/
structure Candidate where
  /-- The position. -/
  position : Position
  /-- Its mark price. -/
  mark : Decimal

/-- The open positions with a positive mark price, in symbol order. -/
def openCandidates (prices : Prices) (positions : Positions) : List Candidate :=
  positions.values.filterMap fun position =>
    if position.state = .opened then
      match prices.find? position.symbol with
      | some quote =>
        if Decimal.zero < quote.mark then some ⟨position, quote.mark⟩
        else none
      | none => none
    else none

/-- Compares exposures of which one may be out of range, which is the least. -/
def compareExposures : Option Decimal → Option Decimal → Ordering
  | none, none => .eq
  | none, some _ => .lt
  | some _, none => .gt
  | some first, some second =>
    if first < second then .lt
    else if second < first then .gt
    else .eq

/-- The order of suggestions: larger exposures first, then by symbol. -/
def candidateOrder (first second : Candidate) : Ordering :=
  (compareExposures (exposure? second.position second.mark)
      (exposure? first.position first.mark)).then
    (compare first.position.symbol second.position.symbol)

/-- The candidates in the order of suggestions. -/
def orderedCandidates
    (prices : Prices)
    (positions : Positions) :
    List Candidate :=
  (openCandidates prices positions).mergeSort fun first second =>
    (candidateOrder first second).isLE

/-- The quantity to remove from a candidate against an excess. -/
def reductionQuantity
    (share excess : Decimal)
    (candidate : Candidate) :
    Decimal :=
  let held := candidate.position.quantity
  let needed := (excess.div? candidate.mark).getD held
  min (max needed (held.saturatingMul share)) held

/-- Suggests reductions until no excess is left. -/
def suggestFrom
    (share : Decimal) :
    (excess : Decimal) → List Candidate → List Suggestion
  | _, [] => []
  | excess, candidate :: rest =>
    if excess ≤ Decimal.zero then []
    else
      let quantity := reductionQuantity share excess candidate
      let reduction := quantity.saturatingMul candidate.mark
      ⟨candidate.position.symbol, quantity, reduction⟩ ::
        suggestFrom share (excess.saturatingSub reduction) rest

/-- The exposure above the aim of an account. -/
def excess (view : View) (positions : Positions) : Decimal :=
  (grossExposure positions view.prices).gross.saturatingSub
    (view.limits.targetLeverage.saturatingMul view.account.equity)

/-- The reductions that bring an account back to its aim. -/
def suggestions (view : View) (positions : Positions) : List Suggestion :=
  if view.account.equity ≤ Decimal.zero then []
  else
    suggestFrom view.limits.reductionShare (excess view positions)
      (orderedCandidates view.prices positions)

end MandateDesk.Risk
