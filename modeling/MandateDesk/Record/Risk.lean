import MandateDesk.Record.Parts
import MandateDesk.Risk.Deleverage
import MandateDesk.Risk.Gate
import MandateDesk.Risk.Metrics

/-!
# Records of risk figures

Limits, rejections, judgements, figures and suggested reductions. A limit that
is left out has its standard value.
-/

namespace MandateDesk.Risk

namespace Limits

/-- The names of the parts of limits. -/
def partNames : List String :=
  ["l_max", "l_target", "l_symbol_max", "d_min_safe", "d_critical", "mmr",
    "reduction_pct"]

/-- The limits, in the order of the names. -/
def figures (limits : Limits) : List Decimal :=
  [limits.maxLeverage, limits.targetLeverage, limits.symbolLeverage,
    limits.safeDistance, limits.criticalDistance, limits.marginRate,
    limits.reductionShare]

/-- The record of limits. -/
def record (limits : Limits) : Json :=
  .object (partNames.zip (limits.figures.map Record.ofDecimal))

/-- Reads limits that are written in a form. -/
def readAs? (form : Record.Form) (value : Json) : Option Limits := do
  let parts ← form.parts partNames value
  let figure name standard :=
    Record.defaulted? name standard form.decimal parts
  return {
    maxLeverage := ← figure "l_max" standard.maxLeverage
    targetLeverage := ← figure "l_target" standard.targetLeverage
    symbolLeverage := ← figure "l_symbol_max" standard.symbolLeverage
    safeDistance := ← figure "d_min_safe" standard.safeDistance
    criticalDistance := ← figure "d_critical" standard.criticalDistance
    marginRate := ← figure "mmr" standard.marginRate
    reductionShare := ← figure "reduction_pct" standard.reductionShare }

/-- The limits that a record stands for. -/
def ofRecord? (value : Json) : Option Limits :=
  readAs? .strict value

end Limits

namespace Rejection

/-- The parts of a rejection. -/
def parts : Rejection → List (String × Json)
  | nonPositiveEquity equity => [("equity", Record.ofDecimal equity)]
  | missingMarkPrice symbol => [("symbol", Record.ofSymbol symbol)]
  | invalidQuantity symbol quantity =>
    [("symbol", Record.ofSymbol symbol),
      ("quantity", Record.ofDecimal quantity)]
  | leverageExceeded projected limit =>
    [("projected", Record.ofDecimal projected),
      ("limit", Record.ofDecimal limit)]
  | symbolExposureExceeded symbol projected limit =>
    [("symbol", Record.ofSymbol symbol),
      ("projected", Record.ofDecimal projected),
      ("limit", Record.ofDecimal limit)]
  | insufficientMargin available =>
    [("available", Record.ofDecimal available)]
  | exposureOverflow symbol => [("symbol", Record.ofSymbol symbol)]

/-- The record of a rejection. -/
def record (rejection : Rejection) : Json :=
  .object (("code", .string rejection.code) :: rejection.parts)

/-- The names of the parts of a rejection with a code. -/
def partNames : String → List String
  | "non_positive_equity" => ["equity"]
  | "missing_mark_price" => ["symbol"]
  | "invalid_quantity" => ["symbol", "quantity"]
  | "leverage_exceeded" => ["projected", "limit"]
  | "symbol_exposure_exceeded" => ["symbol", "projected", "limit"]
  | "insufficient_margin" => ["available"]
  | "exposure_overflow" => ["symbol"]
  | _ => []

/-- The codes, in their order. -/
def codes : List String :=
  ["non_positive_equity", "missing_mark_price", "invalid_quantity",
    "leverage_exceeded", "symbol_exposure_exceeded", "insufficient_margin",
    "exposure_overflow"]

/-- The rejection that a record stands for whose code is read in its own way. -/
def readBy?
    (readCode : Json → Option String)
    (value : Json) :
    Option Rejection := do
  let (code, parts) ← Record.tagged? readCode "code" partNames value
  let symbol := Record.required? "symbol" Record.symbol? parts
  let figure name := Record.required? name Json.asDecimal? parts
  match code with
  | "non_positive_equity" => return nonPositiveEquity (← figure "equity")
  | "missing_mark_price" => return missingMarkPrice (← symbol)
  | "invalid_quantity" =>
    return invalidQuantity (← symbol) (← figure "quantity")
  | "leverage_exceeded" =>
    return leverageExceeded (← figure "projected") (← figure "limit")
  | "symbol_exposure_exceeded" =>
    return symbolExposureExceeded (← symbol) (← figure "projected")
      (← figure "limit")
  | "insufficient_margin" => return insufficientMargin (← figure "available")
  | "exposure_overflow" => return exposureOverflow (← symbol)
  | _ => none

/-- The rejection that a record stands for. -/
def ofRecord? (value : Json) : Option Rejection :=
  readBy? Record.named? value

/-- The rejection that a record stands for which is part of another one. -/
def ofInnerRecord? (value : Json) : Option Rejection :=
  readBy? (Record.numbered? codes) value

end Rejection

/-- The record of a judgement, which explains a rejection by a text. -/
def Verdict.record : Verdict → Json
  | .accept => .object [("verdict", .string "accept")]
  | .reject rejection =>
    .object
      (("verdict", .string "reject") :: ("code", .string rejection.code) ::
        rejection.parts ++ [("text", .string rejection.text)])
  | .forceExit symbol distance =>
    .object
      [("verdict", .string "force_exit"),
        ("symbol", Record.ofSymbol symbol),
        ("distance", Record.ofDecimal distance)]

/-- The record of risk figures. -/
def Metrics.record (metrics : Metrics) : Json :=
  .object
    [("equity", Record.ofDecimal metrics.equity),
      ("gross_exposure", Record.ofDecimal metrics.grossExposure),
      ("leverage", Record.ofOption Record.ofDecimal metrics.leverage),
      ("margin_used", Record.ofDecimal metrics.marginUsed),
      ("margin_available", Record.ofDecimal metrics.marginAvailable),
      ("liquidation_distance",
        Record.ofTable Record.ofDecimal metrics.distances),
      ("below_min_safe", Record.ofList Record.ofSymbol metrics.belowSafe),
      ("below_critical", Record.ofList Record.ofSymbol metrics.belowCritical),
      ("unpriced", Record.ofList Record.ofSymbol metrics.unpriced)]

/-- The record of a suggested reduction. -/
def Suggestion.record (suggestion : Suggestion) : Json :=
  .object
    [("symbol", Record.ofSymbol suggestion.symbol),
      ("quantity", Record.ofDecimal suggestion.quantity),
      ("exposure_reduction", Record.ofDecimal suggestion.reduction)]

end MandateDesk.Risk
