import MandateDesk.Fault

/-!
# Valid mandates

A submitted mandate must name a symbol and a source, ask for a quantity in
range and be active. An entry needs a direction and a positive quantity, a
reduction a positive quantity. `defect?` finds the first thing that is wrong.

`Sound` is the part of this that does not depend on the status, and so holds
for the rest of a mandate's life.
-/

namespace MandateDesk.Mandate

/-- What the kind of a mandate lacks. -/
def kindDefect? (mandate : Mandate) : Option Defect :=
  match mandate.kind with
  | .entry =>
    if mandate.direction.isNone then some .entryWithoutDirection
    else if mandate.quantity.isZero then some .entryWithoutQuantity
    else none
  | .reduce =>
    if mandate.quantity.isZero then some .reduceWithoutQuantity else none
  | .exit => none
  | .block => none
  | .hold => none

/-- The first thing that is wrong with a submitted mandate. -/
def defect? (mandate : Mandate) : Option Defect :=
  if mandate.symbol.isBlank then some .blankSymbol
  else if Text.isBlankText mandate.source then some .blankSource
  else if mandate.quantity.negative then
    some (.negativeQuantity mandate.quantity)
  else if largestQuantity < mandate.quantity then
    some (.quantityAboveLimit mandate.quantity)
  else if !mandate.isActive then some (.notActive mandate.status)
  else mandate.kindDefect?

/-- Accepts a mandate without defects. -/
def validate (mandate : Mandate) : Except Fault Unit :=
  match mandate.defect? with
  | some defect => .error (.invalidMandate (.defective mandate.id defect))
  | none => .ok ()

/-- What validation asks of a mandate whatever its status. -/
structure Sound (mandate : Mandate) : Prop where
  symbol : mandate.symbol.isBlank = false
  source : Text.isBlankText mandate.source = false
  quantity_sign : mandate.quantity.negative = false
  quantity_le : mandate.quantity ≤ largestQuantity
  kind : mandate.kindDefect? = none

/-- A mandate without defects is active and sound. -/
theorem defect?_eq_none_iff
    (mandate : Mandate) :
    mandate.defect? = none ↔ mandate.isActive = true ∧ Sound mandate := by
  constructor
  · intro clean
    unfold defect? at clean
    split at clean
    · contradiction
    rename_i symbol
    split at clean
    · contradiction
    rename_i source
    split at clean
    · contradiction
    rename_i sign
    split at clean
    · contradiction
    rename_i bounded
    split at clean
    · contradiction
    rename_i active
    exact ⟨by simpa using active, by simpa using symbol,
      by simpa using source, by simpa using sign,
      Decimal.not_lt.mp bounded, clean⟩
  · rintro ⟨active, sound⟩
    simp [defect?, active, sound.symbol, sound.source, sound.quantity_sign,
      sound.kind, Decimal.not_lt.mpr sound.quantity_le]

theorem validate_eq_ok_iff
    (mandate : Mandate) :
    mandate.validate = .ok () ↔ mandate.defect? = none := by
  unfold validate
  cases mandate.defect? <;> simp

end MandateDesk.Mandate
