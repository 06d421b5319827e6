import MandateDesk.Binary64.Shortest
import MandateDesk.Decimal.Reader
import MandateDesk.Identifier
import MandateDesk.Instant.Reader
import MandateDesk.Json.Value

/-!
# Values of JSON

What a JSON value means where a text, a number, a decimal number, a time or a
word of a list is expected. Decimal numbers are texts or numbers; a
floating-point number counts by its shortest text. A word may also be the only
name in an object, with the value `null`.
-/

namespace MandateDesk.Json

/-- The text that a value stands for. -/
def asText? : Json → Option String
  | string value => some value
  | _ => none

/-- The truth value that a value stands for. -/
def asBoolean? : Json → Option Bool
  | boolean value => some value
  | _ => none

/-- The unsigned number below a bound that a value stands for. -/
def asUnsigned? (bound : Nat) : Json → Option Nat
  | integer value =>
    if 0 ≤ value ∧ value < bound then some value.toNat else none
  | _ => none

/-- The signed number of 64 bits that a value stands for. -/
def asSigned64? : Json → Option Int
  | integer value => if value < Text.bound63 then some value else none
  | _ => none

/-- The decimal number that a value stands for. -/
def asDecimal? : Json → Option Decimal
  | string value => Decimal.read? value
  | integer value => Decimal.ofParts? (decide (value < 0)) value.natAbs 0
  | float value => Decimal.read? value.text
  | _ => none

/-- The identifier that a value stands for. -/
def asIdentifier? (value : Json) : Option Identifier :=
  value.asText?.bind Identifier.read?

/-- The time that a value stands for. -/
def asInstant? (value : Json) : Option Instant :=
  value.asText?.bind Instant.read?

/-- The word that a value stands for. -/
def asWord? : Json → Option String
  | string value => some value
  | object [(name, null)] => some name
  | _ => none

/-- The word that a value stands for where it may also name an empty object. -/
def asLooseWord? : Json → Option String
  | object [(name, object [])] => some name
  | other => other.asWord?

/-- Reads a value that may be `null`. -/
def asOptional? {α : Type} (read : Json → Option α) : Json → Option (Option α)
  | null => some none
  | value => (read value).map some

end MandateDesk.Json
