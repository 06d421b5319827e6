import MandateDesk.Binary64.Shortest
import MandateDesk.Record.Parts
import MandateDesk.Text.Keyword

/-!
# Lenient values

Settings come from documents and from the environment, where a number may be
written as a text and a text as a number. This module says what a value means
where a number, a truth value or a text is expected.
-/

namespace MandateDesk.Settings

/-- Words that stand for yes. -/
def yesWords : List String := ["true", "on", "yes"]

/-- Words that stand for no. -/
def noWords : List String := ["false", "off", "no"]

/-- The parts of a record; further items of a list do not count. -/
def lenientParts? (names : List String) : Json → Option Record.Parts
  | .object fields => some ⟨fields, false⟩
  | .array items => some ⟨names.zip items, true⟩
  | _ => none

/-- The unsigned number of 64 bits that a text stands for. -/
def unsignedOfText? (text : String) : Option Nat :=
  let word := Text.lowerCase text
  if yesWords.contains word then some 1
  else if noWords.contains word then some 0
  else Text.unsigned? Text.bound64 text.toList

/-- The unsigned number of 64 bits that a value stands for. -/
def lenientUnsigned? : Json → Option Nat
  | .integer value => if 0 ≤ value then some value.toNat else none
  | .float value => some value.toUnsigned64
  | .boolean value => some (if value then 1 else 0)
  | .string text => unsignedOfText? text
  | _ => none

/-- The truth value that a text stands for. -/
def booleanOfText? (text : String) : Option Bool :=
  let word := Text.lowerCase text
  if word = "1" ∨ yesWords.contains word then some true
  else if word = "0" ∨ noWords.contains word then some false
  else none

/-- The truth value that a value stands for. -/
def lenientBoolean? : Json → Option Bool
  | .integer value => some (value != 0)
  | .float value => some (!value.isZero)
  | .boolean value => some value
  | .string text => booleanOfText? text
  | _ => none

/-- The text that a value stands for. -/
def lenientText? : Json → Option String
  | .integer value => some (Text.integerText value)
  | .float value => some value.text
  | .boolean value => some (if value then "true" else "false")
  | .string text => some text
  | _ => none

/-- Everything may be written as a text, and texts as anything. -/
def lenientForm : Record.Form where
  parts := lenientParts?
  decimal := Json.asDecimal?
  unsigned32 value :=
    (lenientUnsigned? value).filter fun number => number < Text.bound32
  unsigned64 := lenientUnsigned?
  boolean := lenientBoolean?
  text := lenientText?

end MandateDesk.Settings
