import MandateDesk.Binary64.Basic

/-!
# JSON values

A number is an integer of at most 64 bits or a floating-point number. Objects
keep their fields in the order in which they are written, also when a name is
repeated.
-/

namespace MandateDesk

/-- A JSON value. -/
inductive Json where
  /-- The word `null`. -/
  | null
  /-- The words `true` and `false`. -/
  | boolean (value : Bool)
  /-- A number without fraction and exponent. -/
  | integer (value : Int)
  /-- Any other number. -/
  | float (value : Binary64)
  /-- A text. -/
  | string (value : String)
  /-- A list of values. -/
  | array (items : List Json)
  /-- Names with values, in written order. -/
  | object (fields : List (String × Json))

namespace Json

instance : Inhabited Json :=
  ⟨null⟩

/-- The value of the last field with a name. -/
def field? (name : String) (fields : List (String × Json)) : Option Json :=
  (fields.reverse.find? fun field => field.1 == name).map Prod.snd

/-- Whether no two of the given names stand for the same field. -/
def noneRepeated
    (names : List String)
    (fields : List (String × Json)) :
    Bool :=
  names.all fun name =>
    (fields.filter fun field => field.1 == name).length ≤ 1

end Json

end MandateDesk
