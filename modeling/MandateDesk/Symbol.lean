import MandateDesk.KeyOrder
import MandateDesk.Text.Blank

/-!
# Symbols

A symbol names a tradable instrument. Symbols are told apart by their exact
text and ordered by its code points; one that is blank names nothing.
-/

namespace MandateDesk

/-- The name of a tradable instrument. -/
structure Symbol where
  /-- The text of the name. -/
  name : String
deriving DecidableEq, Inhabited

namespace Symbol

instance : Ord Symbol :=
  ⟨byKey name⟩

instance : Std.TransOrd Symbol :=
  byKey_trans name

theorem ext
    {first second : Symbol}
    (same : first.name = second.name) :
    first = second := by
  cases first
  cases second
  cases same
  rfl

instance : Std.LawfulEqOrd Symbol :=
  byKey_lawful fun _ _ => ext

instance : ToString Symbol :=
  ⟨name⟩

/-- Whether a symbol names nothing. -/
def isBlank (symbol : Symbol) : Bool :=
  Text.isBlankText symbol.name

end Symbol

end MandateDesk
