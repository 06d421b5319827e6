/-!
# Orders by a key

Values are often compared by a key that they carry. Such a comparison is
transitive when that of the keys is, and tells every two values apart when the
key does.
-/

namespace MandateDesk

/-- Compares two values by their keys. -/
def byKey {α κ : Type} [Ord κ] (key : α → κ) (first second : α) : Ordering :=
  compare (key first) (key second)

theorem byKey_trans
    {α κ : Type}
    [Ord κ]
    [Std.TransOrd κ]
    (key : α → κ) :
    Std.TransCmp (byKey key) where
  eq_swap := Std.OrientedOrd.eq_swap
  isLE_trans := Std.TransOrd.isLE_trans

theorem byKey_lawful
    {α κ : Type}
    [Ord κ]
    [Std.LawfulEqOrd κ]
    {key : α → κ}
    (injective : ∀ first second, key first = key second → first = second) :
    Std.LawfulEqCmp (byKey key) where
  compare_self := Std.ReflOrd.compare_self
  eq_of_compare := fun same =>
    injective _ _ (Std.LawfulEqOrd.eq_of_compare same)

end MandateDesk
