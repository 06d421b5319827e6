/-!
# Powers of two and ten

The powers by which numbers are scaled, as functions of the exponent. A power
of a sum is a product of powers, and every power is positive.
-/

namespace MandateDesk

/-- Two to a power. -/
def twoTo (exponent : Nat) : Nat :=
  Nat.pow 2 exponent

/-- Ten to a power. -/
def tenTo (exponent : Nat) : Nat :=
  Nat.pow 10 exponent

@[simp]
theorem tenTo_zero : tenTo 0 = 1 :=
  rfl

theorem tenTo_succ (exponent : Nat) :
    tenTo (exponent + 1) = tenTo exponent * 10 :=
  rfl

theorem tenTo_add (first second : Nat) :
    tenTo (first + second) = tenTo first * tenTo second :=
  Nat.pow_add 10 first second

theorem tenTo_pos (exponent : Nat) : 0 < tenTo exponent :=
  Nat.pow_pos (by decide)

theorem twoTo_pos (exponent : Nat) : 0 < twoTo exponent :=
  Nat.pow_pos (by decide)

end MandateDesk
