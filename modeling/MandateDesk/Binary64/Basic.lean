import MandateDesk.Decimal.Rounding

/-!
# Binary floating-point numbers

Finite numbers are a significand of 53 bits times a power of two whose
exponent is at least -1074. `ofQuotient` rounds an exact quotient of natural
numbers to the nearest such number, a half to the even neighbour; products and
quotients of numbers are rounded from their exact value by it.
-/

namespace MandateDesk

/-- A floating-point number of 64 bits. -/
inductive Binary64 where
  /-- The number `significand * 2 ^ exponent` with a sign. -/
  | finite (negative : Bool) (significand : Nat) (exponent : Int)
  /-- What lies beyond the finite numbers on one side. -/
  | infinite (negative : Bool)
  /-- Not a number. -/
  | undefined
deriving DecidableEq

namespace Binary64

/-- The least exponent of a finite number. -/
def leastExponent : Int := -1074

/-- The largest exponent of a finite number. -/
def largestExponent : Int := 971

/-- The bound of significands: two to the power of 53. -/
abbrev significandBound : Nat := 9007199254740992

/-- A quotient divided by a power of two and rounded to a natural number. -/
def scaledQuotient (numerator denominator : Nat) (exponent : Int) : Nat :=
  if exponent < 0 then
    Decimal.roundHalfEven (numerator * twoTo (-exponent).toNat) denominator
  else
    Decimal.roundHalfEven numerator (denominator * twoTo exponent.toNat)

/-- The exponent at which a positive quotient has a significand of 53 bits. -/
def exponentOf (numerator denominator : Nat) : Int :=
  let guess : Int := numerator.log2 - denominator.log2 - 53
  let tooSmall :=
    if guess < 0 then
      significandBound * denominator ≤ numerator * twoTo (-guess).toNat
    else
      significandBound * denominator * twoTo guess.toNat ≤ numerator
  max leastExponent (if tooSmall then guess + 1 else guess)

/-- The number nearest to a quotient, with a sign. -/
def ofQuotient (negative : Bool) (numerator denominator : Nat) : Binary64 :=
  if numerator = 0 then .finite negative 0 leastExponent
  else
    let exponent := exponentOf numerator denominator
    let significand := scaledQuotient numerator denominator exponent
    let carried := significand = significandBound
    let significand := if carried then significand / 2 else significand
    let exponent := if carried then exponent + 1 else exponent
    if largestExponent < exponent then .infinite negative
    else .finite negative significand exponent

/-- The number nearest to a natural number. -/
def ofNat (number : Nat) : Binary64 :=
  ofQuotient false number 1

/-- The number nearest to a power of ten. -/
def powerOfTen (count : Nat) : Binary64 :=
  ofNat (tenTo count)

/-- The number nearest to `digits * 10 ^ exponent`. -/
def ofDigits (negative : Bool) (digits : Nat) (exponent : Int) : Binary64 :=
  if exponent < 0 then
    ofQuotient negative digits (tenTo (-exponent).toNat)
  else ofQuotient negative (digits * tenTo exponent.toNat) 1

/-- Numerator of the magnitude of a finite number. -/
def numerator (significand : Nat) (exponent : Int) : Nat :=
  significand * twoTo exponent.toNat

/-- Denominator of the magnitude of a finite number. -/
def denominator (exponent : Int) : Nat :=
  twoTo (-exponent).toNat

/-- The product of two numbers. -/
def mul : Binary64 → Binary64 → Binary64
  | .finite n s e, .finite m t f =>
    ofQuotient (n != m) (numerator s e * numerator t f)
      (denominator e * denominator f)
  | .infinite n, .finite m t _ =>
    if t = 0 then .undefined else .infinite (n != m)
  | .finite n s _, .infinite m =>
    if s = 0 then .undefined else .infinite (n != m)
  | .infinite n, .infinite m => .infinite (n != m)
  | _, _ => .undefined

/-- The quotient of two numbers of which the second is positive. -/
def div : Binary64 → Binary64 → Binary64
  | .finite n s e, .finite m t f =>
    if t = 0 then (if s = 0 then .undefined else .infinite (n != m))
    else
      ofQuotient (n != m) (numerator s e * denominator f)
        (denominator e * numerator t f)
  | .infinite n, .finite m _ _ => .infinite (n != m)
  | .finite n _ _, .infinite m => .finite (n != m) 0 leastExponent
  | _, _ => .undefined

/-- The number with the other sign. -/
def opposite : Binary64 → Binary64
  | .finite negative significand exponent =>
    .finite (!negative) significand exponent
  | .infinite negative => .infinite (!negative)
  | .undefined => .undefined

/-- Whether a number is zero. -/
def isZero : Binary64 → Bool
  | .finite _ significand _ => significand == 0
  | _ => false

/-- Whether a number is finite. -/
def isFinite : Binary64 → Bool
  | .finite .. => true
  | _ => false

/-- The magnitude of a finite number, rounded to an integer, halves upward. -/
def roundedMagnitude (significand : Nat) (exponent : Int) : Nat :=
  let divisor := denominator exponent
  (2 * numerator significand exponent + divisor) / (2 * divisor)

/-- The largest unsigned integer of 64 bits. -/
abbrev largestUnsigned : Nat := 18446744073709551615

/--
The unsigned integer of 64 bits nearest to a number, halves away from zero;
what is out of range counts as the nearer end, and no number as zero.
-/
def toUnsigned64 : Binary64 → Nat
  | .finite true _ _ => 0
  | .finite false significand exponent =>
    min (roundedMagnitude significand exponent) largestUnsigned
  | .infinite negative => if negative then 0 else largestUnsigned
  | .undefined => 0

example : ofDigits false 1 (-1) =
    .finite false 7205759403792794 (-56) := by decide +kernel
example : ofNat 1 = .finite false 4503599627370496 (-52) := by decide +kernel

end Binary64

end MandateDesk
