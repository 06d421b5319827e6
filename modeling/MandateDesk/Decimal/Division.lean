import MandateDesk.Decimal.Arithmetic

/-!
# Division of decimal numbers

Long division on mantissas. A state of the division holds the digits found so
far, the remainder and the scale, which may be negative while digits in front
of the point are still missing. Each step appends up to nine digits, as many
as the mantissa can take.

The division ends when nothing remains, or when no further digit can be
appended; then the last digit is rounded, a half to the even neighbour. A
quotient that did not come out at once loses some of its trailing zeros:
blocks of eight, four, two and one, each tested once.
-/

namespace MandateDesk.Decimal

/-- The digits of a quotient found so far. -/
structure Quotient where
  /-- The digits without the point. -/
  digits : Nat
  /-- What is left to divide. -/
  remainder : Nat
  /-- Number of fraction digits; negative while integer digits are missing. -/
  scale : Int
  /-- Whether a remainder was left at some point. -/
  inexact : Bool

/-- Drops a block of zeros from the end of a number with fraction digits. -/
def dropZeros (count factor : Nat) (number : Nat × Nat) : Nat × Nat :=
  if number.1 % factor = 0 ∧ count ≤ number.2 ∧ number.1 % tenTo count = 0 then
    (number.1 / tenTo count, number.2 - count)
  else number

/-- A quotient without some of its trailing zeros behind the point. -/
def stripZeros (number : Nat × Nat) : Nat × Nat :=
  let eights :=
    dropZeros 8 (wordBound)
      (dropZeros 8 (wordBound) (dropZeros 8 (wordBound) number))
  dropZeros 1 2 (dropZeros 2 4 (dropZeros 4 16 eights))

/-- The number that a finished division stands for. -/
def finished
    (negative inexact : Bool)
    (digits : Nat)
    (scale : Int) :
    Option Decimal :=
  let kept :=
    if inexact then stripZeros (digits, scale.toNat)
    else (digits, scale.toNat)
  if bounded : kept.1 < mantissaBound ∧ kept.2 ≤ 28 then
    some (signed negative kept.1 kept.2 bounded.1 bounded.2)
  else none

/--
Gives up the last digit of a quotient that outgrew the mantissa. `sticky`
says that the exact quotient is larger than the digits show.
-/
def withoutLastDigit
    (negative inexact sticky : Bool)
    (digits : Nat)
    (scale : Int) :
    Option Decimal :=
  if scale ≤ 0 then none
  else
    let shorter := digits / 10
    let dropped := digits % 10
    let rounded :=
      if 5 < dropped ∨ (dropped = 5 ∧ (sticky ∨ shorter % 2 = 1)) then
        shorter + 1
      else shorter
    finished negative inexact rounded (scale - 1)

/-- Rounds the last digit of a quotient by its remainder. -/
def roundedQuotient
    (negative : Bool)
    (divisor : Nat)
    (state : Quotient) :
    Option Decimal :=
  let twice := 2 * state.remainder
  if divisor < twice ∨ (twice = divisor ∧ state.digits % 2 = 1) then
    if state.digits + 1 < mantissaBound then
      finished negative state.inexact (state.digits + 1) state.scale
    else
      withoutLastDigit negative state.inexact true
        (state.digits + 1) state.scale
  else finished negative state.inexact state.digits state.scale

/-- The most digits, up to a bound, that a mantissa can still take. -/
def roomFor (digits : Nat) : Nat → Nat
  | 0 => 0
  | count + 1 =>
    if digits * tenTo (count + 1) < mantissaBound then count + 1
    else roomFor digits count

/-- What a division does next. -/
inductive DivisionStep where
  /-- The quotient is exact. -/
  | stop
  /-- No further digit can be appended. -/
  | round
  /-- Appends a number of digits. -/
  | extend (count : Nat)
  /-- The quotient is out of range. -/
  | overflow

/-- A mantissa whose part above its lower 64 bits is larger takes no digit. -/
def crowdedPart : Nat := 429496729

/-- The weight of the lowest bit above the lower 64 of a mantissa. -/
abbrev upperPart : Nat := 18446744073709551616

/-- Chooses the next step of a division. -/
def nextStep (state : Quotient) : DivisionStep :=
  if state.remainder = 0 then
    if 0 ≤ state.scale then .stop
    else .extend (min 9 (-state.scale).toNat)
  else if state.scale = 28 then .round
  else if crowdedPart < state.digits / upperPart then
    if state.scale < 0 then .overflow else .round
  else
    let count := roomFor state.digits (min 9 (28 - state.scale).toNat)
    if count < 9 ∧ (count : Int) + state.scale < 0 then .overflow
    else if count = 0 then .round
    else .extend count

/-- A state of a division after appending digits, of any size. -/
def extended (divisor count : Nat) (state : Quotient) : Quotient :=
  let carried := state.remainder * tenTo count
  { digits := state.digits * tenTo count + carried / divisor
    remainder := carried % divisor
    scale := state.scale + count
    inexact := state.inexact || state.remainder != 0 }

/-- Runs a division; every step appends at least one of at most 56 digits. -/
def divideFrom
    (negative : Bool)
    (divisor : Nat) :
    (fuel : Nat) → Quotient → Option Decimal
  | 0, _ => none
  | fuel + 1, state =>
    match nextStep state with
    | .stop => finished negative state.inexact state.digits state.scale
    | .round =>
      roundedQuotient negative divisor { state with inexact := true }
    | .overflow => none
    | .extend count =>
      if state.digits * tenTo count < mantissaBound then
        let next := extended divisor count state
        if next.digits < mantissaBound then
          divideFrom negative divisor fuel next
        else
          withoutLastDigit negative next.inexact (next.remainder != 0)
            next.digits next.scale
      else none

/-- Number of steps that every division ends within. -/
def divisionSteps : Nat := 58

/-- The quotient, or nothing when the divisor is zero or it is out of range. -/
def div? (first second : Decimal) : Option Decimal :=
  if second.isZero then none
  else if first.isZero then some zero
  else
    divideFrom (first.negative != second.negative) second.mantissa
      divisionSteps
      { digits := first.mantissa / second.mantissa
        remainder := first.mantissa % second.mantissa
        scale := (first.scale : Int) - second.scale
        inexact := false }

theorem div?_zero_right
    (first : Decimal)
    {second : Decimal}
    (absent : second.isZero = true) :
    div? first second = none := by
  simp [div?, absent]

end MandateDesk.Decimal
