import MandateDesk.Binary64.Basic
import MandateDesk.Text.Digits

/-!
# Shortest texts of floating-point numbers

A finite number is written with the fewest digits that read back as the same
number; of two such texts of one length the nearer to the exact value is
taken, and of two equally near ones the larger. Notation is positional,
whatever the size, and an integer has no point.
-/

namespace MandateDesk.Binary64

/-- Significant digits and the power of ten that they are multiplied by. -/
structure Digits where
  /-- The digits. -/
  digits : Nat
  /-- The power of ten. -/
  exponent : Int

/-- Number of digits in front of the point, less one, of a positive quotient. -/
def leadingExponent (numerator denominator : Nat) : Int :=
  if denominator ≤ numerator then
    ((Text.digits (numerator / denominator)).length : Int) - 1
  else
    let inverse := (Text.digits (denominator / numerator)).length
    if denominator ≤ numerator * tenTo (inverse - 1) then
      1 - (inverse : Int)
    else -(inverse : Int)

/-- The whole part of a quotient over a power of ten. -/
def gridBelow (numerator denominator : Nat) (exponent : Int) : Nat :=
  if exponent < 0 then numerator * tenTo (-exponent).toNat / denominator
  else numerator / (denominator * tenTo exponent.toNat)

/-- Whether a point of a decimal grid is below the middle of its cell. -/
def nearerBelow (numerator denominator : Nat) (exponent : Int) : Bool :=
  if exponent < 0 then
    let scaled := numerator * tenTo (-exponent).toNat
    2 * (scaled % denominator) < denominator
  else
    let divisor := denominator * tenTo exponent.toNat
    2 * (numerator % divisor) < divisor

/-- The neighbours of a quotient on a decimal grid, the nearer one first. -/
def neighbours
    (numerator denominator : Nat)
    (exponent : Int) :
    List Digits :=
  let below := gridBelow numerator denominator exponent
  if nearerBelow numerator denominator exponent then
    [⟨below, exponent⟩, ⟨below + 1, exponent⟩]
  else [⟨below + 1, exponent⟩, ⟨below, exponent⟩]

/--
The fewest digits that read back as a positive finite number. The search
starts on the grid of the next power of ten, to which a number just below it
may round.
-/
def shortest (significand : Nat) (exponent : Int) : Digits :=
  let top := numerator significand exponent
  let bottom := denominator exponent
  let leading := leadingExponent top bottom
  let written := (List.range 18).findSome? fun (count : Nat) =>
    (neighbours top bottom (leading + 1 - count)).find? fun candidate =>
      ofDigits false candidate.digits candidate.exponent ==
        .finite false significand exponent
  written.getD ⟨top / bottom, 0⟩

/-- Digits in positional notation, without zeros behind the point. -/
def positional (number : Digits) : List Char :=
  if 0 ≤ number.exponent then
    Text.digits (number.digits * tenTo number.exponent.toNat)
  else
    let places := (-number.exponent).toNat
    let written := Text.padded (places + 1) number.digits
    written.take (written.length - places) ++
      '.' :: written.drop (written.length - places)

/-- A finite magnitude in positional notation. -/
def magnitudeText (significand : Nat) (exponent : Int) : List Char :=
  if significand = 0 then ['0']
  else positional (shortest significand exponent)

/-- The text of a number. -/
def text : Binary64 → String
  | .finite negative significand exponent =>
    String.ofList
      ((if negative then ['-'] else []) ++
        magnitudeText significand exponent)
  | .infinite negative => if negative then "-inf" else "inf"
  | .undefined => "NaN"

end MandateDesk.Binary64
