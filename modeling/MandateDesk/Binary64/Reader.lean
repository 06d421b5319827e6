import MandateDesk.Binary64.Basic
import MandateDesk.Text.Digits
import MandateDesk.Text.Keyword

/-!
# Reading floating-point numbers

A number is written with an optional sign, digits with at most one point, and
an optional power of ten. The words `inf`, `infinity` and `nan` in any case
are numbers, too.
-/

namespace MandateDesk.Binary64

/-- Beyond this power of ten on either side a number is infinite or zero. -/
def widestPower : Int := 400

/-- The number nearest to `digits * 10 ^ exponent`, for any exponent. -/
def ofScaled (negative : Bool) (digits : Nat) (exponent : Int) : Binary64 :=
  let leading := exponent + (Text.digits digits).length
  if digits = 0 ∨ leading < -widestPower then
    .finite negative 0 leastExponent
  else if widestPower < leading then .infinite negative
  else ofDigits negative digits exponent

/-- The value of a sign and digits as a power. -/
def power? : List Char → Option Int
  | '-' :: rest => (Text.value? rest).map fun number => -(number : Int)
  | '+' :: rest => (Text.value? rest).map Int.ofNat
  | other => (Text.value? other).map Int.ofNat

/-- Whether a character begins a power of ten. -/
def isPowerMark (character : Char) : Bool :=
  character == 'e' || character == 'E'

/-- Reads a magnitude that is written in digits. -/
def readDigits (negative : Bool) (text : List Char) : Option Binary64 := do
  let mantissa := text.takeWhile fun character => !isPowerMark character
  let exponent ←
    match text.drop mantissa.length with
    | [] => some 0
    | _ :: power => power? power
  let whole := mantissa.takeWhile fun character => character != '.'
  let fraction := (mantissa.drop whole.length).drop 1
  let digits ← Text.value? (whole ++ fraction)
  return ofScaled negative digits (exponent - fraction.length)

/-- Reads a magnitude. -/
def readMagnitude (negative : Bool) (text : List Char) : Option Binary64 :=
  let word := Text.lowerCase (String.ofList text)
  if word = "inf" ∨ word = "infinity" then some (.infinite negative)
  else if word = "nan" then some .undefined
  else readDigits negative text

/-- Reads a number. -/
def readCharacters : List Char → Option Binary64
  | '-' :: rest => readMagnitude true rest
  | '+' :: rest => readMagnitude false rest
  | other => readMagnitude false other

/-- Reads a number. -/
def read? (text : String) : Option Binary64 :=
  readCharacters text.toList

example : read? "12.0" = some (ofNat 12) := by decide +kernel
example : read? "." = none := by decide
example : read? "-InF" = some (.infinite true) := by decide

end MandateDesk.Binary64
