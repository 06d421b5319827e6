import MandateDesk.Decimal.Arithmetic
import MandateDesk.Text.Digits

/-!
# Reading decimal numbers

The positional form is an optional sign, then digits with at most one point
among them; underscores may stand behind the first digit. The scale is the
number of fraction digits. A fraction digit for which the scale or the
mantissa has no room is not taken: it rounds the digits in front of it, and
what follows it has no weight. In front of the point there is no rounding. A
number with a short mantissa also ends at an underscore behind its last
possible fraction digit, and is then not rounded.

A text that is not of this form may still have an exponent: a number in
positional form, the letter `e` in either case, and a count of at most 28
digits by which the point moves.
-/

namespace MandateDesk.Decimal

/-- What has been read of a number in positional form. -/
structure Reading where
  /-- Whether it began with a minus sign. -/
  negative : Bool
  /-- The digits read so far. -/
  mantissa : Nat
  /-- Number of fraction digits among them. -/
  scale : Nat
  /-- Whether the point has been read. -/
  pointed : Bool
  /-- Whether a digit has been read. -/
  started : Bool

/-- The number that a reading stands for, if it holds a digit. -/
def Reading.number (reading : Reading) : Option Decimal :=
  if reading.started then
    if bounded : reading.mantissa < mantissaBound ∧ reading.scale ≤ 28 then
      some
        (signed reading.negative reading.mantissa reading.scale
          bounded.1 bounded.2)
    else none
  else none

/-- Whether only digits and underscores are left. -/
def onlyDigits (text : List Char) : Bool :=
  text.all fun character => Text.isDigit character || character == '_'

/--
The number at which a reading ends when a further fraction digit is only
rounded by. A mantissa that outgrows its width gives up a digit.
-/
def Reading.roundedBy (reading : Reading) (digit : Nat) : Option Decimal :=
  if digit < 5 then reading.number
  else if reading.mantissa + 1 < mantissaBound then
    { reading with mantissa := reading.mantissa + 1 }.number
  else if reading.scale = 0 then none
  else
    { reading with
      mantissa := (reading.mantissa + 5) / 10
      scale := reading.scale - 1 }.number

/-- The bound of the mantissas to which a digit is added within one word. -/
def shortBound : Nat := 1844674407370954906

/--
Whether an underscore ends a reading: there is no room for a further fraction
digit, and the last one was added to a short mantissa.
-/
def Reading.endsAtUnderscore (reading : Reading) : Bool :=
  reading.scale == 28 && reading.mantissa / 10 < shortBound

/-- Reads the rest of a number in positional form. -/
def readFrom (reading : Reading) : List Char → Option Decimal
  | [] => reading.number
  | first :: rest =>
    if Text.isDigit first then
      let longer := reading.mantissa * 10 + Text.digitValue first
      if longer < mantissaBound && reading.scale != 28 then
        readFrom
          { reading with
            mantissa := longer
            scale := if reading.pointed then reading.scale + 1 else 0
            started := true }
          rest
      else if reading.pointed && onlyDigits rest then
        reading.roundedBy (Text.digitValue first)
      else none
    else if first == '.' && !reading.pointed then
      readFrom { reading with pointed := true } rest
    else if first == '_' && reading.started then
      if reading.endsAtUnderscore then
        if onlyDigits rest then reading.number else none
      else readFrom reading rest
    else none

/-- Reads a number in positional form. -/
def readPositional (text : List Char) : Option Decimal :=
  match text with
  | '-' :: rest => readFrom ⟨true, 0, 0, false, false⟩ rest
  | '+' :: rest => readFrom ⟨false, 0, 0, false, false⟩ rest
  | other => readFrom ⟨false, 0, 0, false, false⟩ other

/-- A number rounded to fewer fraction digits, halves away from zero. -/
def roundedTo (number : Decimal) (scale : Nat) : Option Decimal :=
  let divisor := tenTo (number.scale - scale)
  ofParts? number.negative ((2 * number.mantissa + divisor) / (2 * divisor))
    scale

/-- Moves the point to the left. -/
def shiftedLeft (number : Decimal) (count : Nat) : Option Decimal :=
  if number.scale + count ≤ 28 then
    ofParts? number.negative number.mantissa (number.scale + count)
  else do
    let rounded ← roundedTo number (28 - count)
    ofParts? rounded.negative rounded.mantissa 28

/-- Divides zeros off the end of a mantissa while there are fraction digits. -/
def withoutTrailingZeros : (scale mantissa : Nat) → Nat × Nat
  | 0, mantissa => (mantissa, 0)
  | scale + 1, mantissa =>
    if mantissa % 10 = 0 then withoutTrailingZeros scale (mantissa / 10)
    else (mantissa, scale + 1)

/-- The same value with the fewest fraction digits. -/
def normalized (number : Decimal) : Option Decimal :=
  let kept := withoutTrailingZeros number.scale number.mantissa
  ofParts? (number.negative && number.mantissa != 0) kept.1 kept.2

/-- Moves the point to the right. -/
def shiftedRight (number : Decimal) (count : Nat) : Option Decimal :=
  if count ≤ number.scale then
    ofParts? number.negative number.mantissa (number.scale - count)
  else do
    let power ← ofParts? false (tenTo count) 0
    let product ← mul? number power
    normalized product

/-- The count of an exponent: at most 28. -/
def exponent? (text : List Char) : Option Nat :=
  (Text.unsigned? Text.bound32 text).filter (· ≤ 28)

/-- Whether a character separates a number from its exponent. -/
def isExponentMark (character : Char) : Bool :=
  character == 'e' || character == 'E'

/-- Reads a number with an exponent. -/
def readScientific (text : List Char) : Option Decimal := do
  let base ← readPositional (text.takeWhile (!isExponentMark ·))
  match text.dropWhile (!isExponentMark ·) with
  | [] => none
  | _ :: '-' :: written => shiftedLeft base (← exponent? written)
  | _ :: written => shiftedRight base (← exponent? written)

/-- Reads a number in positional form or with an exponent. -/
def readCharacters (text : List Char) : Option Decimal :=
  (readPositional text).orElse fun _ => readScientific text

/-- Reads a number in positional form or with an exponent. -/
def read? (text : String) : Option Decimal :=
  readCharacters text.toList

example : (readPositional "-0.50".toList).map (·.scale) = some 2 := by decide
example : (readPositional "_1".toList).isNone = true := by decide
example : (readPositional "5.".toList).map (·.mantissa) = some 5 := by decide

end MandateDesk.Decimal
