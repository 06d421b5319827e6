/-!
# Digits

This module reads and writes natural numbers in base ten. `value?` gives the
number that a list of digits denotes, `digits` the digits of a number without
a leading zero, and `padded` the digits on a fixed width.

Unsigned fields of a bounded width have a grammar of their own: an optional
plus sign, then at least one digit, and a value below the bound.
-/

namespace MandateDesk.Text

/-- Whether a character is an ASCII digit. -/
def isDigit (character : Char) : Bool :=
  '0' ≤ character && character ≤ '9'

/-- The number that one ASCII digit stands for. -/
def digitValue (character : Char) : Nat :=
  character.toNat - '0'.toNat

/-- Reads digits after a number that is already known. -/
def valueAfter (known : Nat) : List Char → Option Nat
  | [] => some known
  | first :: rest =>
    if isDigit first then valueAfter (10 * known + digitValue first) rest
    else none

/-- The number that a nonempty list of digits denotes. -/
def value? : List Char → Option Nat
  | [] => none
  | first :: rest => valueAfter 0 (first :: rest)

/-- The digits of a number in base ten, without a leading zero. -/
def digits (number : Nat) : List Char :=
  Nat.toDigits 10 number

/-- A number in base ten. -/
def decimalText (number : Nat) : String :=
  String.ofList (digits number)

/-- The digits of a number, with zeros in front up to a width. -/
def padded (width number : Nat) : List Char :=
  let written := digits number
  List.replicate (width - written.length) '0' ++ written

/-- An integer in base ten, with a minus sign when it is negative. -/
def integerText (number : Int) : String :=
  if number < 0 then "-" ++ decimalText number.natAbs
  else decimalText number.natAbs

/-- Reads an unsigned number below a bound: digits after an optional plus. -/
def unsigned? (bound : Nat) (text : List Char) : Option Nat :=
  let written :=
    match text with
    | '+' :: rest => rest
    | other => other
  (value? written).filter (· < bound)

/-- The bound of unsigned fields of 32 bits: two to the power of 32. -/
abbrev bound32 : Nat := 4294967296

/-- The bound of signed fields of 64 bits: two to the power of 63. -/
abbrev bound63 : Nat := 9223372036854775808

/-- The bound of unsigned fields of 64 bits: two to the power of 64. -/
abbrev bound64 : Nat := 18446744073709551616

/-- Reads a signed number of 64 bits: digits after an optional sign. -/
def signed64? (text : List Char) : Option Int :=
  match text with
  | '-' :: rest =>
    ((value? rest).filter (· ≤ bound63)).map fun number => -(number : Int)
  | '+' :: rest =>
    ((value? rest).filter (· < bound63)).map Int.ofNat
  | other => ((value? other).filter (· < bound63)).map Int.ofNat

/-- The value of a hexadecimal digit in either case. -/
def hexDigit? (character : Char) : Option Nat :=
  if isDigit character then some (digitValue character)
  else if 'a' ≤ character ∧ character ≤ 'f' then
    some (character.toNat - 'a'.toNat + 10)
  else if 'A' ≤ character ∧ character ≤ 'F' then
    some (character.toNat - 'A'.toNat + 10)
  else none

/--
An unsigned field of 64 bits where a signed one is expected: the upper half
of the range stands for the negative numbers.
-/
def asSigned64 (number : Nat) : Int :=
  if number % bound64 < bound63 then (number % bound64 : Nat)
  else (number % bound64 : Nat) - (bound64 : Nat)

@[simp]
theorem valueAfter_nil
    (known : Nat) :
    valueAfter known [] = some known :=
  rfl

theorem valueAfter_append
    (known : Nat)
    (first second : List Char) :
    valueAfter known (first ++ second) =
      (valueAfter known first).bind fun middle =>
        valueAfter middle second := by
  induction first generalizing known with
  | nil => simp
  | cons head tail hypothesis =>
    by_cases digit : isDigit head = true
    · simp [valueAfter, digit, hypothesis]
    · simp [valueAfter, digit]

example : value? ['0', '4', '2'] = some 42 := by decide
example : padded 3 7 = ['0', '0', '7'] := by decide
example : unsigned? bound32 "+5".toList = some 5 := by decide
example : asSigned64 (bound64 - 1) = -1 := by decide

end MandateDesk.Text
