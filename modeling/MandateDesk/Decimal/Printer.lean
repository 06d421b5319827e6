import MandateDesk.Decimal.Basic
import MandateDesk.Text.Digits

/-!
# The text of a decimal number

A number is written with exactly as many fraction digits as its scale says,
with at least one digit in front of the point, and with a minus sign whenever
it carries one, also on a zero.
-/

namespace MandateDesk.Decimal

/-- The digits of a number with a point in front of the last few. -/
def pointed (mantissa scale : Nat) : List Char :=
  let written := Text.padded (scale + 1) mantissa
  let integer := written.take (written.length - scale)
  if scale = 0 then written
  else integer ++ '.' :: written.drop (written.length - scale)

/-- The characters of a number in positional notation. -/
def characters (number : Decimal) : List Char :=
  if number.negative then '-' :: pointed number.mantissa number.scale
  else pointed number.mantissa number.scale

/-- The text of a number in positional notation. -/
def text (number : Decimal) : String :=
  String.ofList number.characters

instance : ToString Decimal :=
  ⟨text⟩

example : pointed 5 2 = ['0', '.', '0', '5'] := by decide
example : pointed 250 2 = ['2', '.', '5', '0'] := by decide
example : pointed 0 0 = ['0'] := by decide

end MandateDesk.Decimal
