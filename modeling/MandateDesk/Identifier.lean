import MandateDesk.KeyOrder
import MandateDesk.Text.Digits

/-!
# Identifiers

An identifier is a number of 128 bits. It is written as 32 lower-case
hexadecimal digits in groups of eight, four, four, four and twelve, joined by
hyphens. It is read from digits in either case, with or without the hyphens;
the form with hyphens may stand in braces or behind `urn:uuid:`, the letters
of which may be of either case.
-/

namespace MandateDesk

/-- The bound of the numbers of 128 bits: two to the power of 128. -/
abbrev Identifier.bound : Nat := 340282366920938463463374607431768211456

/-- A number of 128 bits that names a thing. -/
structure Identifier where
  /-- The number. -/
  value : Nat
  /-- The number has at most 128 bits. -/
  value_lt : value < Identifier.bound
deriving DecidableEq

namespace Identifier

/-- The identifier whose bits are all zero. -/
def nil : Identifier :=
  ⟨0, by decide⟩

instance : Inhabited Identifier :=
  ⟨nil⟩

theorem ext
    {first second : Identifier}
    (same : first.value = second.value) :
    first = second := by
  cases first
  cases second
  cases same
  rfl

instance : Ord Identifier :=
  ⟨byKey value⟩

instance : Std.TransOrd Identifier :=
  byKey_trans value

instance : Std.LawfulEqOrd Identifier :=
  byKey_lawful fun _ _ => ext

/-- Reads hexadecimal digits after a number that is already known. -/
def hexAfter (known : Nat) : List Char → Option Nat
  | [] => some known
  | first :: rest => do
    let digit ← Text.hexDigit? first
    hexAfter (16 * known + digit) rest

/-- The identifier that hexadecimal digits stand for. -/
def ofDigits? (digits : List Char) : Option Identifier := do
  let value ← hexAfter 0 digits
  if bounded : value < bound then some ⟨value, bounded⟩ else none

/-- The positions of the hyphens among 36 characters. -/
def hyphenPositions : List Nat := [8, 13, 18, 23]

/-- Reads 36 characters with hyphens at their places. -/
def readHyphenated (text : List Char) : Option Identifier :=
  if text.length = 36 ∧
      hyphenPositions.all fun position => text[position]? == some '-' then
    ofDigits?
      (text.take 8 ++ (text.drop 9).take 4 ++ (text.drop 14).take 4 ++
        (text.drop 19).take 4 ++ text.drop 24)
  else none

/-- The word in front of an identifier that is written as a name. -/
def namePrefix : List Char := "urn:uuid:".toList

/-- Reads an identifier in any of its written forms. -/
def readCharacters (text : List Char) : Option Identifier :=
  if text.length = 32 then ofDigits? text
  else if text.length = 36 then readHyphenated text
  else if text.length = 38 then
    if text.head? = some '\x7b' ∧ text.getLast? = some '\x7d' then
      readHyphenated ((text.drop 1).take 36)
    else none
  else if (text.take 9).map Char.toLower = namePrefix then
    readHyphenated (text.drop 9)
  else none

/-- Reads an identifier in any of its written forms. -/
def read? (text : String) : Option Identifier :=
  readCharacters text.toList

/-- The hexadecimal digits of a number on a fixed width. -/
def hexDigits (number : Nat) : (width : Nat) → List Char
  | 0 => []
  | width + 1 => hexDigits (number / 16) width ++ [Nat.digitChar (number % 16)]

/-- The written form of an identifier. -/
def characters (identifier : Identifier) : List Char :=
  let digits := hexDigits identifier.value 32
  digits.take 8 ++ '-' :: (digits.drop 8).take 4 ++
    '-' :: (digits.drop 12).take 4 ++ '-' :: (digits.drop 16).take 4 ++
    '-' :: digits.drop 20

/-- The text of an identifier. -/
def text (identifier : Identifier) : String :=
  String.ofList identifier.characters

instance : ToString Identifier :=
  ⟨text⟩

example : readCharacters nil.characters = some nil := by decide

end Identifier

end MandateDesk
