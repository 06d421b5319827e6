import MandateDesk.Json.Value
import MandateDesk.Text.Digits

/-!
# Reading JSON values

Each reader takes a value, or a part of one, from the front of a text and
returns the rest; `read?` accepts a text that holds one value between blanks.
Values may be nested up to a depth.

An integer that fits 64 bits is read exactly. Any other number is read from
its first digits, as many as fit 64 bits, and a power of ten: the digits are
rounded to a floating-point number, which is then multiplied or divided once
by the rounded power. What follows the digits that fit has no weight.
-/

namespace MandateDesk.Json

/-- Whether a character may stand between the parts of a value. -/
def isGap (character : Char) : Bool :=
  character == ' ' || character == '\n' || character == '\t' ||
    character == '\r'

/-- A text without the blanks in front of it. -/
def skipGap (text : List Char) : List Char :=
  text.dropWhile isGap

/-- Whether a word stands at the front of a text, and what follows it. -/
def afterWord (word : List Char) (text : List Char) : Option (List Char) :=
  if text.take word.length = word then some (text.drop word.length) else none

/-- The number that four hexadecimal digits stand for. -/
def hexWord? (a b c d : Char) : Option Nat := do
  let digits ← [a, b, c, d].mapM Text.hexDigit?
  return digits.foldl (fun known digit => 16 * known + digit) 0

/-- The character that a letter behind a backslash stands for. -/
def escapeLetter? (character : Char) : Option Char :=
  if character = '"' ∨ character = '\\' ∨ character = '/' then some character
  else if character = 'b' then some '\x08'
  else if character = 'f' then some '\x0C'
  else if character = 'n' then some '\n'
  else if character = 'r' then some '\r'
  else if character = 't' then some '\t'
  else none

/-- Whether a number is the first half of a pair that names a character. -/
def isUpperHalf (number : Nat) : Bool :=
  0xD800 ≤ number && number < 0xDC00

/-- Whether a number is the second half of a pair that names a character. -/
def isLowerHalf (number : Nat) : Bool :=
  0xDC00 ≤ number && number < 0xE000

/-- The character that a pair of halves names. -/
def pairedCharacter (upper lower : Nat) : Char :=
  Char.ofNat (0x10000 + (upper - 0xD800) * 0x400 + (lower - 0xDC00))

/-- Takes the rest of a text value, up to its closing quote. -/
def takeString : List Char → Option (List Char × List Char)
  | '"' :: rest => some ([], rest)
  | '\\' :: 'u' :: a :: b :: c :: d :: rest => do
    let number ← hexWord? a b c d
    if isUpperHalf number then
      match rest with
      | '\\' :: 'u' :: e :: f :: g :: h :: left =>
        let other ← hexWord? e f g h
        if isLowerHalf other then
          let (read, left) ← takeString left
          return (pairedCharacter number other :: read, left)
        else none
      | _ => none
    else if isLowerHalf number then none
    else
      let (read, left) ← takeString rest
      return (Char.ofNat number :: read, left)
  | '\\' :: letter :: rest => do
    let character ← escapeLetter? letter
    let (read, left) ← takeString rest
    return (character :: read, left)
  | first :: rest =>
    if first.toNat < 32 ∨ first = '\\' then none
    else do
      let (read, left) ← takeString rest
      return (first :: read, left)
  | [] => none

/-- Digits that fit 64 bits, and how far the others move the point. -/
structure Significand where
  /-- The digits. -/
  digits : Nat
  /-- The power of ten that they are multiplied by. -/
  exponent : Int

/-- Takes integer digits; those that no longer fit only move the point. -/
def takeInteger (read : Significand) : List Char → Significand × List Char
  | [] => (read, [])
  | first :: rest =>
    if Text.isDigit first then
      let longer := read.digits * 10 + Text.digitValue first
      if read.exponent = 0 ∧ longer < Text.bound64 then
        takeInteger ⟨longer, 0⟩ rest
      else takeInteger ⟨read.digits, read.exponent + 1⟩ rest
    else (read, first :: rest)

/-- Takes fraction digits up to the first that no longer fits. -/
def takeFraction (read : Significand) : List Char → Significand × List Char
  | [] => (read, [])
  | first :: rest =>
    if Text.isDigit first then
      let longer := read.digits * 10 + Text.digitValue first
      if longer < Text.bound64 then
        takeFraction ⟨longer, read.exponent - 1⟩ rest
      else (read, rest.dropWhile Text.isDigit)
    else (read, first :: rest)

/-- Takes the count of an exponent. -/
def takeExponent (text : List Char) : Option (Int × List Char) :=
  let taken (negative : Bool) (digits : List Char) :
      Option (Int × List Char) := do
    let written := digits.takeWhile Text.isDigit
    let count ← Text.value? written
    return (if negative then -(count : Int) else count,
      digits.drop written.length)
  match text with
  | '+' :: rest => taken false rest
  | '-' :: rest => taken true rest
  | other => taken false other

/-- The largest power of ten that is a finite number. -/
def largestPower : Nat := 308

/--
A number times a power of ten, if it is finite. Small powers are divided by in
steps, of which three leave nothing.
-/
def scaledBy (number : Binary64) (exponent : Int) : Nat → Option Binary64
  | 0 => some number
  | steps + 1 =>
    if exponent.natAbs ≤ largestPower then
      if 0 ≤ exponent then
        let product := number.mul (Binary64.powerOfTen exponent.natAbs)
        if product.isFinite then some product else none
      else some (number.div (Binary64.powerOfTen exponent.natAbs))
    else if number.isZero then some number
    else if 0 ≤ exponent then none
    else
      scaledBy (number.div (Binary64.powerOfTen largestPower))
        (exponent + largestPower) steps

/-- The floating-point number that digits stand for. -/
def Significand.float
    (read : Significand)
    (negative : Bool) :
    Option Json := do
  let magnitude ← scaledBy (Binary64.ofNat read.digits) read.exponent 4
  return .float (if negative then magnitude.opposite else magnitude)

/-- The integer that digits stand for, or a floating-point number. -/
def Significand.integer
    (read : Significand)
    (negative : Bool) :
    Option Json :=
  if read.exponent ≠ 0 then read.float negative
  else if negative then
    if read.digits = 0 ∨ Text.bound63 < read.digits then read.float true
    else some (.integer (-(read.digits : Int)))
  else some (.integer read.digits)

/-- Takes an exponent, if there is one, and gives the number. -/
def takeScale
    (negative : Bool)
    (read : Significand)
    (text : List Char) :
    Option (Json × List Char) :=
  let scaled (rest : List Char) : Option (Json × List Char) := do
    let (exponent, left) ← takeExponent rest
    let value ←
      Significand.float ⟨read.digits, read.exponent + exponent⟩ negative
    return (value, left)
  match text with
  | 'e' :: rest => scaled rest
  | 'E' :: rest => scaled rest
  | other => do
    let value ← read.float negative
    return (value, other)

/-- Takes what follows the integer digits of a number. -/
def takeNumberEnd
    (negative : Bool)
    (read : Significand)
    (text : List Char) :
    Option (Json × List Char) :=
  match text with
  | '.' :: first :: rest =>
    if Text.isDigit first then
      let (longer, left) := takeFraction read (first :: rest)
      takeScale negative longer left
    else none
  | '.' :: [] => none
  | 'e' :: rest => takeScale negative read ('e' :: rest)
  | 'E' :: rest => takeScale negative read ('E' :: rest)
  | other => do
    let value ← read.integer negative
    return (value, other)

/-- Takes the magnitude of a number, which has no leading zero. -/
def takeMagnitude
    (negative : Bool)
    (text : List Char) :
    Option (Json × List Char) :=
  match text with
  | '0' :: first :: rest =>
    if Text.isDigit first then none
    else takeNumberEnd negative ⟨0, 0⟩ (first :: rest)
  | '0' :: [] => takeNumberEnd negative ⟨0, 0⟩ []
  | first :: rest =>
    if Text.isDigit first then
      let (read, left) := takeInteger ⟨0, 0⟩ (first :: rest)
      takeNumberEnd negative read left
    else none
  | [] => none

/-- Takes the rest of a list whose first item is still to come. -/
def takeItems
    (takeOne : List Char → Option (Json × List Char)) :
    (fuel : Nat) → List Char → Option (List Json × List Char)
  | 0, _ => none
  | fuel + 1, text => do
    let (item, rest) ← takeOne (skipGap text)
    match skipGap rest with
    | ']' :: left => return ([item], left)
    | ',' :: left =>
      let (items, left) ← takeItems takeOne fuel left
      return (item :: items, left)
    | _ => none

/-- Takes the rest of an object whose first field is still to come. -/
def takeFields
    (takeOne : List Char → Option (Json × List Char)) :
    (fuel : Nat) → List Char → Option (List (String × Json) × List Char)
  | 0, _ => none
  | fuel + 1, text => do
    match skipGap text with
    | '"' :: rest =>
      let (name, rest) ← takeString rest
      match skipGap rest with
      | ':' :: rest =>
        let (value, rest) ← takeOne (skipGap rest)
        match skipGap rest with
        | '\x7d' :: left => return ([(String.ofList name, value)], left)
        | ',' :: left =>
          let (fields, left) ← takeFields takeOne fuel left
          return ((String.ofList name, value) :: fields, left)
        | _ => none
      | _ => none
    | _ => none

/-- Takes a value that is nested less deeply than a depth. -/
def takeValue : (depth : Nat) → List Char → Option (Json × List Char)
  | 0, _ => none
  | depth + 1, text =>
    match text with
    | 'n' :: rest => (afterWord "ull".toList rest).map (null, ·)
    | 't' :: rest => (afterWord "rue".toList rest).map (boolean true, ·)
    | 'f' :: rest => (afterWord "alse".toList rest).map (boolean false, ·)
    | '"' :: rest =>
      (takeString rest).map fun (read, left) =>
        (string (String.ofList read), left)
    | '[' :: rest =>
      if depth = 0 then none
      else
        match skipGap rest with
        | ']' :: left => some (array [], left)
        | other =>
          (takeItems (takeValue depth) other.length other).map
            fun (items, left) => (array items, left)
    | '\x7b' :: rest =>
      if depth = 0 then none
      else
        match skipGap rest with
        | '\x7d' :: left => some (object [], left)
        | other =>
          (takeFields (takeValue depth) other.length other).map
            fun (fields, left) => (object fields, left)
    | '-' :: rest => takeMagnitude true rest
    | other => takeMagnitude false other

/-- The number of levels that a value may have. -/
def depthLimit : Nat := 128

/-- Reads a text that holds one value between blanks. -/
def readCharacters (text : List Char) : Option Json := do
  let (value, rest) ← takeValue depthLimit (skipGap text)
  if rest.all isGap then some value else none

/-- Reads a text that holds one value between blanks. -/
def read? (text : String) : Option Json :=
  readCharacters text.toList

end MandateDesk.Json
