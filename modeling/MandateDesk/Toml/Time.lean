import MandateDesk.Instant.Calendar
import MandateDesk.Text.Digits

/-!
# Dates and times of a document

A date, a time of day, both, or both with an offset are values of their own.
They count by their text, which is written in one way: `T` between date and
time, `Z` for no offset, and a fraction of at most nine digits without zeros
at its end. An offset of no minutes has a plus sign.

A text can be marked as a time. It is then read in the same way, but within
wider bounds: an hour may be the 24th, and an offset is bounded as a whole.
-/

namespace MandateDesk.Toml

/-- Takes a number with a fixed count of digits. -/
def takeFixed (width : Nat) (text : List Char) : Option (Nat × List Char) :=
  if (text.take width).length = width then
    (Text.value? (text.take width)).map fun number =>
      (number, text.drop width)
  else none

/-- Takes a number with a fixed count of digits behind a mark. -/
def takeMarked
    (mark : Char)
    (width : Nat) :
    List Char → Option (Nat × List Char)
  | first :: rest => if first = mark then takeFixed width rest else none
  | [] => none

/-- Takes a date. -/
def takeDate (text : List Char) : Option (List Char × List Char) := do
  let (year, rest) ← takeFixed 4 text
  let (month, rest) ← takeMarked '-' 2 rest
  let (day, rest) ← takeMarked '-' 2 rest
  if Calendar.Date.isValid ⟨year, month, day⟩ then
    return (Text.padded 4 year ++ '-' :: Text.padded 2 month ++
      '-' :: Text.padded 2 day, rest)
  else none

/-- The digits of a fraction, as they are written again. -/
def fractionCharacters (digits : List Char) : List Char :=
  let kept :=
    ((digits.take 9).reverse.dropWhile fun digit => digit == '0').reverse
  if kept.isEmpty then [] else '.' :: kept

/-- Takes a fraction, if there is one. -/
def takeFraction : List Char → Option (List Char × List Char)
  | '.' :: rest =>
    let digits := rest.takeWhile Text.isDigit
    if digits.isEmpty then none
    else some (fractionCharacters digits, rest.drop digits.length)
  | other => some ([], other)

/-- What a time may hold. -/
structure TimeBounds where
  /-- The last hour of a day. -/
  lastHour : Nat
  /-- Whether hours and minutes are an offset. -/
  isOffset : (hour minute : Nat) → Bool

/-- The bounds of times that are values of their own. -/
def TimeBounds.plain : TimeBounds where
  lastHour := 23
  isOffset hour minute := hour < 24 && minute < 60

/-- The bounds of times that are marked texts. -/
def TimeBounds.marked : TimeBounds where
  lastHour := 24
  isOffset hour minute := 60 * hour + minute ≤ 1440

/-- Takes a time of day. -/
def takeTime
    (bounds : TimeBounds)
    (text : List Char) :
    Option (List Char × List Char) := do
  let (hour, rest) ← takeFixed 2 text
  let (minute, rest) ← takeMarked ':' 2 rest
  let (second, rest) ← takeMarked ':' 2 rest
  let (fraction, rest) ← takeFraction rest
  if hour ≤ bounds.lastHour ∧ minute < 60 ∧ second ≤ 60 then
    return (Text.padded 2 hour ++ ':' :: Text.padded 2 minute ++
      ':' :: Text.padded 2 second ++ fraction, rest)
  else none

/-- An offset of some minutes. -/
def offsetCharacters (sign : Char) (minutes : Nat) : List Char :=
  (if minutes = 0 then '+' else sign) :: Text.padded 2 (minutes / 60) ++
    ':' :: Text.padded 2 (minutes % 60)

/-- Reads an offset, which may be missing. -/
def readOffset (bounds : TimeBounds) : List Char → Option (List Char)
  | [] => some []
  | ['Z'] => some ['Z']
  | ['z'] => some ['Z']
  | sign :: rest => do
    let (hour, rest) ← takeFixed 2 rest
    let (minute, rest) ← takeMarked ':' 2 rest
    if (sign = '+' ∨ sign = '-') ∧ bounds.isOffset hour minute = true ∧
        rest.isEmpty then
      return offsetCharacters sign (60 * hour + minute)
    else none

/-- Whether a character may stand between a date and a time. -/
def isTimeMark (character : Char) : Bool :=
  character == 'T' || character == 't' || character == ' '

/-- Reads what follows a date. -/
def readAfterDate
    (bounds : TimeBounds)
    (date : List Char) :
    List Char → Option (List Char)
  | [] => some date
  | mark :: rest => do
    let (time, rest) ← takeTime bounds rest
    let offset ← readOffset bounds rest
    if isTimeMark mark then return date ++ 'T' :: time ++ offset else none

/-- Reads a date or a time, as the text that it counts by. -/
def readTime (bounds : TimeBounds) (text : List Char) : Option (List Char) :=
  match takeDate text with
  | some (date, rest) => readAfterDate bounds date rest
  | none =>
    match takeTime bounds text with
    | some (time, []) => some time
    | _ => none

example : readTime .plain "1979-05-27 07:32:00.500-00:00".toList =
    some "1979-05-27T07:32:00.5+00:00".toList := by decide

end MandateDesk.Toml
