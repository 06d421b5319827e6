import MandateDesk.Instant.Basic
import MandateDesk.Power
import MandateDesk.Text.Blank
import MandateDesk.Text.Digits

/-!
# Reading instants

An instant is read from a date, a separator and a time with an offset from
universal time: `2024-05-01T12:00:00.5+02:00`. Blanks may stand between the
parts. The separator is the letter `T` in either case or a space. A year with
a sign may have any number of digits. Only the first nine digits of a fraction
count. The offset is `Z`, `UTC` or a sign with hours and minutes; second 60
stands for a leap second.

Each reader takes a part from the front of a text and returns the rest.
-/

namespace MandateDesk.Instant

/-- Takes between one and `width` digits from the front of a text. -/
def takeNumber (width : Nat) (text : List Char) : Option (Nat × List Char) := do
  let written := (text.take width).takeWhile Text.isDigit
  let number ← Text.value? written
  return (number, text.drop written.length)

/-- Takes all digits from the front of a text, at least one. -/
def takeDigits (text : List Char) : Option (Nat × List Char) :=
  takeNumber text.length text

/-- Takes a number of at most two digits, after blanks. -/
def takeField (text : List Char) : Option (Nat × List Char) :=
  takeNumber 2 (Text.trimStart text)

/-- Takes one character, after blanks. -/
def takeMark (mark : Char) (text : List Char) : Option (List Char) :=
  match Text.trimStart text with
  | first :: rest => if first = mark then some rest else none
  | [] => none

/-- Takes a year: at most four digits, or any number after a sign. -/
def takeYear (text : List Char) : Option (Int × List Char) :=
  match Text.trimStart text with
  | '-' :: rest =>
    (takeDigits rest).map fun (year, left) => (-(year : Int), left)
  | '+' :: rest =>
    (takeDigits rest).map fun (year, left) => ((year : Int), left)
  | other =>
    (takeNumber 4 other).map fun (year, left) => ((year : Int), left)

/-- Takes the separator of date and time. -/
def takeSeparator : List Char → Option (List Char)
  | 'T' :: rest => some rest
  | 't' :: rest => some rest
  | ' ' :: rest => some rest
  | _ => none

/-- Takes a fraction of a second, in nanoseconds, if there is one. -/
def takeFraction : List Char → Option (Nat × List Char)
  | '.' :: rest => do
    let (number, left) ← takeNumber 9 rest
    let count := rest.length - left.length
    return (number * tenTo (9 - count), left.dropWhile Text.isDigit)
  | other => some (0, other)

/-- Whether a text begins with the letters `UTC` in any case. -/
def beginsUniversal (text : List Char) : Bool :=
  (text.take 3).map Char.toUpper == ['U', 'T', 'C']

/-- Whether a character may stand between the parts of an offset. -/
def isOffsetGap (character : Char) : Bool :=
  character == ':' || Text.isBlank character

/-- Takes exactly two digits. -/
def takeTwoDigits : List Char → Option (Nat × List Char)
  | first :: second :: rest =>
    if Text.isDigit first && Text.isDigit second then
      some (10 * Text.digitValue first + Text.digitValue second, rest)
    else none
  | _ => none

/-- Takes hours and minutes of an offset, in seconds. -/
def takeOffsetAmount (text : List Char) : Option (Int × List Char) := do
  let (hours, afterHours) ← takeTwoDigits text
  let (minutes, rest) ← takeTwoDigits (afterHours.dropWhile isOffsetGap)
  if minutes < 60 ∧ hours * 60 + minutes < 1440 then
    return ((hours * 3600 + minutes * 60 : Nat), rest)
  else none

/-- Takes an offset from universal time, in seconds. -/
def takeOffset (text : List Char) : Option (Int × List Char) :=
  if beginsUniversal text then some (0, text.drop 3)
  else
    match text with
    | 'Z' :: rest => some (0, rest)
    | 'z' :: rest => some (0, rest)
    | '+' :: rest => takeOffsetAmount rest
    | '-' :: rest =>
      (takeOffsetAmount rest).map fun (amount, left) => (-amount, left)
    | '\u2212' :: rest =>
      (takeOffsetAmount rest).map fun (amount, left) => (-amount, left)
    | _ => none

/-- The instant of a date and a time that is `offset` ahead, if it exists. -/
def ofParts?
    (date : Calendar.Date)
    (hour minute second nanos : Nat)
    (offset : Int) :
    Option Instant :=
  if bounded : nanos < 1000000000 then
    if date.isValid ∧ hour < 24 ∧ minute < 60 ∧ second ≤ 60 then
      let time : Nat := hour * 3600 + minute * 60 + min second 59
      let counted := Calendar.dayNumber date * secondsPerDay + time - offset
      let instant : Instant :=
        if second = 60 then ⟨counted, nanos + 1000000000, by omega⟩
        else ⟨counted, nanos, by omega⟩
      if instant.inCalendar then some instant else none
    else none
  else none

/-- Reads an instant. -/
def readCharacters (text : List Char) : Option Instant := do
  let (year, text) ← takeYear text
  let text ← takeMark '-' text
  let (month, text) ← takeField text
  let text ← takeMark '-' text
  let (day, text) ← takeField text
  let text ← takeSeparator text
  let (hour, text) ← takeField text
  let text ← takeMark ':' text
  let (minute, text) ← takeField text
  let text ← takeMark ':' text
  let (second, text) ← takeField text
  let (nanos, text) ← takeFraction text
  let (offset, text) ← takeOffset (Text.trimStart text)
  if text.all Text.isBlank then
    ofParts? ⟨year, month, day⟩ hour minute second nanos offset
  else none

/-- Reads an instant. -/
def read? (text : String) : Option Instant :=
  readCharacters text.toList

end MandateDesk.Instant
