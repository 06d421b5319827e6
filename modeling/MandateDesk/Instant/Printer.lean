import MandateDesk.Instant.Basic
import MandateDesk.Text.Digits

/-!
# The text of an instant

An instant is written in universal time, with a `T` between date and time and
a `Z` at the end. The fraction of the second has three, six or nine digits,
the fewest that are exact, and is left out when it is zero. A leap second is
written as second 60. Years outside 0 to 9999 carry a sign.
-/

namespace MandateDesk.Instant

/-- A year of at least four digits. -/
def yearCharacters (year : Int) : List Char :=
  let written := Text.padded 4 year.natAbs
  if 0 ≤ year ∧ year ≤ 9999 then written
  else (if year < 0 then '-' else '+') :: written

/-- The fraction of a second, with its point. -/
def fractionCharacters (nanos : Nat) : List Char :=
  if nanos = 0 then []
  else if nanos % 1000000 = 0 then '.' :: Text.padded 3 (nanos / 1000000)
  else if nanos % 1000 = 0 then '.' :: Text.padded 6 (nanos / 1000)
  else '.' :: Text.padded 9 nanos

/-- The characters of an instant. -/
def characters (instant : Instant) : List Char :=
  let date := Calendar.dateOf instant.day
  let time := instant.secondOfDay.toNat
  let second := time % 60 + (if instant.inLeapSecond then 1 else 0)
  yearCharacters date.year ++ '-' :: Text.padded 2 date.month ++
    '-' :: Text.padded 2 date.day ++ 'T' :: Text.padded 2 (time / 3600) ++
    ':' :: Text.padded 2 (time / 60 % 60) ++ ':' :: Text.padded 2 second ++
    fractionCharacters (instant.nanos % nanosPerSecond) ++ ['Z']

/-- The text of an instant. -/
def text (instant : Instant) : String :=
  String.ofList instant.characters

instance : ToString Instant :=
  ⟨text⟩

example : epoch.text = "1970-01-01T00:00:00Z" := by decide

end MandateDesk.Instant
