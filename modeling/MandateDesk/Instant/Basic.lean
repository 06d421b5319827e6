import MandateDesk.Instant.Calendar
import MandateDesk.KeyOrder

/-!
# Instants

An instant is a second, counted from the beginning of 1970, and a count of
nanoseconds. A count of 10^9 or more lies in a leap second, which follows the
second that it is counted with.

Instants are ordered by their second, then by their nanoseconds. A difference
is taken in whole milliseconds, rounded toward zero.
-/

namespace MandateDesk

/-- Nanoseconds in a second. -/
def nanosPerSecond : Nat := 1000000000

/-- Seconds in a day. -/
def secondsPerDay : Int := 86400

/-- A point in time. -/
structure Instant where
  /-- Seconds since the beginning of 1970. -/
  second : Int
  /-- Nanoseconds since the beginning of the second. -/
  nanos : Nat
  /-- A leap second lies inside the second in front of it. -/
  nanos_lt : nanos < 2000000000
deriving DecidableEq

namespace Instant

/-- A number that increases with time. -/
def position (instant : Instant) : Int :=
  instant.second * 2000000000 + instant.nanos

theorem position_injective
    (first second : Instant)
    (same : first.position = second.position) :
    first = second := by
  obtain ⟨firstSecond, firstNanos, firstBound⟩ := first
  obtain ⟨secondSecond, secondNanos, secondBound⟩ := second
  simp only [position] at same
  have seconds : firstSecond = secondSecond := by omega
  subst seconds
  have nanos : firstNanos = secondNanos := by omega
  subst nanos
  rfl

instance : Ord Instant :=
  ⟨byKey position⟩

instance : Std.TransOrd Instant :=
  byKey_trans position

instance : Std.LawfulEqOrd Instant :=
  byKey_lawful position_injective

instance : LT Instant :=
  ⟨fun first second => first.position < second.position⟩

instance (first second : Instant) : Decidable (first < second) :=
  inferInstanceAs (Decidable (first.position < second.position))

/-- The beginning of 1970. -/
def epoch : Instant :=
  ⟨0, 0, by decide⟩

instance : Inhabited Instant :=
  ⟨epoch⟩

/-- Whether an instant lies in a leap second. -/
def inLeapSecond (instant : Instant) : Bool :=
  nanosPerSecond ≤ instant.nanos

/-- Number of seconds since midnight. -/
def secondOfDay (instant : Instant) : Int :=
  instant.second % secondsPerDay

/-- The day of an instant, counted from 1 January 1970. -/
def day (instant : Instant) : Int :=
  instant.second / secondsPerDay

/-- Seconds by which a leap second between two times of day counts. -/
def leapCorrection (later earlier : Instant) : Int :=
  if earlier.secondOfDay < later.secondOfDay ∧ earlier.inLeapSecond then 1
  else if later.secondOfDay < earlier.secondOfDay ∧ later.inLeapSecond then -1
  else 0

/-- Nanoseconds from one instant to another. -/
def nanosSince (later earlier : Instant) : Int :=
  (later.second - earlier.second + leapCorrection later earlier) *
      nanosPerSecond +
    ((later.nanos : Int) - earlier.nanos)

/-- Whole milliseconds from one instant to another, rounded toward zero. -/
def millisecondsSince (later earlier : Instant) : Int :=
  (nanosSince later earlier).tdiv 1000000

/-- Whole milliseconds since an instant; none since one that is to come. -/
def age (earlier now : Instant) : Nat :=
  (millisecondsSince now earlier).toNat

/-- Whether an instant lies in the calendar. -/
def inCalendar (instant : Instant) : Bool :=
  decide (Calendar.firstDay ≤ instant.day) &&
    decide (instant.day ≤ Calendar.lastDay)

/-- The instant a number of nanoseconds away from the beginning of 1970. -/
def ofNanos (nanos : Int) : Instant :=
  ⟨nanos / 1000000000, (nanos % 1000000000).toNat, by omega⟩

/--
The instant a number of nanoseconds later, of any size. Inside a leap second
and the second that it is counted with, time runs on; beyond them the leap
second does not count.
-/
def shiftedBy (instant : Instant) (nanos : Int) : Instant :=
  let moved := (instant.nanos : Int) + nanos
  let whole := nanos.tdiv 1000000000
  if instant.inLeapSecond then
    if inside : whole = 0 ∧ 0 ≤ moved ∧ moved < 2000000000 then
      ⟨instant.second, moved.toNat, by omega⟩
    else if 0 < nanos then
      ofNanos (instant.second * 1000000000 + (moved - 1000000000))
    else ofNanos (instant.second * 1000000000 + moved)
  else ofNanos (instant.second * 1000000000 + moved)

/-- The largest count of milliseconds that a duration can have. -/
abbrev longestDuration : Int := 9223372036854775807

/--
The instant a number of milliseconds earlier, if the number is a duration and
the instant lies in the calendar.
-/
def before? (instant : Instant) (milliseconds : Int) : Option Instant :=
  if milliseconds < -longestDuration then none
  else
    let earlier := instant.shiftedBy (-(milliseconds * 1000000))
    if earlier.inCalendar then some earlier else none

theorem lt_iff_compare
    (first second : Instant) :
    first < second ↔ compare first second = .lt := by
  show first.position < second.position ↔
    compare first.position second.position = .lt
  exact (Int.compare_eq_lt).symm

end Instant

end MandateDesk
