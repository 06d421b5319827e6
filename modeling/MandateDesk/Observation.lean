import MandateDesk.Fault
import MandateDesk.Market

/-!
# Observed market state

A snapshot is what was observed of the account and the market at one time. The
feed holds the latest one under a version that each publication raises, and
counts how often it is read. A snapshot is fresh while its age does not exceed
a limit.
-/

namespace MandateDesk

/-- What was observed at one time. -/
structure Snapshot where
  /-- Number of publications before this one. -/
  version : Nat
  /-- When it was published. -/
  publishedAt : Instant
  /-- The account. -/
  account : Account
  /-- The quotes of all symbols. -/
  prices : Prices
  /-- The positions as they were observed. -/
  positions : Positions

namespace Snapshot

/-- The quote of a symbol. -/
def quote? (snapshot : Snapshot) (symbol : Symbol) : Option Quote :=
  snapshot.prices.find? symbol

/-- Whole milliseconds since a snapshot was published. -/
def age (snapshot : Snapshot) (now : Instant) : Nat :=
  snapshot.publishedAt.age now

end Snapshot

/-- The latest snapshot and the number of its reads. -/
structure Feed where
  /-- The latest snapshot. -/
  latest : Snapshot
  /-- Number of reads so far. -/
  reads : Nat

namespace Feed

/-- A feed that begins with a snapshot. -/
def start (genesis : Snapshot) : Feed :=
  ⟨{ genesis with version := 0 }, 0⟩

/-- The version of the latest snapshot. -/
def version (feed : Feed) : Nat :=
  feed.latest.version

/-- Publishes a snapshot under the next version. -/
def publish (feed : Feed) (snapshot : Snapshot) : Feed :=
  { feed with latest := { snapshot with version := feed.version + 1 } }

/-- Counts a read. -/
def read (feed : Feed) : Feed :=
  { feed with reads := feed.reads + 1 }

/-- The latest snapshot, if its age does not exceed a limit. -/
def fresh
    (feed : Feed)
    (oldest : Nat)
    (now : Instant) :
    Except Fault Snapshot :=
  let age := feed.latest.age now
  if oldest < age then .error (.staleSnapshot feed.version age oldest)
  else .ok feed.latest

@[simp]
theorem version_publish
    (feed : Feed)
    (snapshot : Snapshot) :
    (feed.publish snapshot).version = feed.version + 1 :=
  rfl

end Feed

end MandateDesk
