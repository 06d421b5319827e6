import MandateDesk.Decimal.Basic
import MandateDesk.Direction
import MandateDesk.Identifier
import MandateDesk.Instant.Basic
import MandateDesk.Symbol
import MandateDesk.Text.Keyword

/-!
# Mandates

A mandate is a strategy's wish for one symbol: to exit, to block entries, to
reduce, to enter or to hold. It carries the authority of its source and the
time at which it was stamped. All its fields but the status are fixed when it
is submitted; only an active mandate takes part in decisions.

Kinds have a fixed rank: an exit outranks a block, a block a reduction, a
reduction an entry and an entry a hold.
-/

namespace MandateDesk

namespace Mandate

/-- The kind of a wish. -/
inductive Kind where
  /-- Close the position. -/
  | exit
  /-- Keep others from entering. -/
  | block
  /-- Close a part of the position. -/
  | reduce
  /-- Open a position. -/
  | entry
  /-- Leave things as they are. -/
  | hold
deriving DecidableEq, Inhabited

namespace Kind

/-- All kinds, by decreasing rank. -/
def all : List Kind := [exit, block, reduce, entry, hold]

/-- The rank of a kind; the higher one wins. -/
def rank : Kind → Nat
  | exit => 5
  | block => 4
  | reduce => 3
  | entry => 2
  | hold => 1

/-- The word for a kind. -/
def word : Kind → String
  | exit => "EXIT"
  | block => "BLOCK"
  | reduce => "REDUCE"
  | entry => "ENTRY"
  | hold => "HOLD"

instance : ToString Kind :=
  ⟨word⟩

/-- The kind that a word stands for, exactly as it is written. -/
def ofWord? (text : String) : Option Kind :=
  all.find? fun kind => kind.word == text

/-- Reads the name of a kind, in any case and between blanks. -/
def read? (text : String) : Option Kind :=
  ofWord? (Text.keyword text)

theorem mem_all (kind : Kind) : kind ∈ all := by
  cases kind <;> decide

theorem ofWord?_word (kind : Kind) : ofWord? kind.word = some kind := by
  cases kind <;> decide

theorem read?_word (kind : Kind) : read? kind.word = some kind := by
  cases kind <;> decide

theorem rank_injective
    {first second : Kind}
    (same : first.rank = second.rank) :
    first = second := by
  cases first <;> cases second <;> first | rfl | contradiction

end Kind

/-- Where a mandate is in its life. -/
inductive Status where
  /-- Takes part in decisions. -/
  | active
  /-- Won a decision and was sent to the venue. -/
  | consumed
  /-- Won a decision and was refused by the risk gate. -/
  | rejected
  /-- Withdrawn by its source. -/
  | cancelled
  /-- Outlived its time. -/
  | expired
deriving DecidableEq, Inhabited

namespace Status

/-- All states of a mandate. -/
def all : List Status := [active, consumed, rejected, cancelled, expired]

/-- The word for a status. -/
def word : Status → String
  | active => "ACTIVE"
  | consumed => "CONSUMED"
  | rejected => "REJECTED"
  | cancelled => "CANCELLED"
  | expired => "EXPIRED"

instance : ToString Status :=
  ⟨word⟩

/-- The status that a word stands for, exactly as it is written. -/
def ofWord? (text : String) : Option Status :=
  all.find? fun status => status.word == text

/-- Whether a mandate with this status takes part in decisions. -/
def isActive : Status → Bool
  | active => true
  | _ => false

theorem isActive_iff (status : Status) :
    status.isActive = true ↔ status = active := by
  cases status <;> decide

theorem ofWord?_word (status : Status) :
    ofWord? status.word = some status := by
  cases status <;> decide

end Status

end Mandate

/-- A strategy's wish for one symbol. -/
structure Mandate where
  /-- The name of the mandate. -/
  id : Identifier
  /-- The instrument that it is about. -/
  symbol : Symbol
  /-- What is wished for. -/
  kind : Mandate.Kind
  /-- The higher authority wins among mandates of one kind. -/
  authority : Nat
  /-- When the mandate was stamped. -/
  stamp : Instant
  /-- The strategy that the mandate comes from. -/
  source : String
  /-- The direction of an entry. -/
  direction : Option Direction
  /-- The size of an entry or a reduction. -/
  quantity : Decimal
  /-- Where the mandate is in its life. -/
  status : Mandate.Status
deriving DecidableEq

namespace Mandate

/-- The largest quantity that a mandate may ask for: 10^12. -/
def largestQuantity : Decimal :=
  ⟨false, 1000000000000, 0, by decide, Decimal.scale_zero_le⟩

/-- Whether a mandate takes part in decisions. -/
def isActive (mandate : Mandate) : Bool :=
  mandate.status.isActive

/-- Whole milliseconds since a mandate was stamped. -/
def age (mandate : Mandate) (now : Instant) : Nat :=
  mandate.stamp.age now

end Mandate

end MandateDesk
