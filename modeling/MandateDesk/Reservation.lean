import MandateDesk.Instant.Basic
import MandateDesk.OrderedMap
import MandateDesk.Symbol

/-!
# Entry reservations

Each symbol has one slot. Who wants to enter a symbol takes its slot and gets
a receipt with a ticket; tickets are numbered from one, and every attempt uses
one up. Only the ticket that holds a slot frees it.

The slots and the receipts of their holders are kept apart: `slots` says which
ticket holds a symbol, `holders` what is known about a ticket. A slot that was
taken once and is free again holds ticket zero, which nobody gets.
-/

namespace MandateDesk

namespace Reservation

/-- What is known about a reservation. -/
structure Receipt where
  /-- The reserved instrument. -/
  symbol : Symbol
  /-- Who holds the reservation. -/
  holder : String
  /-- When it was taken. -/
  acquiredAt : Instant
  /-- Its number. -/
  ticket : Nat
deriving DecidableEq

/-- The right to run one entry, which is given up when it is released. -/
structure Token where
  /-- What is known about the reservation. -/
  receipt : Receipt
deriving DecidableEq

/-- An attempt to reserve a symbol whose slot is taken. -/
structure Conflict where
  /-- The instrument. -/
  symbol : Symbol
  /-- Who holds it, where that is known. -/
  holder : Option Receipt
deriving DecidableEq

/-- What came of a release. -/
inductive Release where
  /-- The slot is free now. -/
  | released
  /-- The slot was free already. -/
  | alreadyReleased
  /-- Another ticket holds the slot. -/
  | notHolder
deriving DecidableEq

/-- The name of a release. -/
def Release.name : Release → String
  | .released => "released"
  | .alreadyReleased => "already_released"
  | .notHolder => "not_holder"

end Reservation

/-- The slots of all symbols. -/
structure Reservations where
  /-- The ticket in the slot of each symbol that was asked for. -/
  slots : OrderedMap Symbol Nat
  /-- What is known about each ticket that holds a symbol. -/
  holders : OrderedMap Nat Reservation.Receipt
  /-- Number of attempts so far. -/
  attempts : Nat

namespace Reservations

open Reservation

/-- No reservation and no attempt yet. -/
def empty : Reservations :=
  ⟨OrderedMap.empty, OrderedMap.empty, 0⟩

instance : Inhabited Reservations :=
  ⟨empty⟩

/-- The ticket of a free slot. -/
def free : Nat := 0

/-- The ticket in the slot of a symbol. -/
def ticketOf (reservations : Reservations) (symbol : Symbol) : Nat :=
  (reservations.slots.find? symbol).getD free

/-- Takes the slot of a symbol, if it is free. -/
def reserve
    (reservations : Reservations)
    (symbol : Symbol)
    (holder : String)
    (now : Instant) :
    Reservations × Except Conflict Token :=
  let ticket := reservations.attempts + 1
  let current := reservations.ticketOf symbol
  if current = free then
    let receipt : Receipt := ⟨symbol, holder, now, ticket⟩
    ({ slots := reservations.slots.insert symbol ticket
       holders := reservations.holders.insert ticket receipt
       attempts := ticket },
      .ok ⟨receipt⟩)
  else
    ({ reservations with attempts := ticket },
      .error ⟨symbol, reservations.holders.find? current⟩)

/-- Frees the slot of a symbol, if a ticket holds it. -/
def releaseTicket
    (reservations : Reservations)
    (symbol : Symbol)
    (ticket : Nat) :
    Reservations × Release :=
  match reservations.slots.find? symbol with
  | none => (reservations, .alreadyReleased)
  | some current =>
    if current = ticket then
      ({ reservations with
         slots := reservations.slots.insert symbol free
         holders := reservations.holders.erase ticket },
        .released)
    else if current = free then (reservations, .alreadyReleased)
    else (reservations, .notHolder)

/-- Frees the slot that a token stands for. -/
def release
    (reservations : Reservations)
    (token : Token) :
    Reservations × Release :=
  releaseTicket reservations token.receipt.symbol token.receipt.ticket

/-- Frees the slot that a receipt names. -/
def releaseReceipt
    (reservations : Reservations)
    (receipt : Receipt) :
    Reservations × Release :=
  releaseTicket reservations receipt.symbol receipt.ticket

/-- Whether the slot of a symbol is taken. -/
def isReserved (reservations : Reservations) (symbol : Symbol) : Bool :=
  reservations.ticketOf symbol != free

/-- Who holds the slot of a symbol. -/
def holder?
    (reservations : Reservations)
    (symbol : Symbol) :
    Option Receipt :=
  let ticket := reservations.ticketOf symbol
  if ticket = free then none else reservations.holders.find? ticket

/-- Number of slots that are taken. -/
def heldCount (reservations : Reservations) : Nat :=
  (reservations.slots.values.filter fun ticket => ticket != free).length

/-- All receipts of holders, in symbol order. -/
def receipts (reservations : Reservations) : List Receipt :=
  reservations.holders.values.mergeSort fun first second =>
    (compare first.symbol second.symbol).isLE

/--
The receipts of the reservations that have been held for more than a number of
milliseconds, in symbol order.
-/
def stale
    (reservations : Reservations)
    (longest : Int)
    (now : Instant) :
    List Receipt :=
  reservations.receipts.filter fun receipt =>
    longest < now.millisecondsSince receipt.acquiredAt

/-! ## Who holds a slot

The view of the reservations is `ticketOf`: the ticket in the slot of each
symbol, zero where it is free. A successful reservation puts a ticket that is
not zero into a free slot, and a release frees the slot of its own ticket; both
leave the slots of all other symbols alone. An attempt on a slot that is taken
leaves all slots alone, and so does a release by another ticket.
-/

theorem ticketOf_insert
    (slots : OrderedMap Symbol Nat)
    (holders : OrderedMap Nat Receipt)
    (attempts : Nat)
    (symbol other : Symbol)
    (ticket : Nat) :
    ticketOf ⟨slots.insert symbol ticket, holders, attempts⟩ other =
      if other = symbol then ticket
      else ticketOf ⟨slots, holders, attempts⟩ other := by
  unfold ticketOf
  rw [OrderedMap.find?_insert]
  by_cases same : other = symbol
  · simp [same]
  · simp [same]

/-- The token that an attempt on a free slot gets. -/
def nextToken
    (reservations : Reservations)
    (symbol : Symbol)
    (holder : String)
    (now : Instant) :
    Token :=
  ⟨⟨symbol, holder, now, reservations.attempts + 1⟩⟩

/-- An attempt on a free slot succeeds. -/
theorem reserve_of_free
    {reservations : Reservations}
    {symbol : Symbol}
    (vacant : reservations.ticketOf symbol = free)
    (holder : String)
    (now : Instant) :
    (reservations.reserve symbol holder now).2 =
      .ok (reservations.nextToken symbol holder now) := by
  simp [reserve, vacant, nextToken]

/-- A reservation takes the slot of its symbol and no other. -/
theorem ticketOf_reserve_of_free
    {reservations : Reservations}
    {symbol : Symbol}
    (vacant : reservations.ticketOf symbol = free)
    (holder : String)
    (now : Instant)
    (other : Symbol) :
    (reservations.reserve symbol holder now).1.ticketOf other =
      if other = symbol then reservations.attempts + 1
      else reservations.ticketOf other := by
  simp only [reserve, vacant, if_true]
  rw [ticketOf_insert]
  rfl

/-- A release frees the slot that its ticket holds and no other. -/
theorem ticketOf_releaseTicket
    (reservations : Reservations)
    (symbol : Symbol)
    (ticket : Nat)
    (other : Symbol) :
    (reservations.releaseTicket symbol ticket).1.ticketOf other =
      if other = symbol ∧ reservations.ticketOf symbol = ticket then free
      else reservations.ticketOf other := by
  unfold releaseTicket
  cases slot : reservations.slots.find? symbol with
  | none =>
    have vacant : reservations.ticketOf symbol = free := by
      simp [ticketOf, slot]
    by_cases same : other = symbol
    · subst same
      simp [vacant]
    · simp [same]
  | some current =>
    have holds : reservations.ticketOf symbol = current := by
      simp [ticketOf, slot]
    by_cases own : current = ticket
    · simp only [own, if_true]
      rw [ticketOf_insert]
      by_cases same : other = symbol
      · simp [same, holds, own]
      · simp only [same, if_false, false_and]
        rfl
    · have kept : ¬ (other = symbol ∧ reservations.ticketOf symbol = ticket) :=
        fun both => own (holds.symm.trans both.2)
      rw [if_neg kept]
      simp only [own, if_false]
      split <;> rfl

/-! ## What an operation comes to -/

section Outcome

variable {reservations : Reservations} {symbol : Symbol} {ticket : Nat}

theorem isReserved_iff :
    reservations.isReserved symbol = true ↔
      reservations.ticketOf symbol ≠ free := by
  simp [isReserved]

theorem reserve_eq_of_free
    (vacant : reservations.ticketOf symbol = free)
    (holder : String)
    (now : Instant) :
    reservations.reserve symbol holder now =
      ({ slots := reservations.slots.insert symbol (reservations.attempts + 1)
         holders :=
           reservations.holders.insert (reservations.attempts + 1)
             (reservations.nextToken symbol holder now).receipt
         attempts := reservations.attempts + 1 },
        .ok (reservations.nextToken symbol holder now)) := by
  simp [reserve, vacant, nextToken]

/-- An attempt on a slot that is taken names its holder, and uses a number. -/
theorem reserve_eq_of_taken
    (taken : reservations.ticketOf symbol ≠ free)
    (holder : String)
    (now : Instant) :
    reservations.reserve symbol holder now =
      ({ reservations with attempts := reservations.attempts + 1 },
        .error ⟨symbol, reservations.holder? symbol⟩) := by
  simp [reserve, holder?, taken]

theorem releaseTicket_eq_of_holding
    (holding : reservations.ticketOf symbol = ticket)
    (taken : ticket ≠ free) :
    reservations.releaseTicket symbol ticket =
      ({ reservations with
         slots := reservations.slots.insert symbol free
         holders := reservations.holders.erase ticket },
        .released) := by
  unfold ticketOf at holding
  unfold releaseTicket
  cases slot : reservations.slots.find? symbol with
  | none =>
    rw [slot] at holding
    exact absurd holding.symm taken
  | some current =>
    rw [slot] at holding
    simp only [Option.getD_some] at holding
    simp only [holding, if_true]

theorem releaseTicket_eq_of_apart
    (apart : reservations.ticketOf symbol ≠ ticket) :
    reservations.releaseTicket symbol ticket =
      (reservations,
        if reservations.isReserved symbol then .notHolder
        else .alreadyReleased) := by
  unfold releaseTicket
  unfold isReserved
  unfold ticketOf at apart ⊢
  cases slot : reservations.slots.find? symbol with
  | none => simp
  | some current =>
    rw [slot] at apart
    simp only [Option.getD_some] at apart
    simp only [if_neg apart]
    by_cases vacant : current = free
    · simp [vacant]
    · simp [vacant]

end Outcome

end Reservations

end MandateDesk
