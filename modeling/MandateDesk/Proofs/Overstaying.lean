import MandateDesk.Proofs.Exclusion
import MandateDesk.Proofs.Expiring

/-!
# Reservations that are held for too long

Each cycle looks for reservations that are older than the parameters allow, and
trips the latch on account of the first of them in symbol order.  The list that
it goes through is made from the receipts alone; where receipts and slots are
`Matched`, it lists precisely the holders of slots whose age exceeds the
timeout.  Nothing else in a cycle touches the latch, so that a latch that was
open is tripped exactly if there is such a holder.

As with lifetimes, this takes a timeout of 63 bits.  A longer one is read as a
negative number, and every reservation is too old.
-/

namespace MandateDesk

namespace Reservations

open Reservation (Receipt)

/-- Who holds a slot for more than so many milliseconds. -/
structure Overstays
    (reservations : Reservations)
    (timeout : Nat)
    (now : Instant)
    (receipt : Receipt) :
    Prop where
  held : reservations.holder? receipt.symbol = some receipt
  late : (timeout : Int) < now.millisecondsSince receipt.acquiredAt

section Stale

variable {reservations : Reservations} {timeout : Nat} {now : Instant}

/-- The receipts that are listed as stale are those of the holders that are. -/
theorem Matched.mem_stale_iff
    (matched : reservations.Matched)
    (short : timeout < Text.bound63)
    {receipt : Receipt} :
    receipt ∈ reservations.stale (Text.asSigned64 timeout) now ↔
      reservations.Overstays timeout now receipt := by
  have perm : reservations.receipts.Perm reservations.holders.values :=
    List.mergeSort_perm _ _
  have listed :
      receipt ∈ reservations.receipts ↔
        reservations.holder? receipt.symbol = some receipt := by
    rw [perm.mem_iff, matched.mem_receipts_iff, matched.holder?_eq_some_iff]
    exact (and_iff_left rfl).symm
  unfold stale
  rw [List.mem_filter, listed, decide_eq_true_eq,
    Text.asSigned64_of_lt short]
  exact ⟨fun both => ⟨both.1, both.2⟩, fun overstays =>
    ⟨overstays.held, overstays.late⟩⟩

theorem pairwise_stale
    (reservations : Reservations)
    (longest : Int)
    (now : Instant) :
    (reservations.stale longest now).Pairwise fun first second =>
      (compare first.symbol second.symbol).isLE = true := by
  refine List.Pairwise.filter _ (List.pairwise_mergeSort ?_ ?_ _)
  · intro first second third earlier later
    exact Std.TransCmp.isLE_trans earlier later
  · intro first second
    rw [@Std.OrientedCmp.eq_swap _ compare _ first.symbol]
    cases compare second.symbol first.symbol <;> rfl

end Stale

end Reservations

namespace Desk

open Reservation (Receipt)

/-- The check of reservations goes by the first of those that are stale. -/
theorem halt_tripOverdue
    (desk : Desk)
    (timeout : Nat)
    (now : Instant) :
    (desk.tripOverdue timeout now).halt =
      match desk.reservations.stale (Text.asSigned64 timeout) now with
      | [] => desk.halt
      | receipt :: _ =>
        desk.halt.trip
          (.staleReservation receipt.symbol.name receipt.ticket) now := by
  unfold tripOverdue
  cases desk.reservations.stale _ now <;> rfl

/--
A latch that is tripped stays as it is.  An open one is tripped by a cycle
exactly if some reservation is held whose age in whole milliseconds exceeds the
timeout; its reason then names the first of these in symbol order.
-/
theorem overdue_reservations_halt
    {ledger : Reservations.Ledger}
    (reached : ledger.Reached)
    {desk : Desk}
    (table : desk.reservations = ledger.reservations)
    {parameters : Parameters}
    (short : parameters.reservationTimeout < Text.bound63)
    (limits : Risk.Limits)
    (feed : Feed)
    (room : Option Nat)
    (now : Instant) :
    ∃ halt,
      (desk.runCycle parameters limits feed room now).1.desk.halt = halt ∧
      (desk.halt.isHalted = true → halt = desk.halt) ∧
      (desk.halt.isHalted = false →
        (halt.isHalted = true ↔
          ∃ receipt, desk.reservations.Overstays
            parameters.reservationTimeout now receipt) ∧
        (halt.isHalted = true →
          ∃ receipt,
            desk.reservations.Overstays parameters.reservationTimeout now
              receipt ∧
            (∀ other,
              desk.reservations.Overstays parameters.reservationTimeout now
                other →
              (compare receipt.symbol other.symbol).isLE = true) ∧
            halt.trip? =
              some (.staleReservation receipt.symbol.name receipt.ticket,
                now))) := by
  have matched : desk.reservations.Matched :=
    table ▸ reached.accounted.matched
  have listed (receipt : Receipt) :=
    @Reservations.Matched.mem_stale_iff desk.reservations
      parameters.reservationTimeout now matched short receipt
  have sorted :=
    desk.reservations.pairwise_stale
      (Text.asSigned64 parameters.reservationTimeout) now
  have checked := halt_tripOverdue desk parameters.reservationTimeout now
  refine ⟨_, halt_runCycle desk parameters limits feed room now, ?_⟩
  rw [checked]
  generalize desk.reservations.stale _ now = stale at listed sorted
  cases stale with
  | nil =>
    refine ⟨fun _ => rfl, fun released => ⟨?_, fun halted => ?_⟩⟩
    · refine iff_of_false (Bool.eq_false_iff.mp released) ?_
      rintro ⟨receipt, overstays⟩
      exact List.not_mem_nil ((listed receipt).mpr overstays)
    · exact absurd halted (Bool.eq_false_iff.mp released)
  | cons first rest =>
    have overstays := (listed first).mp (List.mem_cons_self ..)
    refine ⟨Halt.trip_of_isHalted _ _ _, fun released => ⟨?_, fun _ => ?_⟩⟩
    · exact iff_of_true (Halt.isHalted_trip _ _ _) ⟨first, overstays⟩
    · refine ⟨first, overstays, fun other late => ?_, ?_⟩
      · rcases List.mem_cons.mp ((listed other).mpr late) with rfl | later
        · exact Std.ReflCmp.isLE_rfl
        · exact (List.pairwise_cons.mp sorted).1 other later
      · exact congrArg Halt.trip? (if_neg (Bool.eq_false_iff.mp released))

namespace Sample

open Reservations.Ledger (Reached)
open Reservations.Ledger.Sample (former reached_handedOver reserved)

/-- An instrument that comes later in symbol order. -/
def later : Symbol :=
  ⟨"ETH"⟩

/-- Two reservations, the first of them for the later instrument. -/
def reservedTwice : Reservations.Ledger :=
  (Reservations.Ledger.empty.attempt later "desk" (moment 0)).attempt symbol
    "desk" (moment 0)

theorem reached_reservedTwice : reservedTwice.Reached :=
  (Reached.start.attempt later "desk" (moment 0)).attempt symbol "desk"
    (moment 0)

/-- A desk with these reservations. -/
def overstayed : Desk :=
  { blank (Store.working default) with
    reservations := reservedTwice.reservations }

/-- After half a minute and a second it halts because of the earlier symbol. -/
theorem overdue_reservations_halt_overstayed :
    reservedTwice.Reached ∧
      overstayed.reservations.Overstays
        Parameters.standard.reservationTimeout (moment 31)
        ⟨symbol, "desk", moment 0, 2⟩ ∧
      (overstayed.runCycle .standard .standard feed none
        (moment 31)).1.desk.halt.isHalted = true := by
  have overstays :
      overstayed.reservations.Overstays
        Parameters.standard.reservationTimeout (moment 31)
        ⟨symbol, "desk", moment 0, 2⟩ :=
    ⟨by decide +kernel, by decide +kernel⟩
  rcases
      @overdue_reservations_halt reservedTwice reached_reservedTwice overstayed
        rfl .standard (by decide) .standard feed none (moment 31) with
    ⟨halt, same, _, trips⟩
  rw [same]
  exact ⟨reached_reservedTwice, overstays,
    (trips rfl).1.mpr ⟨_, overstays⟩⟩

/-- The longest timeout that can be set. -/
def patient : Parameters :=
  { Parameters.standard with reservationTimeout := Text.bound64 - 1 }

/-- A desk with a reservation of this very moment. -/
def reserving : Desk :=
  { blank (Store.working default) with reservations := reserved.reservations }

/-- Under the longest timeout a reservation of this very moment halts it. -/
theorem prompt_reservation_halts :
    patient.problems = [] ∧
      reserved.Reached ∧
      (∀ receipt,
        ¬ reserving.reservations.Overstays patient.reservationTimeout
          (moment 0) receipt) ∧
      reserving.halt.isHalted = false ∧
      (reserving.runCycle patient .standard feed none
        (moment 0)).1.desk.halt.trip? =
          some (.staleReservation "BTC" 1, moment 0) := by
  have reached : reserved.Reached :=
    Reached.start.attempt _ "first" Instant.epoch
  refine ⟨by decide, reached, ?_, rfl, by decide +kernel⟩
  rintro receipt ⟨held, late⟩
  have matched := reached.accounted.matched
  have among : receipt ∈ reserved.reservations.holders.values :=
    matched.mem_receipts_iff.mpr ((matched.holder?_eq_some_iff).mp held).1
  have prompt :
      ∀ other ∈ reserved.reservations.holders.values,
        ¬ (patient.reservationTimeout : Int) <
          (moment 0).millisecondsSince other.acquiredAt := by
    decide +kernel
  exact prompt receipt among late

end Sample

end Desk

end MandateDesk
