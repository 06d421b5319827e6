import Mathlib.Data.List.Nodup
import MandateDesk.Proofs.Maps
import MandateDesk.Reservation

/-!
# One holder a slot

Slots and receipts are two maps that are written one after the other.  They are
`Matched`: what is known about a ticket is known under its number, and the slot
of its symbol holds it; and about each ticket in a slot something is known.

A `Ledger` is a table of reservations with all the receipts that it has issued
and those of them that were taken back.  Every receipt that was ever issued may
come back at any time, more than once.  Outstanding are the receipts that were
not taken back yet, and the table says precisely which ones these are.
-/

namespace MandateDesk

namespace Reservations

open Reservation (Receipt Token Conflict Release)

/-- The slots and the receipts say the same about who holds what. -/
structure Matched (reservations : Reservations) : Prop where
  filed : ∀ ticket receipt,
    reservations.holders.find? ticket = some receipt →
      receipt.ticket = ticket ∧ ticket ≠ free ∧
        reservations.ticketOf receipt.symbol = ticket
  held : ∀ symbol, reservations.ticketOf symbol ≠ free →
    ∃ receipt,
      reservations.holders.find? (reservations.ticketOf symbol) =
          some receipt ∧
        receipt.symbol = symbol
  bounded : ∀ symbol, reservations.ticketOf symbol ≤ reservations.attempts

theorem matched_empty : empty.Matched where
  filed := nofun
  held _ taken := absurd rfl taken
  bounded _ := Nat.le_refl _

section Matching

variable {reservations : Reservations}

/-- One ticket holds no two slots. -/
theorem Matched.eq_of_ticketOf_eq
    (matched : reservations.Matched)
    {first second : Symbol}
    (taken : reservations.ticketOf first ≠ free)
    (same : reservations.ticketOf first = reservations.ticketOf second) :
    first = second := by
  rcases matched.held first taken with ⟨receipt, found, rfl⟩
  rcases matched.held second (same ▸ taken) with ⟨other, alsoFound, rfl⟩
  rw [same, alsoFound] at found
  cases found
  rfl

theorem Matched.reserve
    (matched : reservations.Matched)
    (symbol : Symbol)
    (holder : String)
    (now : Instant) :
    (reservations.reserve symbol holder now).1.Matched := by
  by_cases vacant : reservations.ticketOf symbol = free
  · have slots := ticketOf_reserve_of_free vacant holder now
    rw [reserve_eq_of_free vacant] at slots ⊢
    refine ⟨?_, ?_, ?_⟩
    · intro ticket receipt found
      rw [slots]
      rw [OrderedMap.find?_insert] at found
      split at found
      · rename_i new
        cases found
        rw [new]
        exact ⟨rfl, Nat.succ_ne_zero _, if_pos rfl⟩
      · rcases matched.filed ticket receipt found with ⟨own, taken, holds⟩
        refine ⟨own, taken, ?_⟩
        rw [if_neg, holds]
        rintro rfl
        exact taken (holds.symm.trans vacant)
    · intro other taken
      rw [slots] at taken ⊢
      split at taken
      · rename_i same
        rw [if_pos same, OrderedMap.find?_insert_self]
        exact ⟨_, rfl, same.symm⟩
      · rename_i apart
        have bound := matched.bounded other
        rw [if_neg apart, OrderedMap.find?_insert_of_ne _ _ (by omega)]
        exact matched.held other taken
    · intro other
      rw [slots]
      have bound := matched.bounded other
      split
      · exact Nat.le_refl _
      · exact Nat.le_succ_of_le bound
  · rw [reserve_eq_of_taken vacant]
    exact ⟨matched.filed, matched.held,
      fun other => Nat.le_succ_of_le (matched.bounded other)⟩

theorem Matched.releaseTicket
    (matched : reservations.Matched)
    (symbol : Symbol)
    {ticket : Nat}
    (issued : ticket ≠ free) :
    (reservations.releaseTicket symbol ticket).1.Matched := by
  by_cases holding : reservations.ticketOf symbol = ticket
  · have slots := ticketOf_releaseTicket reservations symbol ticket
    rw [releaseTicket_eq_of_holding holding issued] at slots ⊢
    simp only [holding, and_true] at slots
    refine ⟨?_, ?_, ?_⟩
    · intro number receipt found
      rw [slots]
      rw [OrderedMap.find?_erase] at found
      split at found
      · contradiction
      · rename_i other
        rcases matched.filed number receipt found with ⟨own, taken, holds⟩
        refine ⟨own, taken, ?_⟩
        rw [if_neg, holds]
        rintro rfl
        exact other (holds.symm.trans holding)
    · intro other taken
      rw [slots] at taken ⊢
      split at taken
      · contradiction
      · rename_i apart
        rw [if_neg apart, OrderedMap.find?_erase, if_neg]
        · exact matched.held other taken
        · intro same
          exact apart (matched.eq_of_ticketOf_eq taken
            (same.trans holding.symm))
    · intro other
      rw [slots]
      split
      · exact Nat.zero_le _
      · exact matched.bounded other
  · rw [releaseTicket_eq_of_apart holding]
    exact matched

/-! ## What a table says -/

theorem Matched.holder?_eq_some_iff
    (matched : reservations.Matched)
    {symbol : Symbol}
    {receipt : Receipt} :
    reservations.holder? symbol = some receipt ↔
      reservations.holders.find? receipt.ticket = some receipt ∧
        receipt.symbol = symbol := by
  unfold holder?
  constructor
  · intro known
    simp only [] at known
    split at known
    · contradiction
    · rename_i taken
      rcases matched.held symbol taken with ⟨other, found, about⟩
      rw [found] at known
      cases known
      rcases matched.filed _ _ found with ⟨own, _, _⟩
      rw [own]
      exact ⟨found, about⟩
  · rintro ⟨found, rfl⟩
    rcases matched.filed _ _ found with ⟨_, taken, holds⟩
    simp only [holds, if_neg taken]
    exact found

theorem Matched.isSome_holder?
    (matched : reservations.Matched)
    (symbol : Symbol) :
    (reservations.holder? symbol).isSome = reservations.isReserved symbol := by
  rw [Bool.eq_iff_iff, isReserved_iff]
  constructor
  · intro known vacant
    simp [holder?, vacant] at known
  · intro taken
    rcases matched.held symbol taken with ⟨receipt, found, _⟩
    simp [holder?, taken, found]

theorem Matched.mem_receipts_iff
    (matched : reservations.Matched)
    {receipt : Receipt} :
    receipt ∈ reservations.holders.values ↔
      reservations.holders.find? receipt.ticket = some receipt := by
  rw [OrderedMap.mem_values_iff]
  constructor
  · rintro ⟨ticket, found⟩
    rcases matched.filed ticket receipt found with ⟨own, _⟩
    rw [own]
    exact found
  · intro found
    exact ⟨receipt.ticket, found⟩

theorem ticketOf_eq_iff
    {symbol : Symbol}
    {ticket : Nat}
    (taken : ticket ≠ free) :
    reservations.ticketOf symbol = ticket ↔
      reservations.slots.find? symbol = some ticket := by
  unfold ticketOf
  cases reservations.slots.find? symbol with
  | none => simp [Ne.symm taken]
  | some current => simp

/-- As many slots are taken as there are receipts of holders. -/
theorem Matched.heldCount_eq
    (matched : reservations.Matched) :
    reservations.heldCount = reservations.holders.values.length := by
  have tickets :
      reservations.slots.values.filter (fun ticket => ticket != free) =
        (reservations.slots.entries.filter
          fun entry => entry.2 != free).map Prod.snd := by
    unfold OrderedMap.values
    rw [List.filter_map]
    rfl
  have entry {symbol : Symbol} {ticket : Nat} :
      (symbol, ticket) ∈
          reservations.slots.entries.filter (fun entry => entry.2 != free) ↔
        ticket ≠ free ∧ reservations.ticketOf symbol = ticket := by
    rw [List.mem_filter, OrderedMap.mem_entries_iff, bne_iff_ne, and_comm]
    exact and_congr_right fun taken => (ticketOf_eq_iff taken).symm
  have distinct :
      ((reservations.slots.entries.filter
        fun entry => entry.2 != free).map Prod.snd).Nodup := by
    refine List.Nodup.map_on ?_
      (reservations.slots.entries_nodup.filter _)
    rintro ⟨first, ticket⟩ member ⟨second, _⟩ other rfl
    rcases entry.mp member with ⟨taken, holds⟩
    rcases entry.mp other with ⟨_, alsoHolds⟩
    rw [matched.eq_of_ticketOf_eq (holds.symm ▸ taken)
      (holds.trans alsoHolds.symm)]
  have same :
      ((reservations.slots.entries.filter
        fun entry => entry.2 != free).map Prod.snd).Perm
          reservations.holders.keys := by
    refine (List.perm_ext_iff_of_nodup distinct
      reservations.holders.keys_nodup).mpr ?_
    intro ticket
    rw [OrderedMap.mem_keys_iff, Option.isSome_iff_exists]
    constructor
    · intro member
      rcases List.mem_map.mp member with ⟨⟨symbol, _⟩, listed, rfl⟩
      rcases entry.mp listed with ⟨taken, holds⟩
      rcases matched.held symbol (holds.symm ▸ taken) with
        ⟨receipt, found, _⟩
      rw [holds] at found
      exact ⟨receipt, found⟩
    · rintro ⟨receipt, found⟩
      rcases matched.filed ticket receipt found with ⟨_, taken, holds⟩
      exact List.mem_map.mpr
        ⟨(receipt.symbol, ticket), entry.mpr ⟨taken, holds⟩, rfl⟩
  unfold heldCount
  rw [tickets, same.length_eq]
  simp [OrderedMap.keys, OrderedMap.values]

/-- No two receipts of holders are about one symbol. -/
theorem Matched.nodup_symbols
    (matched : reservations.Matched) :
    (reservations.holders.values.map Receipt.symbol).Nodup := by
  have distinct : reservations.holders.values.Nodup := by
    refine List.Nodup.map_on ?_ reservations.holders.entries_nodup
    rintro ⟨first, receipt⟩ member ⟨second, _⟩ other rfl
    have found := (OrderedMap.mem_entries_iff _ _ _).mp member
    have alsoFound := (OrderedMap.mem_entries_iff _ _ _).mp other
    rw [← (matched.filed _ _ found).1, ← (matched.filed _ _ alsoFound).1]
  refine List.Nodup.map_on ?_ distinct
  intro first member second other same
  have holds := matched.mem_receipts_iff.mp member
  have alsoHolds := matched.mem_receipts_iff.mp other
  have tickets : first.ticket = second.ticket := by
    rw [← (matched.filed _ _ holds).2.2, same,
      (matched.filed _ _ alsoHolds).2.2]
  rw [tickets, alsoHolds] at holds
  exact (Option.some.inj holds).symm

end Matching

/-! ## Ledgers -/

/-- A table of reservations, and what became of the receipts. -/
structure Ledger where
  reservations : Reservations
  /-- All receipts that were issued, the last one first. -/
  issued : List Receipt
  /-- The receipts whose slots were freed by them. -/
  returned : List Receipt

namespace Ledger

/-- Nothing has been issued yet. -/
def empty : Ledger :=
  ⟨Reservations.empty, [], []⟩

/-- Someone tries to reserve a symbol. -/
def attempt
    (ledger : Ledger)
    (symbol : Symbol)
    (holder : String)
    (now : Instant) :
    Ledger :=
  match ledger.reservations.reserve symbol holder now with
  | (next, .ok token) =>
    { ledger with
      reservations := next
      issued := token.receipt :: ledger.issued }
  | (next, .error _) => { ledger with reservations := next }

/-- Takes down what came of releasing a receipt. -/
def settle
    (ledger : Ledger)
    (receipt : Receipt)
    (outcome : Reservations × Release) :
    Ledger :=
  { ledger with
    reservations := outcome.1
    returned :=
      if outcome.2 = .released then receipt :: ledger.returned
      else ledger.returned }

/-- The ledgers to which attempts and releases lead, in any order. -/
inductive Reached : Ledger → Prop where
  | start : Reached empty
  | attempt {ledger}
      (reached : Reached ledger)
      (symbol : Symbol)
      (holder : String)
      (now : Instant) :
      Reached (ledger.attempt symbol holder now)
  | release {ledger}
      (reached : Reached ledger)
      (token : Token)
      (issued : token.receipt ∈ ledger.issued) :
      Reached (ledger.settle token.receipt (ledger.reservations.release token))
  | releaseReceipt {ledger}
      (reached : Reached ledger)
      (receipt : Receipt)
      (issued : receipt ∈ ledger.issued) :
      Reached
        (ledger.settle receipt (ledger.reservations.releaseReceipt receipt))

/-- A receipt was issued and has not freed its slot yet. -/
def Outstanding (ledger : Ledger) (receipt : Receipt) : Prop :=
  receipt ∈ ledger.issued ∧ receipt ∉ ledger.returned

/-- The table knows which receipts are outstanding. -/
structure Accounted (ledger : Ledger) : Prop where
  matched : ledger.reservations.Matched
  numbered : ∀ receipt ∈ ledger.issued,
    receipt.ticket ≠ free ∧ receipt.ticket ≤ ledger.reservations.attempts
  unique : (ledger.issued.map Receipt.ticket).Nodup
  genuine : ∀ receipt ∈ ledger.returned, receipt ∈ ledger.issued
  outstanding : ∀ receipt, ledger.Outstanding receipt ↔
    ledger.reservations.holders.find? receipt.ticket = some receipt

theorem accounted_empty : empty.Accounted where
  matched := matched_empty
  numbered := nofun
  unique := List.nodup_nil
  genuine := nofun
  outstanding receipt := by
    constructor
    · rintro ⟨impossible, _⟩
      cases impossible
    · intro impossible
      cases impossible

section Accounts

variable {ledger : Ledger}

theorem Accounted.attempt
    (accounted : ledger.Accounted)
    (symbol : Symbol)
    (holder : String)
    (now : Instant) :
    (ledger.attempt symbol holder now).Accounted := by
  have matched := accounted.matched.reserve symbol holder now
  unfold Ledger.attempt
  by_cases vacant : ledger.reservations.ticketOf symbol = free
  · rw [reserve_eq_of_free vacant] at matched ⊢
    refine
      { matched
        numbered := ?_
        unique := ?_
        genuine := ?_
        outstanding := ?_ }
    · refine List.forall_mem_cons.mpr
        ⟨⟨Nat.succ_ne_zero _, Nat.le_refl _⟩, ?_⟩
      intro receipt member
      rcases accounted.numbered receipt member with ⟨taken, bound⟩
      exact ⟨taken, Nat.le_succ_of_le bound⟩
    · refine List.nodup_cons.mpr ⟨?_, accounted.unique⟩
      intro member
      rcases List.mem_map.mp member with ⟨receipt, listed, same⟩
      have bound := (accounted.numbered receipt listed).2
      rw [same] at bound
      exact Nat.not_succ_le_self _ bound
    · intro receipt member
      exact List.mem_cons_of_mem _ (accounted.genuine receipt member)
    · intro receipt
      rw [OrderedMap.find?_insert]
      by_cases new : receipt.ticket = ledger.reservations.attempts + 1
      · -- an older receipt has a smaller number
        have unlisted : receipt ∉ ledger.issued := by
          intro member
          have bound := (accounted.numbered receipt member).2
          omega
        rw [if_pos new]
        constructor
        · rintro ⟨member, _⟩
          rcases List.mem_cons.mp member with same | listed
          · rw [same]
          · exact absurd listed unlisted
        · rintro ⟨⟩
          exact ⟨List.mem_cons_self ..,
            fun member => unlisted (accounted.genuine _ member)⟩
      · rw [if_neg new, ← accounted.outstanding]
        refine and_congr_left fun _ => ?_
        rw [List.mem_cons, or_iff_right]
        rintro rfl
        exact new rfl
  · rw [reserve_eq_of_taken vacant] at matched ⊢
    exact
      { matched
        numbered := fun receipt member =>
          (accounted.numbered receipt member).imp_right Nat.le_succ_of_le
        unique := accounted.unique
        genuine := accounted.genuine
        outstanding := accounted.outstanding }

theorem Accounted.eq_of_ticket_eq
    (accounted : ledger.Accounted)
    {first second : Receipt}
    (member : first ∈ ledger.issued)
    (other : second ∈ ledger.issued)
    (same : first.ticket = second.ticket) :
    first = second :=
  List.inj_on_of_nodup_map accounted.unique member other same

/-- A receipt is outstanding as long as the slot of its symbol holds it. -/
theorem Accounted.holding_iff
    (accounted : ledger.Accounted)
    {receipt : Receipt}
    (issued : receipt ∈ ledger.issued) :
    ledger.reservations.ticketOf receipt.symbol = receipt.ticket ↔
      receipt ∉ ledger.returned := by
  constructor
  · intro holding
    have taken := (accounted.numbered receipt issued).1
    rcases accounted.matched.held receipt.symbol (holding.symm ▸ taken) with
      ⟨other, found, about⟩
    rw [holding] at found
    have own := (accounted.matched.filed _ _ found).1
    rw [← own] at found
    have outstanding := (accounted.outstanding other).mpr found
    rw [accounted.eq_of_ticket_eq issued outstanding.1 own.symm]
    exact outstanding.2
  · intro kept
    have found := (accounted.outstanding receipt).mp ⟨issued, kept⟩
    exact (accounted.matched.filed _ _ found).2.2

theorem Accounted.settle
    (accounted : ledger.Accounted)
    {receipt : Receipt}
    (issued : receipt ∈ ledger.issued) :
    (ledger.settle receipt
      (ledger.reservations.releaseReceipt receipt)).Accounted := by
  have taken := (accounted.numbered receipt issued).1
  have matched := accounted.matched.releaseTicket receipt.symbol taken
  unfold releaseReceipt
  by_cases holding :
      ledger.reservations.ticketOf receipt.symbol = receipt.ticket
  · rw [releaseTicket_eq_of_holding holding taken] at matched ⊢
    refine
      { matched
        numbered := accounted.numbered
        unique := accounted.unique
        genuine := List.forall_mem_cons.mpr ⟨issued, accounted.genuine⟩
        outstanding := ?_ }
    intro other
    show other ∈ ledger.issued ∧ other ∉ receipt :: ledger.returned ↔
      (ledger.reservations.holders.erase receipt.ticket).find? other.ticket =
        some other
    rw [OrderedMap.find?_erase]
    by_cases same : other.ticket = receipt.ticket
    · rw [if_pos same]
      constructor
      · rintro ⟨member, kept⟩
        rw [accounted.eq_of_ticket_eq member issued same] at kept
        exact absurd (List.mem_cons_self ..) kept
      · intro impossible
        cases impossible
    · rw [if_neg same, ← accounted.outstanding]
      refine and_congr_right fun _ => not_congr ?_
      rw [List.mem_cons, or_iff_right]
      rintro rfl
      exact same rfl
  · rw [releaseTicket_eq_of_apart holding]
    cases ledger.reservations.isReserved receipt.symbol with
    | false => exact accounted
    | true => exact accounted

theorem Reached.accounted
    (reached : ledger.Reached) :
    ledger.Accounted := by
  induction reached with
  | start => exact accounted_empty
  | attempt _ symbol holder now accounted =>
    exact accounted.attempt symbol holder now
  | release _ token issued accounted => exact accounted.settle issued
  | releaseReceipt _ receipt issued accounted => exact accounted.settle issued

end Accounts

/-! ## The law -/

/-- What holds of a table and of its receipts at every moment. -/
structure Exclusive (ledger : Ledger) : Prop where
  /-- An attempt succeeds on a free slot only, with a number of its own. -/
  attempt : ∀ symbol holder now,
    (ledger.reservations.reserve symbol holder now).2 =
      if ledger.reservations.isReserved symbol then
        .error ⟨symbol, ledger.reservations.holder? symbol⟩
      else .ok ⟨⟨symbol, holder, now, ledger.reservations.attempts + 1⟩⟩
  fresh : ∀ receipt ∈ ledger.issued,
    receipt.ticket ≤ ledger.reservations.attempts
  unique : (ledger.issued.map Receipt.ticket).Nodup
  alone : ∀ first second, ledger.Outstanding first →
    ledger.Outstanding second → first.symbol = second.symbol → first = second
  holding : ∀ receipt ∈ ledger.issued,
    ledger.reservations.ticketOf receipt.symbol = receipt.ticket ↔
      receipt ∉ ledger.returned
  token : ∀ token, ledger.reservations.release token =
    ledger.reservations.releaseReceipt token.receipt
  released : ∀ receipt ∈ ledger.issued,
    (ledger.reservations.releaseReceipt receipt).2 = .released ↔
      ledger.reservations.ticketOf receipt.symbol = receipt.ticket
  /-- A receipt frees the slot that it holds, and no other. -/
  own : ∀ receipt, ledger.Outstanding receipt → ∀ symbol,
    (ledger.reservations.releaseReceipt receipt).1.ticketOf symbol =
      if symbol = receipt.symbol then free
      else ledger.reservations.ticketOf symbol
  /-- A receipt that was taken back changes nothing. -/
  stale : ∀ receipt ∈ ledger.returned,
    ledger.reservations.releaseReceipt receipt =
      (ledger.reservations,
        if ledger.reservations.isReserved receipt.symbol then .notHolder
        else .alreadyReleased)
  holder : ∀ symbol receipt,
    ledger.reservations.holder? symbol = some receipt ↔
      ledger.Outstanding receipt ∧ receipt.symbol = symbol
  known : ∀ symbol, (ledger.reservations.holder? symbol).isSome =
    ledger.reservations.isReserved symbol
  listed : ∀ receipt, receipt ∈ ledger.reservations.holders.values ↔
    ledger.Outstanding receipt
  distinct : (ledger.reservations.holders.values.map Receipt.symbol).Nodup
  counted : ledger.reservations.heldCount =
    ledger.reservations.holders.values.length

theorem Accounted.exclusive
    {ledger : Ledger}
    (accounted : ledger.Accounted) :
    ledger.Exclusive := by
  have matched := accounted.matched
  have holder (symbol : Symbol) (receipt : Receipt) :
      ledger.reservations.holder? symbol = some receipt ↔
        ledger.Outstanding receipt ∧ receipt.symbol = symbol := by
    rw [matched.holder?_eq_some_iff, accounted.outstanding]
  refine
    { attempt := ?_
      fresh := fun receipt issued => (accounted.numbered receipt issued).2
      unique := accounted.unique
      alone := ?_
      holding := fun receipt issued => accounted.holding_iff issued
      token := fun _ => rfl
      released := ?_
      own := ?_
      stale := ?_
      holder
      known := matched.isSome_holder?
      listed := ?_
      distinct := matched.nodup_symbols
      counted := matched.heldCount_eq }
  · intro symbol holder now
    by_cases vacant : ledger.reservations.ticketOf symbol = free
    · rw [if_neg (not_not_intro vacant ∘ isReserved_iff.mp)]
      exact reserve_of_free vacant holder now
    · rw [if_pos (isReserved_iff.mpr vacant), reserve_eq_of_taken vacant]
  · intro first second outstanding other same
    have held := (holder _ _).mpr ⟨outstanding, rfl⟩
    rw [(holder _ _).mpr ⟨other, same.symm⟩] at held
    exact (Option.some.inj held).symm
  · intro receipt issued
    have taken := (accounted.numbered receipt issued).1
    unfold releaseReceipt
    by_cases holding :
        ledger.reservations.ticketOf receipt.symbol = receipt.ticket
    · simp only [releaseTicket_eq_of_holding holding taken, holding]
    · rw [releaseTicket_eq_of_apart holding]
      refine iff_of_false ?_ holding
      cases ledger.reservations.isReserved receipt.symbol with
      | false => rintro ⟨⟩
      | true => rintro ⟨⟩
  · rintro receipt ⟨issued, kept⟩ symbol
    have holding := (accounted.holding_iff issued).mpr kept
    rw [releaseReceipt, ticketOf_releaseTicket]
    simp only [holding, and_true]
  · intro receipt gone
    have issued := accounted.genuine receipt gone
    refine releaseTicket_eq_of_apart ?_
    intro holding
    exact (accounted.holding_iff issued).mp holding gone
  · intro receipt
    rw [matched.mem_receipts_iff, accounted.outstanding]

/--
Whatever was attempted and released before, each slot has one holder at most,
and only the receipt of this holder frees it.
-/
theorem reservations_are_exclusive
    {ledger : Ledger}
    (reached : ledger.Reached) :
    ledger.Exclusive :=
  reached.accounted.exclusive

namespace Sample

/-- The instrument that is reserved twice. -/
def symbol : Symbol :=
  ⟨"BTC"⟩

/-- The receipt of the first reservation. -/
def former : Receipt :=
  ⟨symbol, "first", Instant.epoch, 1⟩

/-- The first reservation is made. -/
def reserved : Ledger :=
  empty.attempt symbol "first" Instant.epoch

/-- It is released, and the instrument reserved again. -/
def handedOver : Ledger :=
  (reserved.settle former (reserved.reservations.releaseReceipt former)).attempt
    symbol "second" Instant.epoch

theorem reached_handedOver : handedOver.Reached :=
  ((Reached.start.attempt symbol "first" Instant.epoch).releaseReceipt former
    (by decide +kernel)).attempt symbol "second" Instant.epoch

/-- The first receipt does not free the slot of the second holder. -/
theorem reservations_are_exclusive_handedOver :
    handedOver.Reached ∧ former ∈ handedOver.returned ∧
      handedOver.reservations.releaseReceipt former =
        (handedOver.reservations, .notHolder) :=
  ⟨reached_handedOver, by decide +kernel,
    (reservations_are_exclusive reached_handedOver).stale former
      (by decide +kernel)⟩

end Sample

end Ledger

end Reservations

end MandateDesk
