import MandateDesk.Proofs.Exclusion
import MandateDesk.Proofs.Freezing

/-!
# Entries that are refused

An entry is admitted in four steps: its slot is reserved, its mandate is spent,
its position takes the event, and its order is handed over.  Each of the first
three can fail, and what was done before is undone then.  `LeavesNoTrace` says
how little is left of a refused entry: the same slots are held by the same
holders, nothing was handed over or saved, and at most a flat position was filed
for a symbol that the book did not know.  An entry that gets through `Enters`:
there is one reservation more, the order that works holds its token, and the
position has moved.

None of this asks for more of the desk than that its reservations are those of
a ledger.  Its book and its other tables may be in any state, also in one that
no run leads to.
-/

namespace MandateDesk

/-! ## A reservation that is taken back at once -/

namespace Reservations

open Reservation (Receipt Token)

/-- The same slots are held by the same holders. -/
structure HoldsSame (before after : Reservations) : Prop where
  slots : ∀ symbol, after.ticketOf symbol = before.ticketOf symbol
  holders : after.holders = before.holders

/-- One slot more is held, by a holder of its own. -/
structure HoldsOneMore
    (before after : Reservations)
    (receipt : Receipt) :
    Prop where
  vacant : before.ticketOf receipt.symbol = free
  taken : receipt.ticket ≠ free
  slots : ∀ symbol,
    after.ticketOf symbol =
      if symbol = receipt.symbol then receipt.ticket
      else before.ticketOf symbol
  /-- The ticket was not known before. -/
  unknown : before.holders.find? receipt.ticket = none
  holders : after.holders = before.holders.insert receipt.ticket receipt
  counted : after.heldCount = before.heldCount + 1

theorem HoldsSame.refl (reservations : Reservations) :
    HoldsSame reservations reservations :=
  ⟨fun _ => rfl, rfl⟩

section Undone

variable {reservations : Reservations} {symbol : Symbol}

/-- An attempt on a slot that is taken changes no reservation. -/
theorem holdsSame_reserve_of_taken
    (taken : reservations.ticketOf symbol ≠ free)
    (holder : String)
    (now : Instant) :
    HoldsSame reservations (reservations.reserve symbol holder now).1 := by
  rw [reserve_eq_of_taken taken]
  exact ⟨fun _ => rfl, rfl⟩

/-- Nothing is known about a ticket before it is issued. -/
theorem Matched.find?_next
    (matched : reservations.Matched) :
    reservations.holders.find? (reservations.attempts + 1) = none := by
  cases found : reservations.holders.find? (reservations.attempts + 1) with
  | none => rfl
  | some receipt =>
    have holds := (matched.filed _ _ found).2.2
    have bound := matched.bounded receipt.symbol
    omega

theorem Matched.holdsOneMore_reserve
    (matched : reservations.Matched)
    (vacant : reservations.ticketOf symbol = free)
    (holder : String)
    (now : Instant) :
    HoldsOneMore reservations (reservations.reserve symbol holder now).1
      (reservations.nextToken symbol holder now).receipt where
  vacant := vacant
  taken := Nat.succ_ne_zero _
  slots := ticketOf_reserve_of_free vacant holder now
  unknown := matched.find?_next
  holders := by rw [reserve_eq_of_free vacant]; rfl
  counted := by
    have listed :=
      OrderedMap.perm_entries_insert matched.find?_next
        (reservations.nextToken symbol holder now).receipt
    rw [(matched.reserve symbol holder now).heldCount_eq, matched.heldCount_eq,
      reserve_eq_of_free vacant]
    simpa [OrderedMap.values] using listed.length_eq

/-- What was reserved and is released at once has never been held. -/
theorem Matched.holdsSame_release_reserve
    (matched : reservations.Matched)
    (vacant : reservations.ticketOf symbol = free)
    (holder : String)
    (now : Instant) :
    HoldsSame reservations
      ((reservations.reserve symbol holder now).1.release
        (reservations.nextToken symbol holder now)).1 := by
  have more := matched.holdsOneMore_reserve vacant holder now
  have holding :
      (reservations.reserve symbol holder now).1.ticketOf symbol =
        reservations.attempts + 1 :=
    (more.slots symbol).trans (if_pos rfl)
  show HoldsSame reservations
    ((reservations.reserve symbol holder now).1.releaseTicket symbol
      (reservations.attempts + 1)).1
  constructor
  · intro other
    rw [ticketOf_releaseTicket]
    by_cases here : other = symbol
    · rw [if_pos ⟨here, holding⟩, here, vacant]
    · rw [if_neg fun both => here both.1, ticketOf_reserve_of_free vacant,
        if_neg here]
  · rw [releaseTicket_eq_of_holding holding (Nat.succ_ne_zero _)]
    simp only [more.holders]
    exact OrderedMap.erase_insert more.unknown _

end Undone

end Reservations

/-- Filing what an event was refused for adds a flat position at most. -/
theorem Book.get?_holding
    (book : Book)
    (symbol other : Symbol)
    (now : Instant) :
    (book.holding symbol (book.positionOf symbol now)).get? other =
        book.get? other ∨
      other = symbol ∧ book.get? other = none ∧
        (book.holding symbol (book.positionOf symbol now)).get? other =
          some (Position.flat symbol now) := by
  have found :
      (book.holding symbol (book.positionOf symbol now)).get? other =
        if other = symbol then some (book.positionOf symbol now)
        else book.get? other :=
    OrderedMap.find?_insert _ _ _ _
  rw [found]
  by_cases here : other = symbol
  · subst here
    rw [if_pos rfl]
    unfold Book.positionOf
    cases book.get? other with
    | some position => exact .inl rfl
    | none => exact .inr ⟨rfl, rfl, rfl⟩
  · rw [if_neg here]
    exact .inl rfl

namespace Desk

open Reservation (Receipt Token)
open Reservations (HoldsOneMore HoldsSame)

/-! ## Traces -/

/-- What is left of an entry that was refused: nothing that anyone acts on. -/
structure LeavesNoTrace
    (symbol : Symbol)
    (now : Instant)
    (before after : Turn) :
    Prop where
  held : HoldsSame before.desk.reservations after.desk.reservations
  working : after.desk.working = before.desk.working
  store : after.desk.store = before.desk.store
  outbox : after.outbox = before.outbox
  /-- Only where there was no position there may be a flat one now. -/
  positions : ∀ other,
    after.desk.book.get? other = before.desk.book.get? other ∨
      other = symbol ∧ before.desk.book.get? other = none ∧
        after.desk.book.get? other = some (Position.flat symbol now)

/-- What an entry has done that got through. -/
structure Enters
    (round : Round)
    (action : Action)
    (id : DispatchId)
    (direction : Direction)
    (token : Token)
    (before after : Turn) :
    Prop where
  directed : action.direction = some direction
  reserved : token.receipt.symbol = action.symbol ∧
    token.receipt.holder = round.holder
  held :
    HoldsOneMore before.desk.reservations after.desk.reservations token.receipt
  /-- The token is kept with the order that works now. -/
  working :
    after.desk.working =
      before.desk.working.insert action.symbol
        ⟨id, .enter direction action.quantity, some token, false⟩
  flat : before.desk.book.stateOf action.symbol = .flat
  moved : ∃ position,
    after.desk.book.get? action.symbol = some position ∧
      position.state = .entering ∧
      position.direction = some direction ∧
      position.pendingQuantity = action.quantity
  others : ∀ other, other ≠ action.symbol →
    after.desk.book.get? other = before.desk.book.get? other
  outbox :
    after.outbox =
      before.outbox ++
        [⟨id, action.symbol, .enter direction action.quantity, action,
          some token.receipt⟩]

/-- The ways in which an entry is refused. -/
inductive IsRefusal : Except Fault Outcome → Prop where
  | halted : IsRefusal (.ok .halted)
  | conflict (holder : Option String) : IsRefusal (.ok (.conflict holder))
  | failed (reason : String) : IsRefusal (.ok (.failed reason))
  | fatal {fault : Fault} (fatal : fault.isFatal = true) :
      IsRefusal (.error fault)

theorem isRefusal_ofFault (fault : Fault) :
    IsRefusal (Outcome.ofFault fault) := by
  unfold Outcome.ofFault
  split
  · rename_i fatal
    exact .fatal fatal
  · exact .failed _

/-- What comes of an entry: it is refused without a trace, or it enters. -/
inductive EntryEnds
    (round : Round)
    (action : Action)
    (before after : Turn) :
    Except Fault Outcome → Prop where
  | refused {result}
      (refusal : IsRefusal result)
      (traceless : LeavesNoTrace action.symbol round.now before after) :
      EntryEnds round action before after result
  | dispatched {id direction token}
      (enters : Enters round action id direction token before after) :
      EntryEnds round action before after (.ok (.dispatched id))

theorem LeavesNoTrace.refl
    (symbol : Symbol)
    (now : Instant)
    (turn : Turn) :
    LeavesNoTrace symbol now turn turn :=
  ⟨.refl _, rfl, rfl, rfl, fun _ => .inl rfl⟩

/-! ## What a step of an entry does -/

/-- How spending a mandate on an event can end. -/
inductive Spending
    (desk : Desk)
    (symbol : Symbol)
    (event : Position.Event)
    (now : Instant) :
    Desk × Except Fault Unit → Prop where
  /-- The mandate cannot be spent. -/
  | unspent (fault : Fault) :
      Spending desk symbol event now (desk, .error fault)
  /-- The position does not take the event. -/
  | unmoved (registry : Registry) (fault : Fault) :
      Spending desk symbol event now
        ({ desk with
            book := desk.book.holding symbol (desk.book.positionOf symbol now)
            registry },
          .error fault)
  | moved {next}
      (applied :
        (desk.book.positionOf symbol now).apply event now = .ok next)
      (registry : Registry)
      (store : Store)
      (tally : Tally) :
      Spending desk symbol event now
        ({ desk with
            book := desk.book.moved symbol next
            registry, store, tally },
          .ok ())

theorem spending_spend
    (desk : Desk)
    (action : Action)
    (event : Position.Event)
    (now : Instant) :
    Spending desk action.symbol event now (desk.spend action event now) := by
  unfold spend
  split
  · exact .unspent _
  · rename_i spent consumed
    rcases exists_consume_eq consumed with ⟨registry, rfl⟩
    cases applied :
        (desk.book.positionOf action.symbol now).apply event now with
    | ok next =>
      rcases
          @apply_of_ok { desk with registry } action.symbol event now next
            applied with
        ⟨store, tally, same⟩
      rw [same]
      exact .moved applied registry store tally
    | error fault =>
      unfold Desk.apply
      rw [Book.apply_of_error applied]
      exact .unmoved registry fault

/-- As long as there is room left, an order is handed over. -/
theorem dispatch_of_alive
    {turn : Turn}
    (alive : turn.room ≠ some 0)
    (action : Action)
    (order : Venue.Order)
    (token : Option Token) :
    ∃ room,
      turn.dispatch action order token =
        (⟨turn.desk.launched action.symbol order token,
            turn.outbox ++
              [turn.desk.issue action order (token.map Token.receipt)],
            room⟩,
          .ok turn.desk.nextDispatch) := by
  rcases turn with ⟨desk, outbox, _ | _ | left⟩
  · exact ⟨none, rfl⟩
  · exact absurd rfl alive
  · exact ⟨some left, rfl⟩

theorem reserve_of_taken
    {desk : Desk}
    {symbol : Symbol}
    (taken : desk.reservations.ticketOf symbol ≠ Reservations.free)
    (holder : String)
    (now : Instant) :
    desk.reserve symbol holder now =
      ({ desk with
          reservations := (desk.reservations.reserve symbol holder now).1 },
        .error ⟨symbol, desk.reservations.holder? symbol⟩) := by
  unfold reserve
  simp only [Reservations.reserve_eq_of_taken taken]

/-! ## Refused or entered -/

section Ends

variable {turn : Turn} {action : Action} {direction : Direction}

/-- Under a reservation that was just taken, an entry is all or nothing. -/
theorem entryEnds_enterWith
    (matched : turn.desk.reservations.Matched)
    (alive : turn.room ≠ some 0)
    (directed : action.direction = some direction)
    (vacant :
      turn.desk.reservations.ticketOf action.symbol = Reservations.free)
    (round : Round) :
    let reserved :=
      turn.desk.reservations.reserve action.symbol round.holder round.now
    let token :=
      turn.desk.reservations.nextToken action.symbol round.holder round.now
    let result :=
      enterWith round action direction token
        (turn.on { turn.desk with reservations := reserved.1 })
    EntryEnds round action turn result.1 result.2 := by
  intro reserved token result
  have undone :=
    matched.holdsSame_release_reserve vacant round.holder round.now
  have spending :=
    spending_spend { turn.desk with reservations := reserved.1 } action
      (.entryAdmitted direction action.quantity) round.now
  simp only [result]
  unfold enterWith
  simp only [Turn.on]
  generalize spend _ action _ round.now = spent at spending
  cases spending with
  | unspent fault =>
    exact .refused (isRefusal_ofFault fault)
      ⟨undone, rfl, rfl, rfl, fun _ => .inl rfl⟩
  | unmoved registry fault =>
    exact .refused (isRefusal_ofFault fault)
      ⟨undone, rfl, rfl, rfl,
        fun other => Book.get?_holding turn.desk.book action.symbol other _⟩
  | @moved next applied registry store tally =>
    rcases
        @dispatch_of_alive
          ⟨{ turn.desk with
              book := turn.desk.book.moved action.symbol next
              reservations := reserved.1
              registry, store, tally },
            turn.outbox, turn.room⟩
          alive action (.enter direction action.quantity) (some token) with
      ⟨room, handed⟩
    simp only [handed]
    refine .dispatched
      { directed
        reserved := ⟨rfl, rfl⟩
        held := matched.holdsOneMore_reserve vacant round.holder round.now
        working := rfl
        flat := ?_
        moved := ?_
        others := ?_
        outbox := rfl }
    · cases Position.moves_of_apply applied with
      | enter state =>
        rw [← Book.state_positionOf turn.desk.book action.symbol round.now]
        exact state
    · refine ⟨next, (Book.get?_moved ..).trans (if_pos rfl), ?_⟩
      cases Position.moves_of_apply applied with
      | enter => exact ⟨rfl, rfl, rfl⟩
    · intro other apart
      exact (Book.get?_moved ..).trans (if_neg apart)

/--
An entry that is refused leaves no trace, and one that is dispatched has one
reservation more, an order that works under it, and a position that enters.
-/
theorem refused_entries_leave_no_trace
    {ledger : Reservations.Ledger}
    (reached : ledger.Reached)
    (table : turn.desk.reservations = ledger.reservations)
    (alive : turn.room ≠ some 0)
    (round : Round)
    (action : Action) :
    EntryEnds round action turn (admitEntry round action turn).1
      (admitEntry round action turn).2 := by
  have matched : turn.desk.reservations.Matched :=
    table ▸ reached.accounted.matched
  unfold admitEntry
  split
  · exact .refused .halted (.refl ..)
  split
  · exact .refused (.failed _) (.refl ..)
  rename_i direction directed
  by_cases vacant :
      turn.desk.reservations.ticketOf action.symbol = Reservations.free
  · rw [reserve_of_free vacant]
    exact entryEnds_enterWith matched alive directed vacant round
  · rw [reserve_of_taken vacant]
    exact .refused (.conflict _)
      ⟨Reservations.holdsSame_reserve_of_taken vacant round.holder round.now,
        rfl, rfl, rfl, fun _ => .inl rfl⟩

end Ends

namespace Sample

open Reservations (Ledger)
open Reservations.Ledger.Sample (reached_handedOver)

/-- A desk on which another symbol is reserved. -/
def reservedElsewhere : Turn :=
  ⟨{ blank (Store.working default) with
      reservations := Ledger.Sample.handedOver.reservations },
    [], none⟩

/-- An entry of some quantity. -/
def entryOf (quantity : Decimal) : Action where
  kind := .entry
  symbol := ⟨"ETH"⟩
  mandate := none
  direction := some .long
  quantity
  origin := .arbitrated

/-- The round in which it is admitted. -/
def firstRound : Round :=
  ⟨1, 0, ⟨.standard, ⟨thousand⟩, OrderedMap.empty⟩, "desk", moment 1⟩

/-- An entry of nothing is undone, and one of something goes through. -/
theorem refused_entries_leave_no_trace_unsized :
    Ledger.Sample.handedOver.Reached ∧
      ((admitEntry firstRound (entryOf Decimal.zero)
          reservedElsewhere).2.toOption.map Outcome.name = some "failed" ∧
        LeavesNoTrace ⟨"ETH"⟩ (moment 1) reservedElsewhere
          (admitEntry firstRound (entryOf Decimal.zero)
            reservedElsewhere).1) ∧
      ∃ id token,
        Enters firstRound (entryOf one) id .long token reservedElsewhere
          (admitEntry firstRound (entryOf one) reservedElsewhere).1 := by
  have failed :
      (admitEntry firstRound (entryOf Decimal.zero)
        reservedElsewhere).2.toOption.map Outcome.name = some "failed" := by
    decide +kernel
  have sent :
      (admitEntry firstRound (entryOf one)
        reservedElsewhere).2.toOption.map Outcome.name =
          some "dispatched" := by
    decide +kernel
  have alive : reservedElsewhere.room ≠ some 0 := nofun
  refine ⟨reached_handedOver, ⟨failed, ?_⟩, ?_⟩
  · have ends :=
      refused_entries_leave_no_trace reached_handedOver rfl alive firstRound
        (entryOf Decimal.zero)
    generalize (admitEntry firstRound (entryOf Decimal.zero)
      reservedElsewhere).2 = result at failed ends
    cases ends with
    | refused _ traceless => exact traceless
    | dispatched => simp [Except.toOption, Outcome.name] at failed
  · have ends :=
      refused_entries_leave_no_trace reached_handedOver rfl alive firstRound
        (entryOf one)
    generalize (admitEntry firstRound (entryOf one) reservedElsewhere).2 =
      result at sent ends
    cases ends with
    | refused refusal =>
      cases refusal <;> simp [Except.toOption, Outcome.name] at sent
    | @dispatched id direction token enters =>
      cases Option.some.inj enters.directed
      exact ⟨id, token, enters⟩

end Sample

end Desk

end MandateDesk
