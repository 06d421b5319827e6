import MandateDesk.Proofs.Changes
import MandateDesk.Proofs.Cycles

/-!
# What a gate leaves alone

The gate spends and refuses mandates, but it neither takes nor drops any, and
nothing that it does touches the latch.  A desk that `Retains` another one has
the same latch and the same mandates up to their status; every stage of the
gate retains the desk that it starts from, on any desk, however many orders can
be handed over and whether or not it is stopped by a fault.

What a cycle does to the latch is therefore done by its check of reservations,
and what it does to the set of mandates is done by expiry.
-/

namespace MandateDesk

/-! ## Mandates up to their status -/

namespace Registry

/-- The mandate with an identifier as it is, or was, while active. -/
def original? (registry : Registry) (id : Identifier) : Option Mandate :=
  (registry.get? id).map (withStatus .active)

/-- An update writes nothing but a status. -/
theorem original?_update
    {registry next : Registry}
    {key : Identifier}
    {status : Mandate.Status}
    {moved : Mandate}
    (updated : registry.update key status = .ok (next, moved))
    (id : Identifier) :
    next.original? id = registry.original? id := by
  unfold update at updated
  split at updated
  · contradiction
  · rename_i mandate found
    split at updated
    · cases updated
      have known :
          ({ registry with
              mandates :=
                registry.mandates.insert key (withStatus status mandate) } :
            Registry).get? id =
            if id = key then some (withStatus status mandate)
            else registry.get? id :=
        OrderedMap.find?_insert _ _ _ _
      unfold original?
      rw [known]
      split
      · rename_i same
        rw [same, found]
        rfl
      · rfl
    · contradiction

end Registry

namespace Desk

open Reservation (Token)

/-- A desk with the same latch and the same mandates, up to their status. -/
structure Retains (before after : Desk) : Prop where
  halt : after.halt = before.halt
  originals : ∀ id,
    after.registry.original? id = before.registry.original? id

theorem Retains.refl (desk : Desk) : Retains desk desk :=
  ⟨rfl, fun _ => rfl⟩

theorem Retains.trans
    {first second third : Desk}
    (before : Retains first second)
    (after : Retains second third) :
    Retains first third :=
  ⟨after.halt.trans before.halt,
    fun id => (after.originals id).trans (before.originals id)⟩

/-- A desk that changes elsewhere. -/
theorem retains_aside
    {before after : Desk}
    (halt : after.halt = before.halt)
    (registry : after.registry = before.registry) :
    Retains before after :=
  ⟨halt, fun _ => by rw [registry]⟩

/-- A turn that goes on retains what its first part did. -/
theorem retains_andThen
    {α β : Type}
    {desk : Desk}
    {result : Turn × Except Fault α}
    (first : Retains desk result.1.desk)
    {next : Turn → α → Turn × Except Fault β}
    (goes : ∀ turn value, Retains turn.desk (next turn value).1.desk) :
    Retains desk (Turn.andThen result next).1.desk := by
  rcases result with ⟨turn, fault | value⟩
  · exact first
  · exact first.trans (goes turn value)

/-! ## Single changes -/

theorem retains_persist
    (desk : Desk)
    (symbol : Symbol) :
    Retains desk (desk.persist symbol) := by
  rcases exists_persist_eq desk symbol with ⟨store, tally, saved⟩
  rw [saved]
  exact retains_aside rfl rfl

theorem retains_apply
    (desk : Desk)
    (symbol : Symbol)
    (event : Position.Event)
    (now : Instant) :
    Retains desk (desk.apply symbol event now).1 := by
  unfold Desk.apply
  split
  · exact retains_aside rfl rfl
  · rename_i book transition _
    exact (retains_aside rfl rfl : Retains desk { desk with book }).trans
      (retains_persist _ symbol)

theorem retains_withdraw
    (desk : Desk)
    (symbol : Symbol) :
    Retains desk (desk.withdraw symbol) := by
  rcases withdraw_cases desk symbol with
    ⟨reservations, same⟩ | ⟨_, same⟩ <;> rw [same]
  · exact retains_aside rfl rfl
  · exact .refl desk

theorem retains_consume
    {desk spent : Desk}
    {action : Action}
    (consumed : desk.consume action = .ok spent) :
    Retains desk spent := by
  unfold consume at consumed
  split at consumed
  · cases consumed
    exact .refl desk
  · split at consumed
    · contradiction
    · rename_i updated
      cases consumed
      exact ⟨rfl, Registry.original?_update updated⟩

theorem retains_refuse
    (desk : Desk)
    (action : Action) :
    Retains desk (desk.refuse action) := by
  unfold refuse
  split
  · exact .refl desk
  · split
    · exact .refl desk
    · rename_i updated
      exact ⟨rfl, Registry.original?_update updated⟩

theorem retains_spend
    (desk : Desk)
    (action : Action)
    (event : Position.Event)
    (now : Instant) :
    Retains desk (desk.spend action event now).1 := by
  unfold spend
  split
  · exact .refl desk
  · rename_i spent consumed
    have applied := retains_apply spent action.symbol event now
    generalize spent.apply action.symbol event now = result at applied
    rcases result with ⟨next, fault | transition⟩ <;>
      exact (retains_consume consumed).trans applied

/-! ## Orders -/

theorem retains_dispatch
    (turn : Turn)
    (action : Action)
    (order : Venue.Order)
    (token : Option Token) :
    Retains turn.desk (turn.dispatch action order token).1.desk := by
  rcases turn with ⟨desk, outbox, room⟩
  have launched : Retains desk (desk.launched action.symbol order token) :=
    retains_aside rfl rfl
  cases room with
  | none => exact launched
  | some left =>
    cases left with
    | zero => exact launched.trans (retains_withdraw _ action.symbol)
    | succ left => exact launched

theorem retains_requestCancel
    (turn : Turn)
    (action : Action) :
    Retains turn.desk (turn.requestCancel action).1.desk := by
  rcases turn with ⟨desk, outbox, room⟩
  unfold Turn.requestCancel
  simp only
  split
  · exact .refl desk
  · rename_i order cancellable
    have asked : Retains desk (desk.cancelling action.symbol order) :=
      retains_aside rfl rfl
    cases room with
    | none => exact asked
    | some left => cases left <;> exact asked

theorem retains_carryOut
    (round : Round)
    (action : Action)
    (event : Position.Event)
    (order : Desk → Venue.Order)
    (turn : Turn) :
    Retains turn.desk (carryOut round action event order turn).1.desk := by
  have spent := retains_spend turn.desk action event round.now
  unfold carryOut
  generalize turn.desk.spend action event round.now = result at spent
  rcases result with ⟨next, fault | done⟩
  · exact spent
  · exact spent.trans
      (retains_dispatch (turn.on next) action (order next) none)

theorem retains_enterWith
    (round : Round)
    (action : Action)
    (direction : Direction)
    (token : Token)
    (turn : Turn) :
    Retains turn.desk
      (enterWith round action direction token turn).1.desk := by
  have spent :=
    retains_spend turn.desk action (.entryAdmitted direction action.quantity)
      round.now
  unfold enterWith
  simp only
  generalize turn.desk.spend action _ round.now = result at spent
  rcases result with ⟨next, fault | done⟩
  · exact spent.trans (retains_aside rfl rfl)
  · exact spent.trans
      (retains_dispatch (turn.on next) action
        (.enter direction action.quantity) (some token))

/-! ## Admissions -/

theorem retains_admitEntry
    (round : Round)
    (action : Action)
    (turn : Turn) :
    Retains turn.desk (admitEntry round action turn).1.desk := by
  unfold admitEntry Desk.reserve
  split
  · exact .refl turn.desk
  split
  · exact .refl turn.desk
  have reserved (reservations : Reservations) :
      Retains turn.desk { turn.desk with reservations } :=
    retains_aside rfl rfl
  generalize turn.desk.reservations.reserve _ _ _ = result
  rcases result with ⟨reservations, conflict | token⟩
  · exact reserved reservations
  · exact (reserved reservations).trans
      (retains_enterWith round action _ token
        (turn.on { turn.desk with reservations }))

theorem retains_admitReduce
    (round : Round)
    (action : Action)
    (turn : Turn) :
    Retains turn.desk (admitReduce round action turn).1.desk := by
  unfold admitReduce
  split
  · exact .refl turn.desk
  · exact retains_carryOut ..

theorem retains_admitExit
    (round : Round)
    (action : Action)
    (turn : Turn) :
    Retains turn.desk (admitExit round action turn).1.desk := by
  unfold admitExit
  split
  · exact retains_requestCancel turn action
  · exact retains_carryOut ..
  · exact .refl turn.desk

theorem retains_forceExit
    (round : Round)
    (action : Action)
    (distance : Decimal)
    (turn : Turn) :
    Retains turn.desk (forceExit round action distance turn).1.desk := by
  unfold forceExit
  simp only
  split
  · exact retains_carryOut ..
  · exact retains_requestCancel turn action
  · exact .refl turn.desk
  · exact .refl turn.desk

theorem retains_admitAction
    (round : Round)
    (action : Action)
    (turn : Turn) :
    Retains turn.desk (admitAction round action turn).1.desk := by
  unfold admitAction
  cases action.kind with
  | entry => exact retains_admitEntry round action turn
  | reduce => exact retains_admitReduce round action turn
  | exit => exact retains_admitExit round action turn
  | hold => exact .refl turn.desk
  | noAction => exact .refl turn.desk

/-! ## The gate -/

theorem retains_decideSymbol
    (round : Round)
    (agenda : Agenda)
    (symbol : Symbol)
    (turn : Turn) :
    Retains turn.desk (decideSymbol round agenda symbol turn).1.desk := by
  rw [decideSymbol_eq]
  refine retains_andThen ?_ fun next outcome => retains_aside rfl rfl
  cases judge round agenda turn.desk.book symbol with
  | accept => exact retains_admitAction round _ turn
  | reject rejection => exact retains_refuse turn.desk _
  | forceExit about distance => exact retains_forceExit round _ distance turn

theorem retains_decideAll
    (round : Round)
    (agenda : Agenda)
    (symbols : List Symbol)
    (turn : Turn) :
    Retains turn.desk (decideAll round agenda symbols turn).1.desk := by
  induction symbols generalizing turn with
  | nil => exact .refl turn.desk
  | cons symbol rest hypothesis =>
    rw [decideAll_cons]
    exact retains_andThen (retains_decideSymbol round agenda symbol turn)
      fun next decision =>
        retains_andThen (hypothesis next) fun last _ => .refl last.desk

theorem retains_resendOne
    (position : Position)
    (turn : Turn) :
    Retains turn.desk (resendOne position turn).1.desk := by
  unfold resendOne
  split
  · exact .refl turn.desk
  split
  · exact .refl turn.desk
  · rename_i kind order pending
    have sent :=
      retains_dispatch turn (resentAction position kind) order none
    generalize turn.dispatch (resentAction position kind) order none = result
      at sent
    rcases result with ⟨next, fault | id⟩ <;> exact sent

theorem retains_resendAll
    (positions : List Position)
    (turn : Turn) :
    Retains turn.desk (resendAll positions turn).1.desk := by
  induction positions generalizing turn with
  | nil => exact .refl turn.desk
  | cons position rest hypothesis =>
    rw [resendAll_cons]
    exact retains_andThen (retains_resendOne position turn)
      fun next _ => hypothesis next

theorem retains_gate
    (round : Round)
    (actions : OrderedMap Symbol Action)
    (turn : Turn) :
    Retains turn.desk (gate round actions turn).1.desk := by
  rw [gate_eq]
  refine retains_andThen (retains_decideAll round _ _ turn)
    fun decided decisions => ?_
  exact retains_andThen (retains_resendAll _ decided)
    fun resent _ => retains_aside rfl rfl

/-! ## Cycles -/

section Cycle

variable {desk : Desk} {parameters : Parameters} {feed : Feed}
variable {snapshot : Snapshot} {now : Instant}

/-- Without a time from which mandates count a cycle breaks down. -/
theorem runCycle_of_expire_none
    (fresh : feed.fresh parameters.oldestSnapshot now = .ok snapshot)
    (expiry : expire desk.registry parameters.mandateLifetime now = none)
    (limits : Risk.Limits)
    (room : Option Nat) :
    desk.runCycle parameters limits feed room now =
      (⟨desk.tripOverdue parameters.reservationTimeout now, [], room⟩,
        .brokeDown) := by
  rcases exists_tripOverdue_eq desk parameters.reservationTimeout now with
    ⟨halt, tripped⟩
  unfold runCycle decideOn
  simp only [fresh, tripped, expiry]

/-- With one it goes on with the mandates that are left, up to their status. -/
theorem runCycle_of_expire_some
    (fresh : feed.fresh parameters.oldestSnapshot now = .ok snapshot)
    {registry : Registry}
    {expired : Nat}
    (expiry :
      expire desk.registry parameters.mandateLifetime now =
        some (registry, expired))
    (limits : Risk.Limits)
    (room : Option Nat) :
    ∃ turn ending,
      desk.runCycle parameters limits feed room now = (turn, ending) ∧
      Retains (desk.collected parameters registry now) turn.desk ∧
      ending ≠ .brokeDown ∧
      ∀ summary, ending = .done summary → summary.expired = expired := by
  rcases exists_tripOverdue_eq desk parameters.reservationTimeout now with
    ⟨halt, tripped⟩
  have gated :=
    retains_gate (desk.roundOf parameters limits snapshot now)
      (arbitrate (desk.collected parameters registry now) parameters.aging
        now)
      ⟨desk.collected parameters registry now, [], room⟩
  unfold runCycle decideOn
  unfold roundOf collected at gated
  unfold collected
  simp only [fresh, tripped, expiry, Turn.on] at gated ⊢
  generalize gate _ _ _ = result at gated ⊢
  rcases result with ⟨next, fault | decisions⟩
  · refine ⟨_, _, rfl, gated, ?_, ?_⟩
    · rintro ⟨⟩
    · rintro summary ⟨⟩
  · refine ⟨_, _, rfl, gated.trans (retains_aside rfl rfl), ?_, ?_⟩
    · rintro ⟨⟩
    · rintro summary ⟨⟩
      rfl

/-- The latch after a cycle is as the check of reservations leaves it. -/
theorem halt_runCycle
    (desk : Desk)
    (parameters : Parameters)
    (limits : Risk.Limits)
    (feed : Feed)
    (room : Option Nat)
    (now : Instant) :
    (desk.runCycle parameters limits feed room now).1.desk.halt =
      (desk.tripOverdue parameters.reservationTimeout now).halt := by
  cases fresh : feed.fresh parameters.oldestSnapshot now with
  | error fault =>
    unfold runCycle
    simp only [fresh]
    rfl
  | ok snapshot =>
    cases expiry : expire desk.registry parameters.mandateLifetime now with
    | none => rw [runCycle_of_expire_none fresh expiry limits room]
    | some left =>
      rcases runCycle_of_expire_some fresh expiry limits room with
        ⟨turn, ending, ran, retains, _⟩
      rw [ran]
      exact retains.halt

end Cycle

end Desk

end MandateDesk
