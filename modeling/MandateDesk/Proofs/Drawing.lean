import MandateDesk.Proofs.Breakdown
import MandateDesk.Proofs.Correspondence
import MandateDesk.Proofs.Retrying

/-!
# What mandates are spent on

Behind most orders stands a mandate: the order is handed over because the
mandate is active.  An order that trades spends its mandate.  A cancel does
not, so that an exit may first cancel an entry and then close the position; and
an order that is handed over again, or that is imposed, has no mandate.

`Draws` says this of two registries, of the mandates that were registered in
between and of the orders that were handed over.  It holds of one ruling and
therefore of whole cycles and whole runs: a registration is good for one order
that trades, and after that order nothing is handed over for it.

Registrations are what is counted, and not identifiers.  A mandate that was
spent is dropped by the next cycle, and the registry takes its identifier again
from then on.
-/

namespace MandateDesk

namespace Venue.Dispatch

/-- A dispatch trades, and spends a mandate on that. -/
def spends (id : Identifier) (dispatch : Dispatch) : Bool :=
  dispatch.order.admission?.isSome && decide (dispatch.action.mandate = some id)

theorem spends_iff
    (id : Identifier)
    (dispatch : Dispatch) :
    dispatch.spends id = true ↔
      dispatch.order.admission?.isSome = true ∧
        dispatch.action.mandate = some id := by
  simp [spends]

end Venue.Dispatch

namespace Registry

/-- The mandate with an identifier, if it is active. -/
def active? (registry : Registry) (id : Identifier) : Option Mandate :=
  (registry.get? id).filter Mandate.isActive

theorem active?_eq_some_iff
    (registry : Registry)
    (id : Identifier)
    (mandate : Mandate) :
    registry.active? id = some mandate ↔
      registry.get? id = some mandate ∧ mandate.isActive = true :=
  Option.filter_eq_some_iff

/-- The number of orders that the mandate with an identifier is good for. -/
def uses (registry : Registry) (id : Identifier) : Nat :=
  (registry.active? id).isSome.toNat

theorem uses_of_active
    {registry : Registry}
    {id : Identifier}
    {mandate : Mandate}
    (active : registry.active? id = some mandate) :
    registry.uses id = 1 := by
  simp [uses, active]

theorem uses_of_inactive
    {registry : Registry}
    {id : Identifier}
    (inactive : registry.active? id = none) :
    registry.uses id = 0 := by
  simp [uses, inactive]

theorem uses_le_one
    (registry : Registry)
    (id : Identifier) :
    registry.uses id ≤ 1 :=
  Bool.toNat_le _

/-- Where no mandate becomes active, none gets more uses. -/
theorem uses_le_uses
    {before after : Registry}
    {id : Identifier}
    (kept : ∀ {mandate}, after.active? id = some mandate →
      before.active? id = some mandate) :
    after.uses id ≤ before.uses id := by
  cases active : after.active? id with
  | none => simp [uses, active]
  | some mandate => simp [uses, active, kept active]

theorem active?_settled
    (registry : Registry)
    (mandate : Mandate)
    {status : Mandate.Status}
    (inactive : status.isActive = false)
    (id : Identifier) :
    (registry.settled mandate status).active? id =
      if id = mandate.id then none else registry.active? id := by
  unfold active?
  rw [get?_settled]
  split
  · simp [withStatus, Mandate.isActive, inactive]
  · rfl

theorem active?_adding
    (registry : Registry)
    {mandate : Mandate}
    (active : mandate.isActive = true)
    (id : Identifier) :
    (registry.adding mandate).active? id =
      if id = mandate.id then some mandate else registry.active? id := by
  unfold active?
  rw [get?_adding]
  split
  · simp [active]
  · rfl

/-- Moving active mandates to another status makes none active. -/
theorem active?_of_moveWhere
    {registry : Registry}
    {status : Mandate.Status}
    (inactive : status.isActive = false)
    {test : Mandate → Bool}
    {id : Identifier}
    {mandate : Mandate}
    (active :
      (registry.moveWhere status test).1.active? id = some mandate) :
    registry.active? id = some mandate := by
  rw [active?_eq_some_iff, get?_moveWhere] at active
  rcases active with ⟨found, active⟩
  rcases Option.map_eq_some_iff.mp found with ⟨known, stored, moved⟩
  split at moved
  · subst moved
    simp [withStatus, Mandate.isActive, inactive] at active
  · subst moved
    exact (active?_eq_some_iff _ _ _).mpr ⟨stored, active⟩

end Registry

namespace Desk

open Venue (Dispatch)

/-- The registrations under an identifier. -/
def registrations (registered : List Mandate) (id : Identifier) : Nat :=
  registered.countP fun mandate => decide (mandate.id = id)

/-- What is handed over for mandates on the way to another registry. -/
structure Draws (before after : Registry) (registered : List Mandate)
    (handed : List Dispatch) : Prop where
  /-- What is active was so before, or was registered. -/
  kept : ∀ {id mandate}, after.active? id = some mandate →
    before.active? id = some mandate ∨ mandate ∈ registered
  /-- Behind an order stands an active mandate of its symbol. -/
  drawn : ∀ {dispatch id}, dispatch ∈ handed →
    dispatch.action.mandate = some id →
      ∃ mandate,
        (before.active? id = some mandate ∨ mandate ∈ registered) ∧
          mandate.id = id ∧ mandate.symbol = dispatch.symbol
  /-- Each registration is good for one order that trades. -/
  counted : ∀ id,
    handed.countP (Dispatch.spends id) + after.uses id ≤
      before.uses id + registrations registered id
  /-- Such an order is the last one for its registration. -/
  last : ∀ id, before.uses id + registrations registered id ≤ 1 →
    handed.Pairwise fun earlier later =>
      earlier.spends id = true → later.action.mandate ≠ some id

namespace Draws

/-- Mandates that are not active any more hand nothing over. -/
theorem of_kept
    {before after : Registry}
    (kept : ∀ {id mandate}, after.active? id = some mandate →
      before.active? id = some mandate) :
    Draws before after [] [] where
  kept active := Or.inl (kept active)
  drawn member := by simp at member
  counted id := by
    have fewer := @Registry.uses_le_uses before after id kept
    simp only [List.countP_nil, registrations]
    omega
  last id _ := List.Pairwise.nil

theorem refl (registry : Registry) : Draws registry registry [] [] :=
  of_kept id

/-- One order is handed over, and an order that trades spends its mandate. -/
theorem of_order
    {before after : Registry}
    {dispatch : Dispatch}
    (kept : ∀ {id mandate}, after.active? id = some mandate →
      before.active? id = some mandate)
    (drawn : ∀ {id}, dispatch.action.mandate = some id →
      ∃ mandate, before.active? id = some mandate ∧ mandate.id = id ∧
        mandate.symbol = dispatch.symbol)
    (spent : ∀ {id}, dispatch.spends id = true → after.active? id = none) :
    Draws before after [] [dispatch] where
  kept active := Or.inl (kept active)
  drawn member carries := by
    rw [List.mem_singleton.mp member] at carries ⊢
    rcases drawn carries with ⟨mandate, active, named, about⟩
    exact ⟨mandate, Or.inl active, named, about⟩
  counted id := by
    rw [List.countP_singleton]
    split
    · rename_i spends
      rcases drawn ((dispatch.spends_iff id).mp spends).2 with
        ⟨mandate, active, _⟩
      rw [Registry.uses_of_inactive (spent spends),
        Registry.uses_of_active active]
      omega
    · have fewer := @Registry.uses_le_uses before after id kept
      omega
  last id _ := List.pairwise_singleton _ _

theorem registering
    {registry : Registry}
    {mandate : Mandate}
    (active : mandate.isActive = true) :
    Draws registry (registry.adding mandate) [mandate] [] where
  kept {id other} found := by
    rw [Registry.active?_adding registry active] at found
    split at found
    · cases found
      exact Or.inr (List.mem_singleton_self _)
    · exact Or.inl found
  drawn member := by simp at member
  counted id := by
    by_cases same : id = mandate.id
    · subst same
      have taken :=
        (registry.adding mandate).uses_le_one mandate.id
      simp only [List.countP_nil, registrations, List.countP_singleton,
        decide_true, if_true]
      omega
    · have still :
          (registry.adding mandate).uses id = registry.uses id := by
        unfold Registry.uses
        rw [Registry.active?_adding registry active, if_neg same]
      simp only [List.countP_nil, still]
      omega
  last id _ := List.Pairwise.nil

/-- For an order to be handed over there is a use left. -/
theorem uses_pos
    {before after : Registry}
    {registered : List Mandate}
    {handed : List Dispatch}
    (draws : Draws before after registered handed)
    {dispatch : Dispatch}
    {id : Identifier}
    (member : dispatch ∈ handed)
    (carries : dispatch.action.mandate = some id) :
    0 < before.uses id + registrations registered id := by
  rcases draws.drawn member carries with ⟨mandate, active | listed, same, _⟩
  · rw [Registry.uses_of_active active]
    omega
  · have counted : 0 < registrations registered id :=
      List.countP_pos_iff.mpr ⟨mandate, listed, decide_eq_true same⟩
    omega

theorem trans
    {first second third : Registry}
    {early late : List Mandate}
    {sent later : List Dispatch}
    (before : Draws first second early sent)
    (after : Draws second third late later) :
    Draws first third (early ++ late) (sent ++ later) where
  kept active := by
    rcases after.kept active with known | listed
    · rcases before.kept known with earlier | listed
      · exact Or.inl earlier
      · exact Or.inr (List.mem_append_left _ listed)
    · exact Or.inr (List.mem_append_right _ listed)
  drawn member carries := by
    rcases List.mem_append.mp member with here | there
    · rcases before.drawn here carries with ⟨mandate, source, rest⟩
      exact ⟨mandate, source.imp_right (List.mem_append_left _), rest⟩
    · rcases after.drawn there carries with
        ⟨mandate, active | listed, rest⟩
      · exact ⟨mandate,
          (before.kept active).imp_right (List.mem_append_left _), rest⟩
      · exact ⟨mandate, Or.inr (List.mem_append_right _ listed), rest⟩
  counted id := by
    have here := before.counted id
    have there := after.counted id
    unfold registrations at here there ⊢
    rw [List.countP_append, List.countP_append]
    omega
  last id once := by
    have here := before.counted id
    have split :
        registrations (early ++ late) id =
          registrations early id + registrations late id :=
      List.countP_append
    rw [split] at once
    refine List.pairwise_append.mpr
      ⟨before.last id (by omega), after.last id (by omega), ?_⟩
    -- an order that trades uses up what the orders after it would need
    intro earlier listed other member spends carries
    have traded : 0 < sent.countP (Dispatch.spends id) :=
      List.countP_pos_iff.mpr ⟨earlier, listed, spends⟩
    have left := after.uses_pos member carries
    omega

end Draws

/-! ## Rulings, runs and cycles -/

theorem Backs.active?_eq
    {desk : Desk}
    {action : Action}
    {mandate : Mandate}
    (wish : Backs desk action mandate) :
    desk.registry.active? mandate.id = some mandate :=
  (Registry.active?_eq_some_iff _ _ _).mpr ⟨wish.stored, wish.active⟩

theorem Backs.symbol_eq
    {desk : Desk}
    {action : Action}
    {mandate : Mandate}
    (wish : Backs desk action mandate) :
    mandate.symbol = action.symbol := by
  rw [wish.action_eq, Action.symbol_ofMandate]

/-- The mandate behind an action that was asked for is active. -/
theorem Asked.drawn
    {desk : Desk}
    {symbol : Symbol}
    {action : Action}
    (asked : Asked desk symbol action)
    {id : Identifier}
    (carries : action.mandate = some id) :
    ∃ mandate, desk.registry.active? id = some mandate ∧ mandate.id = id ∧
      mandate.symbol = action.symbol := by
  cases asked with
  | nothing => simp [Action.noAction] at carries
  | wish backs =>
    rw [backs.mandate_eq] at carries
    cases carries
    exact ⟨_, backs.active?_eq, rfl, backs.symbol_eq⟩

/-- An order that nobody asked for draws on no mandate. -/
theorem draws_imposed
    (registry : Registry)
    {dispatch : Dispatch}
    (imposed : dispatch.action.mandate = none) :
    Draws registry registry [] [dispatch] := by
  refine .of_order (fun active => active) (fun carries => ?_)
    fun spends => ?_
  · simp [imposed] at carries
  · simp [Venue.Dispatch.spends, imposed] at spends

/-- An order consumes the mandate behind it. -/
theorem draws_consumed
    {desk : Desk}
    {action : Action}
    {mandate : Mandate}
    (wish : Backs desk action mandate)
    (issuer : Desk)
    (order : Venue.Order)
    (reservation : Option Reservation.Receipt) :
    Draws desk.registry (desk.registry.settled mandate .consumed) []
      [issuer.issue action order reservation] := by
  have settled :=
    @Registry.active?_settled desk.registry mandate .consumed rfl
  have carried {id : Identifier}
      (carries : action.mandate = some id) : mandate.id = id :=
    Option.some.inj (wish.mandate_eq.symm.trans carries)
  refine .of_order (fun {id other} active => ?_) (fun {id} carries => ?_)
    fun {id} spends => ?_
  · rw [settled] at active
    split at active
    · contradiction
    · exact active
  · rw [← carried carries]
    exact ⟨mandate, wish.active?_eq, rfl, wish.symbol_eq⟩
  · have same := carried ((Venue.Dispatch.spends_iff _ _).mp spends).2
    rw [settled, if_pos same.symm]

/-- A ruling draws on the mandate behind its action and on no other. -/
theorem Ruling.draws
    {round : Round}
    {desk after : Desk}
    {symbol : Symbol}
    {action : Action}
    {verdict : Risk.Verdict}
    {outcome : Outcome}
    {sent : List Dispatch}
    (asked : Asked desk symbol action)
    (ruling : Ruling round desk action verdict after outcome sent) :
    Draws desk.registry after.registry [] sent := by
  cases ruling with
  | idle => exact .refl _
  | refused wish =>
    refine .of_kept fun {id other} active => ?_
    have found := active
    rw [Registry.active?_settled _ _ rfl] at found
    split at found
    · contradiction
    · exact found
  | cancelled leaving =>
    cases leaving with
    | wished =>
      refine .of_order (fun active => active)
        (fun carries => asked.drawn carries) fun spends => ?_
      simp [Venue.Dispatch.spends, issue, Venue.Order.admission?] at spends
    | imposed => exact draws_imposed _ rfl
  | entered wish => exact draws_consumed wish _ _ _
  | reduced wish => exact draws_consumed wish _ _ _
  | exited leaving spent =>
    cases spent with
    | nobody imposed => exact draws_imposed _ imposed
    | consumed wish => exact draws_consumed wish _ _ _

theorem Decided.draws
    {round : Round}
    {agenda : Agenda}
    {symbols : List Symbol}
    {desk last : Desk}
    {decisions : List Decision}
    {sent : List Dispatch}
    (run : Decided round agenda symbols desk last decisions sent) :
    Draws desk.registry last.registry [] sent := by
  induction run with
  | nil => exact .refl _
  | cons _ _ asked ruling _ hypothesis =>
    exact (ruling.draws asked).trans hypothesis

/-- An order that is handed over again draws on no mandate. -/
theorem Resent.draws
    {desk last : Desk}
    {sent : List Dispatch}
    (resent : Resent desk last sent) :
    Draws desk.registry last.registry [] sent := by
  induction resent with
  | done => exact .refl _
  | again _ _ _ _ _ hypothesis => exact (draws_imposed _ rfl).trans hypothesis

theorem draws_expire
    {registry next : Registry}
    {lifetime count : Nat}
    {now : Instant}
    (expiry : expire registry lifetime now = some (next, count)) :
    Draws registry next [] [] := by
  refine .of_kept fun {id mandate} active => ?_
  rw [Registry.active?_eq_some_iff, get?_expire expiry,
    Option.filter_eq_some_iff] at active
  exact (Registry.active?_eq_some_iff _ _ _).mpr ⟨active.1.1, active.2⟩

theorem draws_cancelSource
    (registry : Registry)
    (source : String) :
    Draws registry (registry.cancelSource source).1 [] [] :=
  .of_kept fun active => Registry.active?_of_moveWhere rfl active

/-- A cycle draws on the mandates that it finds. -/
theorem Coherent.draws_runCycle
    {desk : Desk}
    (coherent : desk.Coherent)
    (parameters : Parameters)
    (limits : Risk.Limits)
    (feed : Feed)
    (now : Instant) :
    Draws desk.registry
      (desk.runCycle parameters limits feed none now).1.desk.registry []
      (desk.runCycle parameters limits feed none now).1.outbox := by
  have cycled := coherent.cycled parameters limits feed now
  generalize (desk.runCycle parameters limits feed none now).1 = turn
    at cycled ⊢
  cases cycled with
  | idle => exact .refl _
  | worked worked =>
    rcases worked with ⟨expiry, run, resending, served⟩
    exact (draws_expire expiry).trans (run.draws.trans resending.draws)

/-! ## Runs -/

theorem registry_withdraw
    (desk : Desk)
    (symbol : Symbol) :
    (desk.withdraw symbol).registry = desk.registry := by
  unfold withdraw
  split
  · rfl
  · split <;> rfl

theorem registry_apply
    (desk : Desk)
    (symbol : Symbol)
    (event : Position.Event)
    (now : Instant) :
    (desk.apply symbol event now).1.registry = desk.registry := by
  unfold Desk.apply
  split
  · rfl
  · unfold persist
    split
    · rfl
    · split <;> rfl

/-- A report changes no mandate. -/
theorem registry_settle
    (desk : Desk)
    (report : Venue.Report)
    (now : Instant) :
    (desk.settle report now).1.registry = desk.registry := by
  have applied (event : Position.Event) :=
    registry_apply { desk with tally := desk.tally.withReport } report.symbol
      event now
  unfold settle settleWorking Desk.conclude
  simp only
  split
  · split
    · rfl
    · rename_i event meant
      have kept := applied event
      generalize Desk.apply _ report.symbol event now = result at kept ⊢
      rcases result with ⟨next, fault | transition⟩
      · exact kept
      · simp only
        split
        · exact kept
        · exact (registry_withdraw next report.symbol).trans kept
  · rfl

end Desk

theorem Course.registry_spurned
    (desk : Desk)
    (dispatch : Venue.Dispatch) :
    (spurned desk dispatch).registry = desk.registry := by
  unfold spurned Desk.keepEntry
  split
  · split
    · rfl
    · split <;> rfl
  · rfl

/-- All that is handed over in a run draws on what was registered in it. -/
theorem Course.Reached.draws
    {course : Course}
    (reached : course.Reached) :
    Desk.Draws Registry.empty course.desk.registry course.registered
      course.handed := by
  induction reached with
  | blank store => exact .refl _
  | recovered ran => exact .refl _
  | @step course _ earlier step draws =>
    have onward {after : Registry} {registered : List Mandate}
        {handed : List Venue.Dispatch}
        (next :
          Desk.Draws course.desk.registry after registered handed) :=
      draws.trans next
    cases step with
    | submit registered =>
      rcases (Registry.register_eq_ok_iff _ _ _).mp registered with
        ⟨⟨active, _⟩, _, rfl⟩
      have next := onward (.registering active)
      rw [List.append_nil] at next
      exact next
    | cancelSource source =>
      have next := onward (Desk.draws_cancelSource _ source)
      rw [List.append_nil, List.append_nil] at next
      exact next
    | cycle parameters limits feed now =>
      have next :=
        onward
          (earlier.coherent.draws_runCycle parameters limits feed now)
      rw [List.append_nil] at next
      exact next
    | take => exact draws
    | @refuse dispatch rest =>
      show Desk.Draws _ (spurned course.desk dispatch).registry _ _
      rw [registry_spurned]
      exact draws
    | report report now =>
      show Desk.Draws _ (course.desk.settle report now).1.registry _ _
      rw [Desk.registry_settle]
      exact draws
    | keep => exact draws

namespace History

open Venue (Dispatch)

/-- A valid mandate is registered unless its identifier is stored. -/
theorem reply_submit
    (session : Session)
    (now : Instant)
    {mandate : Mandate}
    (valid : mandate.validate = .ok ()) :
    (session.step now (.submit mandate)).reply =
      if (session.desk.registry.get? mandate.id).isSome then
        .failed (.duplicateMandate mandate.id)
      else .registered mandate.id := by
  unfold Session.step Session.submit Registry.register
  simp only [valid]
  have same :
      session.desk.registry.mandates.contains mandate.id =
        (session.desk.registry.get? mandate.id).isSome :=
    rfl
  rw [same]
  cases (session.desk.registry.get? mandate.id).isSome <;> rfl

/--
Each registration is good for one order that trades: no more orders carry an
identifier than there were registrations under it, however often and whenever
mandates are submitted.  A valid mandate is registered unless its identifier is
stored at that time.
-/
theorem orders_within_registrations
    {history : History}
    (reached : history.Reached)
    (id : Identifier) :
    history.handed.countP (Dispatch.spends id) ≤
        Desk.registrations history.registered id ∧
      ∀ mandate now,
        mandate.id = id →
        mandate.validate = .ok () →
        (history.session.step now (.submit mandate)).reply =
          if (history.session.desk.registry.get? id).isSome then
            .failed (.duplicateMandate id)
          else .registered id := by
  constructor
  · rcases reached.exists_whole with ⟨whole, shortens⟩
    have counted := shortens.unbroken.course.draws.counted id
    have fewer :=
      @List.Sublist.countP_le _ (Dispatch.spends id) _ _
        shortens.handed.sublist
    have more :=
      @List.Sublist.countP_le _ (fun mandate => decide (mandate.id = id)) _ _
        shortens.registered.sublist
    simp only [Registry.uses_of_inactive
      (show Registry.empty.active? id = none from rfl)] at counted
    unfold Desk.registrations at counted ⊢
    omega
  · rintro mandate now rfl valid
    exact reply_submit history.session now valid

namespace Sample

open Desk.Sample

/--
The run in which a reduction is submitted again once it was filled and the next
cycle was run.
-/
def reducedTwice : History :=
  (beginning Desk.Sample.beginning).through
    [(moment 1, .submit entry),
      (moment 1, .cycle),
      (moment 1, .report ⟨.issued 1, symbol, .filled one hundred⟩),
      (moment 1, .submit halving),
      (moment 1, .cycle),
      (moment 1, .report ⟨.issued 2, symbol, .filled half hundred⟩),
      (moment 1, .cycle),
      (moment 1, .submit halving),
      (moment 1, .cycle)]

theorem reached_reducedTwice : reducedTwice.Reached :=
  (Reached.start (.blank _ _ _ _ _)).through _

/-- The orders that carry the reduction have both been registered. -/
theorem orders_within_registrations_reducedTwice :
    0 < reducedTwice.handed.countP (Dispatch.spends halving.id) ∧
      reducedTwice.handed.countP (Dispatch.spends halving.id) ≤
        Desk.registrations reducedTwice.registered halving.id :=
  ⟨by decide +kernel,
    (orders_within_registrations reached_reducedTwice halving.id).1⟩

/-- A mandate that is submitted again once it was dropped is ordered again. -/
theorem reduction_is_ordered_twice :
    reducedTwice.Reached ∧
      (∀ mandate ∈ reducedTwice.registered,
        mandate.id = halving.id → mandate = halving) ∧
      reducedTwice.handed.countP (Dispatch.spends halving.id) = 2 :=
  ⟨reached_reducedTwice, by decide +kernel, by decide +kernel⟩

end Sample

end History

end MandateDesk
