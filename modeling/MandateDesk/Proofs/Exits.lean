import MandateDesk.Proofs.Coupling

/-!
# Exits get through

An exit takes effect in the cycle that hears of it.  A ruling on an action that
leaves a position closes the position when it is open, and cancels its entry
when one works: there is no third way.  A cycle leaves an open position when an
exit is wished for or when the position is critically close to its
liquidation, whatever else is wished for, whatever happens to other symbols,
and whatever the latch says.
-/

namespace MandateDesk.Desk

/-! ## Rulings that leave a position -/

section Leaving

variable {round : Round} {desk after : Desk} {action : Action}
variable {verdict : Risk.Verdict} {outcome : Outcome}
variable {sent : List Venue.Dispatch}

/-- When nothing comes of leaving a position, there is nothing to be done. -/
theorem Idle.of_leaving
    (reason : Idle desk action verdict outcome)
    (leaving : Leaving action verdict) :
    desk.book.stateOf action.symbol ≠ .opened ∧
      (desk.book.stateOf action.symbol = .entering →
        desk.cancellable? action.symbol = none) := by
  cases reason with
  | content kind =>
    cases leaving with
    | wished exit =>
      rw [exit] at kind
      contradiction
  | halted kind =>
    cases leaving with
    | wished exit =>
      rw [exit] at kind
      contradiction
  | awaited _ entering vacant => exact ⟨by simp [entering], fun _ => vacant⟩
  | flat flat => simp [flat]
  | busy busy => rcases busy with busy | busy <;> simp [busy]

/-- Leaving an open position closes all of it by a single order. -/
theorem Ruling.closes
    (ruling : Ruling round desk action verdict after outcome sent)
    (leaving : Leaving action verdict)
    {position : Position}
    (found : desk.book.get? action.symbol = some position)
    (state : position.state = .opened) :
    after.book.get? action.symbol = some (position.startClose round.now) ∧
      (after.working.find? action.symbol).isSome = true ∧
      ∃ dispatch, sent = [dispatch] ∧
        dispatch.order = .close position.quantity := by
  have stands : desk.book.stateOf action.symbol = .opened := by
    rw [Book.stateOf_of_get? found, state]
  cases ruling with
  | idle reason => exact absurd stands (reason.of_leaving leaving).1
  | refused => cases leaving
  | cancelled _ entering =>
    rw [stands] at entering
    contradiction
  | entered wish kind checked unlatched directed flat =>
    rw [stands] at flat
    contradiction
  | reduced wish kind =>
    cases leaving with
    | wished exit =>
      rw [exit] at kind
      contradiction
  | exited _ spent held _ =>
    rw [held] at found
    cases found
    refine ⟨?_, ?_, _, rfl, rfl⟩
    · show (desk.book.moved action.symbol _).get? action.symbol = _
      rw [Book.get?_moved, if_pos rfl]
    · show (OrderedMap.find? (desk.working.insert action.symbol _)
        action.symbol).isSome = true
      rw [OrderedMap.find?_insert, if_pos rfl]
      rfl

/-- Leaving a position that is being entered cancels its entry. -/
theorem Ruling.cancels
    (coherent : desk.Coherent)
    (ruling : Ruling round desk action verdict after outcome sent)
    (leaving : Leaving action verdict)
    (state : desk.book.stateOf action.symbol = .entering) :
    ∃ order, after.working.find? action.symbol = some order ∧
      order.order.isEntry = true ∧ order.isCancelled = true := by
  cases ruling with
  | idle reason =>
    have vacant := (reason.of_leaving leaving).2 state
    rcases (coherent.coupled action.symbol).entry_iff_entering.mpr state with
      ⟨order, working, entry⟩
    refine ⟨order, working, entry, ?_⟩
    unfold cancellable? at vacant
    rw [working] at vacant
    simpa [entry] using vacant
  | refused => cases leaving
  | cancelled wished entering working =>
    rename_i order
    rcases find?_of_cancellable? working with ⟨_, _, entry⟩
    refine ⟨{ order with isCancelled := true }, ?_, entry, rfl⟩
    show OrderedMap.find? (desk.working.insert action.symbol _)
      action.symbol = _
    rw [OrderedMap.find?_insert, if_pos rfl]
  | entered wish kind checked unlatched directed flat =>
    rw [state] at flat
    contradiction
  | reduced wish kind found opened =>
    rw [Book.stateOf_of_get? found, opened] at state
    contradiction
  | exited wished spent found opened =>
    rw [Book.stateOf_of_get? found, opened] at state
    contradiction

end Leaving

/-! ## Judgements that leave a position -/

/-- An action that is an exit already is let pass. -/
theorem leaving_of_exit
    (round : Round)
    {agenda : Agenda}
    (book : Book)
    {symbol : Symbol}
    (exit : (agenda.actionOf symbol).kind = .exit) :
    Leaving (agenda.actionOf symbol) (judge round agenda book symbol) := by
  have passed : judge round agenda book symbol = .accept := by
    simp [judge, Agenda.override?, Risk.judge, Risk.override?,
      Risk.judgeAlone, exit]
  rw [passed]
  exact .wished exit

/-- On a critical position the action is an exit, or is replaced by one. -/
theorem leaving_of_critical
    (round : Round)
    {agenda : Agenda}
    (book : Book)
    {symbol : Symbol}
    (critical : (agenda.critical.find? symbol).isSome = true) :
    Leaving (agenda.actionOf symbol) (judge round agenda book symbol) := by
  by_cases exit : (agenda.actionOf symbol).kind = .exit
  · exact leaving_of_exit round book exit
  · rcases Option.isSome_iff_exists.mp critical with ⟨distance, found⟩
    have forced :
        judge round agenda book symbol = .forceExit symbol distance := by
      simp [judge, Agenda.override?, exit, found]
    rw [forced]
    exact .imposed

/-- The positions that are critical at the beginning are on the agenda. -/
theorem isSome_critical
    (round : Round)
    {desk : Desk}
    (coherent : desk.Coherent)
    (actions : OrderedMap Symbol Action)
    {symbol : Symbol}
    {position : Position}
    (found : desk.book.get? symbol = some position)
    {distance : Decimal}
    (measured :
      Risk.distance? round.view desk.book.positions position =
        some distance)
    (below : distance < round.view.limits.criticalDistance) :
    ((agenda round desk.book actions).critical.find? symbol).isSome =
      true := by
  unfold agenda
  rw [OrderedMap.isSome_find?_ofList]
  refine List.mem_map.mpr ⟨(symbol, distance), ?_, rfl⟩
  refine List.mem_filterMap.mpr ⟨position, ?_, ?_⟩
  · exact (OrderedMap.mem_values_iff _ position).mpr ⟨symbol, found⟩
  · simp [Risk.criticalDistance?, measured, below, coherent.keyed found]

/-! ## Cycles that leave a position -/

/-- An exit is wished for by a mandate that has not outlived its time. -/
def WishesExit
    (desk : Desk)
    (lifetime : Nat)
    (now : Instant)
    (symbol : Symbol) :
    Prop :=
  ∃ mandate, desk.registry.get? mandate.id = some mandate ∧
    mandate.symbol = symbol ∧ mandate.kind = .exit ∧
    mandate.isActive = true ∧ outlived lifetime now mandate = false

/-- A position is closer to its liquidation than the limits allow. -/
def IsCritical
    (desk : Desk)
    (view : Risk.View)
    (position : Position) :
    Prop :=
  ∃ distance,
    Risk.distance? view desk.book.positions position = some distance ∧
      distance < view.limits.criticalDistance

/-- A symbol is decided on, and its position is left whatever the book says. -/
structure Vacates (round : Round) (agenda : Agenda) (symbol : Symbol) :
    Prop where
  listed : symbol ∈ agenda.symbols
  leaving : ∀ book,
    Leaving (agenda.actionOf symbol) (judge round agenda book symbol)

section Cycle

variable {desk : Desk} {parameters : Parameters} {limits : Risk.Limits}
variable {snapshot : Snapshot} {now : Instant} {registry : Registry}
variable {expired : Nat}

/-- A wish that has not outlived its time is heard by the gate. -/
theorem stored_collected
    (expiry :
      expire desk.registry parameters.mandateLifetime now =
        some (registry, expired))
    {mandate : Mandate}
    (stored : desk.registry.get? mandate.id = some mandate)
    (active : mandate.isActive = true)
    (young : outlived parameters.mandateLifetime now mandate = false) :
    (desk.collected parameters registry now).registry.get? mandate.id =
      some mandate := by
  show registry.get? mandate.id = some mandate
  rw [get?_expire expiry, stored]
  simp [active, young]

/-- A cycle leaves every position that an exit is wished for. -/
theorem vacates_of_wishesExit
    (limits : Risk.Limits)
    (snapshot : Snapshot)
    (coherent : desk.Coherent)
    (expiry :
      expire desk.registry parameters.mandateLifetime now =
        some (registry, expired))
    {symbol : Symbol}
    (admitted : (desk.book.stateOf symbol).admits .exit = true)
    (wishes : desk.WishesExit parameters.mandateLifetime now symbol) :
    Vacates (desk.roundOf parameters limits snapshot now)
      (desk.agendaOf parameters limits snapshot registry now) symbol := by
  rcases wishes with ⟨mandate, stored, rfl, kind, active, young⟩
  have consistent :=
    (coherent.collected (consistent_expire coherent.registry expiry)
      parameters now).registry
  have heard := stored_collected expiry stored active young
  refine ⟨mem_symbols_of_active consistent heard active _ _ _, fun book => ?_⟩
  refine leaving_of_exit _ book
    (kind_actionOf_of_exit consistent heard active kind ?_ _ _ _)
  rw [book_collected]
  exact admitted

/-- A cycle leaves every position that is critical. -/
theorem vacates_of_isCritical
    (coherent : desk.Coherent)
    (expiry :
      expire desk.registry parameters.mandateLifetime now =
        some (registry, expired))
    {symbol : Symbol}
    {position : Position}
    (found : desk.book.get? symbol = some position)
    (critical :
      desk.IsCritical ⟨limits, snapshot.account, snapshot.prices⟩ position) :
    Vacates (desk.roundOf parameters limits snapshot now)
      (desk.agendaOf parameters limits snapshot registry now) symbol := by
  rcases critical with ⟨distance, measured, below⟩
  have ready :=
    coherent.collected (consistent_expire coherent.registry expiry)
      parameters now
  have listed :=
    isSome_critical (desk.roundOf parameters limits snapshot now) ready
      ((desk.collected parameters registry now).arbitrate parameters.aging
        now)
      (by rw [book_collected]; exact found)
      (by rw [book_collected]; exact measured) below
  refine ⟨?_, fun book => leaving_of_critical _ book listed⟩
  unfold Agenda.symbols
  rw [OrderedMap.mem_sortedKeys]
  refine List.mem_append_right _ ?_
  rw [OrderedMap.mem_keys_iff]
  exact listed

end Cycle

section Gate

variable {round : Round} {agenda : Agenda} {found decided last : Desk}
variable {decisions : List Decision} {sent resent : List Venue.Dispatch}
variable {symbol : Symbol}

/-- The gate closes an open position that it leaves, by a single order. -/
theorem closes_of_vacates
    (run :
      Decided round agenda agenda.symbols found decided decisions sent)
    (resending : Resent decided last resent)
    (vacates : Vacates round agenda symbol)
    {position : Position}
    (held : found.book.get? symbol = some position)
    (state : position.state = .opened) :
    last.book.get? symbol = some (position.startClose round.now) ∧
      ∃ dispatch,
        ((sent ++ resent).filter fun dispatch =>
          dispatch.symbol = symbol) = [dispatch] ∧
        dispatch.order = .close position.quantity := by
  rcases run.decidedAt vacates.listed with
    ⟨coherent, asked, earlier, ruling, later, listed, handed⟩
  rename_i before after outcome own
  have about := asked.symbol_eq
  have filed : before.book.get? symbol = some position := by
    rw [earlier.agrees.book]
    exact held
  rcases
      ruling.closes (vacates.leaving _) (by rw [about]; exact filed) state with
    ⟨closing, working, dispatch, single, order⟩
  rw [about] at closing working
  have none_resent :
      (resent.filter fun dispatch => dispatch.symbol = symbol) = [] := by
    rw [List.filter_eq_nil_iff]
    intro again member same
    have vacant := resending.vacant member
    rw [of_decide_eq_true same, later.agrees.working] at vacant
    rw [vacant] at working
    contradiction
  refine ⟨?_, dispatch, ?_, order⟩
  · rw [resending.book, later.agrees.book]
    exact closing
  · rw [List.filter_append, handed, none_resent, single, List.append_nil]

/-- The gate cancels the entry of a position that it leaves. -/
theorem cancels_of_vacates
    (run :
      Decided round agenda agenda.symbols found decided decisions sent)
    (resending : Resent decided last resent)
    (vacates : Vacates round agenda symbol)
    (state : found.book.stateOf symbol = .entering) :
    ∃ order, last.working.find? symbol = some order ∧
      order.order.isEntry = true ∧ order.isCancelled = true := by
  rcases run.decidedAt vacates.listed with
    ⟨coherent, asked, earlier, ruling, later, listed, handed⟩
  rename_i before after outcome own
  have about := asked.symbol_eq
  have entering : before.book.stateOf symbol = .entering := by
    rw [stateOf_of_agrees earlier.agrees]
    exact state
  rcases
      ruling.cancels coherent (vacates.leaving _)
        (by rw [about]; exact entering) with
    ⟨order, working, entry, cancelled⟩
  rw [about, ← later.agrees.working] at working
  exact ⟨order, resending.working working, entry, cancelled⟩

end Gate

section Worked

variable {desk : Desk} {parameters : Parameters} {limits : Risk.Limits}
variable {snapshot : Snapshot} {now : Instant} {turn : Turn}
variable {summary : CycleSummary} {symbol : Symbol}

/-- A cycle only does its work where the mandates could be expired. -/
theorem Worked.isSome_expire
    (worked : Worked desk parameters limits snapshot now turn summary) :
    (expire desk.registry parameters.mandateLifetime now).isSome = true := by
  rcases worked with ⟨expiry⟩
  rw [expiry]
  rfl

theorem Worked.closes
    (coherent : desk.Coherent)
    (worked : Worked desk parameters limits snapshot now turn summary)
    {position : Position}
    (found : desk.book.get? symbol = some position)
    (state : position.state = .opened)
    (urgent :
      desk.WishesExit parameters.mandateLifetime now symbol ∨
        desk.IsCritical ⟨limits, snapshot.account, snapshot.prices⟩
          position) :
    (∃ next, turn.desk.book.get? symbol = some next ∧
      next.state = .closing ∧ next.quantity = position.quantity) ∧
    ∃ dispatch,
      (turn.outbox.filter fun dispatch => dispatch.symbol = symbol) =
        [dispatch] ∧
      dispatch.order = .close position.quantity := by
  rcases worked with ⟨expiry, run, resending, served⟩
  rename_i registry expired decided decisions sent last resent reading tally
  have vacates :
      Vacates (desk.roundOf parameters limits snapshot now)
        (desk.agendaOf parameters limits snapshot registry now) symbol := by
    rcases urgent with wishes | critical
    · refine vacates_of_wishesExit limits snapshot coherent expiry ?_ wishes
      rw [Book.stateOf_of_get? found, state]
      rfl
    · exact vacates_of_isCritical coherent expiry found critical
  rcases
      closes_of_vacates run resending vacates
        (by rw [book_collected]; exact found) state with
    ⟨closing, handed⟩
  exact ⟨⟨_, closing, rfl, rfl⟩, handed⟩

theorem Worked.cancels
    (coherent : desk.Coherent)
    (worked : Worked desk parameters limits snapshot now turn summary)
    (state : desk.book.stateOf symbol = .entering)
    (wishes : desk.WishesExit parameters.mandateLifetime now symbol) :
    ∃ order, turn.desk.working.find? symbol = some order ∧
      order.order.isEntry = true ∧ order.isCancelled = true := by
  rcases worked with ⟨expiry, run, resending, served⟩
  have vacates :=
    vacates_of_wishesExit limits snapshot coherent expiry
      (by rw [state]; rfl) wishes
  have flagged :=
    cancels_of_vacates run resending vacates
      (by rw [book_collected]; exact state)
  exact flagged

end Worked

/--
On every desk that can occur, a cycle on fresh market data is done, unless the
calendar ends within the life of a mandate.  By then every position that was
open and that an exit is wished for, or that was critical, is being closed by
the one order that was handed over for its symbol, over all that is held.
Every entry that works on a symbol whose exit is wished for was asked to be
cancelled.
-/
theorem exits_get_through
    {parameters : Parameters}
    {limits : Risk.Limits}
    {desk : Desk}
    (reached : Reachable parameters limits desk)
    {feed : Feed}
    {snapshot : Snapshot}
    {now : Instant}
    (fresh : feed.fresh parameters.oldestSnapshot now = .ok snapshot) :
    ((∃ turn summary,
        desk.runCycle parameters limits feed none now =
          (turn, .done summary)) ↔
      parameters.mandateLifetime = 0 ∨
        (now.before?
          (Text.asSigned64 parameters.mandateLifetime)).isSome = true) ∧
    ∀ turn summary,
      desk.runCycle parameters limits feed none now =
        (turn, .done summary) →
      (∀ symbol position,
        desk.book.get? symbol = some position →
        position.state = .opened →
        desk.WishesExit parameters.mandateLifetime now symbol ∨
          desk.IsCritical ⟨limits, snapshot.account, snapshot.prices⟩
            position →
        (∃ next, turn.desk.book.get? symbol = some next ∧
          next.state = .closing ∧ next.quantity = position.quantity) ∧
        ∃ dispatch,
          (turn.outbox.filter fun dispatch => dispatch.symbol = symbol) =
            [dispatch] ∧
          dispatch.order = .close position.quantity) ∧
      ∀ symbol,
        desk.book.stateOf symbol = .entering →
        desk.WishesExit parameters.mandateLifetime now symbol →
        ∃ order, turn.desk.working.find? symbol = some order ∧
          order.order.isEntry = true ∧ order.isCancelled = true := by
  have coherent := reached.coherent
  rw [← isSome_expire_iff desk.registry]
  rcases runCycle_of_fresh coherent parameters limits fresh with
    ⟨expiry, broke⟩ | ⟨turn, summary, worked, ran⟩
  · rw [broke, expiry]
    constructor
    · constructor
      · rintro ⟨turn, summary, ⟨⟩⟩
      · intro dates
        contradiction
    · rintro turn summary ⟨⟩
  · rw [ran]
    constructor
    · rw [worked.isSome_expire]
      exact iff_of_true ⟨turn, summary, rfl⟩ rfl
    · rintro _ _ ⟨⟩
      constructor
      · intro symbol position found state urgent
        exact worked.closes coherent found state urgent
      · intro symbol state wishes
        exact worked.cancels coherent state wishes

/-- The exit of the run gets through: one order closes the position. -/
theorem exit_gets_through_leaving :
    ∃ turn summary dispatch,
      Sample.leaving.runCycle .standard .standard Sample.feed none
        (Sample.moment 2) = (turn, .done summary) ∧
      (turn.outbox.filter fun dispatch =>
        dispatch.symbol = Sample.symbol) = [dispatch] ∧
      dispatch.order = .close Sample.one := by
  have fresh :
      Sample.feed.fresh Parameters.standard.oldestSnapshot
        (Sample.moment 2) = .ok Sample.snapshot := rfl
  rcases exits_get_through Sample.reachable_leaving fresh with
    ⟨dated, outcome⟩
  rcases dated.mpr (Or.inr (by decide +kernel)) with ⟨turn, summary, done⟩
  rcases exists_position_of_state Sample.leaving Sample.symbol
      (by decide +kernel) with
    ⟨position, found, state⟩
  have opened : position.state = .opened := by
    rw [state]
    decide +kernel
  have held : (Sample.leaving.book.get? Sample.symbol).map
      Position.quantity = some Sample.one := by
    decide +kernel
  rw [found] at held
  have wishes :
      Sample.leaving.WishesExit Parameters.standard.mandateLifetime
        (Sample.moment 2) Sample.symbol :=
    ⟨Sample.exit, by decide +kernel, rfl, rfl, rfl, by decide +kernel⟩
  rcases (outcome turn summary done).1 Sample.symbol position found opened
      (Or.inl wishes) with
    ⟨_, dispatch, single, order⟩
  rw [Option.map_some, Option.some.injEq] at held
  rw [held] at order
  exact ⟨turn, summary, dispatch, done, single, order⟩

end MandateDesk.Desk
