import MandateDesk.Proofs.Coupling
import MandateDesk.Proofs.Exits
import MandateDesk.Proofs.Issuing
import Mathlib.Data.List.Nodup

/-!
# Decisions, orders and positions

In a cycle on fresh market data the decisions, the orders that are handed over
and the positions that change correspond to each other.  Each symbol is decided
on at most once and gets at most one order.  An order is named by the decision
on its symbol, or it is handed over again because nothing works for a position
that is being reduced or closed.  A position changes exactly where a decision
names an order that trades, and then by the one transition that the order
stands for.

`Effect` is what a single decision has to do with its order and its position;
all else follows from a run of decisions being one ruling after another.
-/

namespace MandateDesk

/-- The event by which an order changes its position when it is admitted. -/
def Venue.Order.admission? : Venue.Order → Option Position.Event
  | .enter direction quantity => some (.entryAdmitted direction quantity)
  | .reduce quantity => some (.reduceAdmitted quantity)
  | .close _ => some .exitAdmitted
  | .cancelEntry _ => none

/-- The quantity that an order is over. -/
def Venue.Order.quantity? : Venue.Order → Option Decimal
  | .enter _ quantity => some quantity
  | .reduce quantity => some quantity
  | .close quantity => some quantity
  | .cancelEntry _ => none

/-- The orders that trade are those that are over a quantity. -/
theorem Venue.Order.isSome_quantity?
    (order : Venue.Order) :
    order.quantity?.isSome = order.admission?.isSome := by
  cases order <;> rfl

theorem Position.Moves.canBecome
    {position next : Position}
    {event : Position.Event}
    {now : Instant}
    (moves : position.Moves now event next) :
    position.state.canBecome next.state = true := by
  cases moves with
  | enter state => rw [state]; rfl
  | fillEntry state => rw [state]; rfl
  | failEntry state => rw [state]; rfl
  | startReduce state => rw [state]; rfl
  | startClose state => rw [state]; rfl
  | fillReduce state => rw [state]; rfl
  | fillAllReduced state => rw [state]; rfl
  | fillClose state => rw [state]; rfl

namespace Desk

/-- What works is no cancel. -/
theorem Cell.isSome_admission?
    {position : Option Position}
    {ticket : Nat}
    {order : WorkingOrder}
    (cell : Cell position ticket (some order)) :
    order.order.admission?.isSome = true := by
  cases cell <;> rfl

/-! ## What one decision does -/

/-- What a decision on a symbol does to the book, and the order it names. -/
inductive Effect (symbol : Symbol) (now : Instant) (desk after : Desk) :
    Outcome → List Venue.Dispatch → Prop where
  /-- No order is named, and nothing changes. -/
  | nothing {outcome}
      (silent : outcome.dispatch? = none)
      (book : after.book = desk.book)
      (working : after.working = desk.working) :
      Effect symbol now desk after outcome []
  /-- A cancel is named, and no position changes. -/
  | cancelled {outcome dispatch}
      (named : outcome.dispatch? = some dispatch.id)
      (still : dispatch.order.admission? = none)
      (book : after.book = desk.book) :
      Effect symbol now desk after outcome [dispatch]
  /-- An order is named, and the position takes the event for it. -/
  | admitted {outcome dispatch event next}
      (named : outcome.dispatch? = some dispatch.id)
      (admission : dispatch.order.admission? = some event)
      (applied :
        (desk.book.positionOf symbol now).apply event now = .ok next)
      (book : after.book = desk.book.moved symbol next) :
      Effect symbol now desk after outcome [dispatch]

theorem Idle.dispatch?_eq_none
    {desk : Desk}
    {action : Action}
    {verdict : Risk.Verdict}
    {outcome : Outcome}
    (reason : Idle desk action verdict outcome) :
    outcome.dispatch? = none := by
  cases reason <;> rfl

/-- A ruling names the order that it hands over. -/
theorem Ruling.effect
    {round : Round}
    {desk after : Desk}
    {action : Action}
    {verdict : Risk.Verdict}
    {outcome : Outcome}
    {sent : List Venue.Dispatch}
    (coherent : desk.Coherent)
    (ruling : Ruling round desk action verdict after outcome sent) :
    Effect action.symbol round.now desk after outcome sent := by
  cases ruling with
  | idle reason => exact .nothing reason.dispatch?_eq_none rfl rfl
  | refused => exact .nothing rfl rfl rfl
  | cancelled leaving =>
    exact .cancelled (dispatch?_handedOver _ verdict) rfl rfl
  | entered wish kind checked unlatched directed state =>
    rename_i mandate direction store tally
    rcases positive_of_checkEntry checked with ⟨positive, _⟩
    have flat :
        (desk.book.positionOf action.symbol round.now).state = .flat := by
      rw [Book.state_positionOf]
      exact state
    exact .admitted rfl rfl
      (Position.apply_entryAdmitted flat direction positive round.now) rfl
  | reduced wish kind found state positive =>
    rename_i mandate position store tally
    have applied :=
      Position.apply_reduceAdmitted (coherent.wellFormed found) state positive
        (Decimal.min_le_right action.quantity position.quantity) round.now
    refine .admitted rfl rfl ?_ rfl
    rw [Book.positionOf_of_get? found round.now]
    exact applied
  | exited leaving spent found state =>
    rename_i position registry store tally
    have applied :=
      Position.apply_exitAdmitted (coherent.wellFormed found) state round.now
    refine .admitted (dispatch?_handedOver _ verdict) rfl ?_ rfl
    rw [Book.positionOf_of_get? found round.now]
    exact applied

section Effect

variable {symbol : Symbol} {now : Instant} {desk after : Desk}
variable {outcome : Outcome} {sent : List Venue.Dispatch}

/-- A decision hands over the order that it names, and no other. -/
theorem Effect.named_iff
    (effect : Effect symbol now desk after outcome sent)
    (id : DispatchId) :
    outcome.dispatch? = some id ↔ ∃ dispatch ∈ sent, dispatch.id = id := by
  cases effect with
  | nothing silent => simp [silent]
  | cancelled named => simp [named]
  | admitted named => simp [named]

theorem Effect.nodup_symbols
    (effect : Effect symbol now desk after outcome sent) :
    (sent.map Venue.Dispatch.symbol).Nodup := by
  cases effect <;> simp

end Effect

/-! ## Runs of decisions -/

section Run

variable {round : Round} {agenda : Agenda} {symbols : List Symbol}
variable {desk last : Desk} {decisions : List Decision}
variable {sent : List Venue.Dispatch}

/-- A run hands over at most one order on each symbol. -/
theorem Decided.nodup_symbols
    (run : Decided round agenda symbols desk last decisions sent) :
    (sent.map Venue.Dispatch.symbol).Nodup := by
  induction run with
  | nil => exact List.nodup_nil
  | cons new coherent asked ruling tail hypothesis =>
    rw [List.map_append]
    refine List.nodup_append.mpr
      ⟨(ruling.effect coherent).nodup_symbols, hypothesis, ?_⟩
    rintro first here second there rfl
    rcases List.mem_map.mp here with ⟨earlier, handed, about⟩
    rcases List.mem_map.mp there with ⟨later, listed, same⟩
    rw [ruling.symbol_of_sent handed, asked.symbol_eq] at about
    have member := tail.symbol_of_sent listed
    rw [same, ← about] at member
    exact new member

/-- The decision on a symbol and the ruling behind it. -/
theorem Decided.decidedAt_of_mem
    (run : Decided round agenda symbols desk last decisions sent)
    (distinct : symbols.Nodup)
    {decision : Decision}
    (member : decision ∈ decisions) :
    ∃ before after own,
      decision.state = before.book.stateOf decision.symbol ∧
      Untouched decision.symbol desk before ∧
      Effect decision.symbol round.now before after decision.outcome own ∧
      Untouched decision.symbol after last ∧
      (sent.filter fun dispatch => dispatch.symbol = decision.symbol) =
        own := by
  have listed : decision.symbol ∈ symbols := by
    rw [← run.map_symbol]
    exact List.mem_map_of_mem member
  rcases run.decidedAt listed with
    ⟨coherent, asked, earlier, ruling, later, present, handed⟩
  rename_i before after outcome own
  have same :
      decision =
        decisionOn round agenda before decision.symbol outcome := by
    rw [← run.map_symbol] at distinct
    exact List.inj_on_of_nodup_map distinct member present rfl
  have effect := ruling.effect coherent
  rw [asked.symbol_eq] at effect
  have told : decision.outcome = outcome := by rw [same]; rfl
  have stated : decision.state = before.book.stateOf decision.symbol := by
    rw [same]
    rfl
  rw [← told] at effect
  exact ⟨before, after, own, stated, earlier, effect, later, handed⟩

/-- Where nothing works after a run, it has changed nothing. -/
theorem Decided.untouched_of_vacant
    (run : Decided round agenda symbols desk last decisions sent)
    {symbol : Symbol}
    (vacant : last.working.find? symbol = none) :
    last.book.get? symbol = desk.book.get? symbol ∧
      desk.working.find? symbol = none := by
  constructor
  · by_cases member : symbol ∈ symbols
    · rcases run.decidedAt member with
        ⟨coherent, asked, earlier, ruling, later, present, handed⟩
      rename_i before after outcome own
      have effect := ruling.effect coherent
      -- whatever the decision hands over works from then on
      have unsent (dispatch : Venue.Dispatch) (listed : dispatch ∈ own) :
          False := by
        rcases (ruling.issues coherent).placed listed with ⟨order, works, _⟩
        rw [ruling.symbol_of_sent listed, asked.symbol_eq,
          ← later.agrees.working, vacant] at works
        contradiction
      cases effect with
      | nothing _ book =>
        rw [later.agrees.book, book, earlier.agrees.book]
      | cancelled =>
        exact absurd (List.mem_singleton_self _) (unsent _)
      | admitted =>
        exact absurd (List.mem_singleton_self _) (unsent _)
    · exact (run.untouched member).agrees.book
  · cases found : desk.working.find? symbol with
    | none => rfl
    | some order =>
      rcases (run.issues.kept found).2 with ⟨isCancelled, works⟩
      rw [vacant] at works
      contradiction

end Run

theorem Resent.nodup_symbols
    {desk last : Desk}
    {sent : List Venue.Dispatch}
    (resent : Resent desk last sent) :
    (sent.map Venue.Dispatch.symbol).Nodup := by
  induction resent with
  | done => exact List.nodup_nil
  | @again desk position kind order _ _ _ _ _ _ rest hypothesis =>
    refine List.nodup_cons.mpr ⟨?_, hypothesis⟩
    intro member
    rcases List.mem_map.mp member with ⟨dispatch, listed, same⟩
    have vacant := rest.vacant listed
    rw [same] at vacant
    rw [show (desk.issue _ order none).symbol = position.symbol from rfl,
      find?_working_launched, if_pos rfl] at vacant
    contradiction

/-! ## What is decided on -/

/-- A mandate for a symbol is active and has not outlived its time. -/
def IsWished
    (desk : Desk)
    (lifetime : Nat)
    (now : Instant)
    (symbol : Symbol) :
    Prop :=
  ∃ mandate, desk.registry.get? mandate.id = some mandate ∧
    mandate.symbol = symbol ∧ mandate.isActive = true ∧
    outlived lifetime now mandate = false

/-- The position of a symbol is critical. -/
def IsEndangered
    (desk : Desk)
    (view : Risk.View)
    (symbol : Symbol) :
    Prop :=
  ∃ position, desk.book.get? symbol = some position ∧
    desk.IsCritical view position

theorem mem_actions_iff
    {desk : Desk}
    (consistent : desk.registry.Consistent)
    (aging : Aging)
    (now : Instant)
    (symbol : Symbol) :
    symbol ∈ (desk.arbitrate aging now).keys ↔
      ∃ mandate, desk.registry.get? mandate.id = some mandate ∧
        mandate.symbol = symbol ∧ mandate.isActive = true := by
  unfold arbitrate
  rw [OrderedMap.mem_keys_iff, Arbitration.find?_resolveAll]
  constructor
  · intro present
    split at present
    · rename_i concerned
      rcases List.mem_map.mp concerned with ⟨contender, listed, about⟩
      rcases exists_of_contender consistent listed with
        ⟨mandate, same, stored, active⟩
      rw [same] at about
      exact ⟨mandate, stored, about, active⟩
    · contradiction
  · rintro ⟨mandate, stored, rfl, active⟩
    have contends := contender_of_active consistent stored active aging now
    have concerned :
        mandate.symbol ∈
          (aging.apply now desk.registry.activeMandates).map Mandate.symbol :=
      List.mem_map.mpr ⟨_, contends, rfl⟩
    rw [if_pos concerned]
    rfl

theorem mem_critical_iff
    (round : Round)
    {desk : Desk}
    (coherent : desk.Coherent)
    (actions : OrderedMap Symbol Action)
    (symbol : Symbol) :
    symbol ∈ (agenda round desk.book actions).critical.keys ↔
      desk.IsEndangered round.view symbol := by
  rw [OrderedMap.mem_keys_iff]
  constructor
  · intro present
    unfold agenda at present
    rw [OrderedMap.isSome_find?_ofList] at present
    rcases List.mem_map.mp present with ⟨⟨about, distance⟩, listed, rfl⟩
    rcases List.mem_filterMap.mp listed with ⟨position, member, measured⟩
    rcases Option.map_eq_some_iff.mp measured with ⟨known, critical, same⟩
    cases same
    rcases Option.filter_eq_some_iff.mp critical with ⟨measures, below⟩
    rcases (OrderedMap.mem_values_iff _ position).mp member with
      ⟨symbol, found⟩
    refine ⟨position, ?_, distance, measures, of_decide_eq_true below⟩
    show desk.book.get? position.symbol = some position
    rw [coherent.keyed found]
    exact found
  · rintro ⟨position, found, distance, measured, below⟩
    exact isSome_critical round coherent actions found measured below

/-- A cycle decides on what is wished for and on what is in danger. -/
theorem mem_agendaOf_iff
    {desk : Desk}
    (coherent : desk.Coherent)
    {parameters : Parameters}
    (limits : Risk.Limits)
    (snapshot : Snapshot)
    {registry : Registry}
    {expired : Nat}
    {now : Instant}
    (expiry :
      expire desk.registry parameters.mandateLifetime now =
        some (registry, expired))
    (symbol : Symbol) :
    symbol ∈
        (desk.agendaOf parameters limits snapshot registry now).symbols ↔
      desk.IsWished parameters.mandateLifetime now symbol ∨
        desk.IsEndangered ⟨limits, snapshot.account, snapshot.prices⟩
          symbol := by
  have ready :=
    coherent.collected (consistent_expire coherent.registry expiry)
      parameters now
  unfold Agenda.symbols
  rw [OrderedMap.mem_sortedKeys, List.mem_append]
  refine or_congr ?_ ?_
  · refine (mem_actions_iff ready.registry parameters.aging now symbol).trans ?_
    unfold IsWished
    refine exists_congr fun mandate => ?_
    show registry.get? mandate.id = some mandate ∧ _ ↔ _
    rw [get?_expire expiry, Option.filter_eq_some_iff]
    simp only [Bool.and_eq_true, Bool.not_eq_true']
    constructor
    · rintro ⟨⟨stored, active, young⟩, about, _⟩
      exact ⟨stored, about, active, young⟩
    · rintro ⟨stored, about, active, young⟩
      exact ⟨⟨stored, active, young⟩, about, active⟩
  · refine (mem_critical_iff _ ready _ symbol).trans ?_
    unfold IsEndangered IsCritical
    rw [book_collected]
    rfl

/-! ## The correspondence -/

/-- An order is handed over again: nothing works for what is pending. -/
def Retries (desk : Desk) (dispatch : Venue.Dispatch) : Prop :=
  desk.working.find? dispatch.symbol = none ∧
    ∃ position, desk.book.get? dispatch.symbol = some position ∧
      (position.state = .reducing ∧
          dispatch.order = .reduce position.pendingQuantity ∨
        position.state = .closing ∧
          dispatch.order = .close position.quantity)

/--
How the decisions of a cycle, the orders that it hands over and the positions
that it changes belong together.
-/
structure Corresponds
    (desk : Desk)
    (lifetime : Nat)
    (view : Risk.View)
    (now : Instant)
    (turn : Turn)
    (decisions : List Decision) :
    Prop where
  /-- The decisions are listed by symbol, and no symbol comes twice. -/
  ascending :
    (decisions.map Decision.symbol).Pairwise fun first second =>
      compare first second = .lt
  /-- What is wished for or in danger is decided on, and nothing else. -/
  decided : ∀ symbol,
    symbol ∈ decisions.map Decision.symbol ↔
      desk.IsWished lifetime now symbol ∨ desk.IsEndangered view symbol
  /-- A decision tells the state of its position at the beginning. -/
  stated : ∀ decision ∈ decisions,
    decision.state = desk.book.stateOf decision.symbol
  /-- At most one order is handed over on a symbol. -/
  single : (turn.outbox.map Venue.Dispatch.symbol).Nodup
  /-- An order is named by the decision on its symbol, or a retry. -/
  explained : ∀ dispatch ∈ turn.outbox,
    (∃ decision ∈ decisions, decision.symbol = dispatch.symbol ∧
      decision.outcome.dispatch? = some dispatch.id) ∨
    desk.Retries dispatch
  /-- An order that a decision names is handed over. -/
  handed : ∀ decision ∈ decisions, ∀ id,
    decision.outcome.dispatch? = some id →
    ∃ dispatch ∈ turn.outbox, dispatch.id = id ∧
      dispatch.symbol = decision.symbol
  /-- A position changes only where a decision names an order that trades. -/
  changed : ∀ symbol,
    turn.desk.book.get? symbol ≠ desk.book.get? symbol →
    ∃ decision ∈ decisions, decision.symbol = symbol ∧
      ∃ dispatch ∈ turn.outbox,
        decision.outcome.dispatch? = some dispatch.id ∧
        dispatch.order.admission?.isSome = true
  /-- There it makes the one transition that the order stands for. -/
  transition : ∀ decision ∈ decisions, ∀ dispatch ∈ turn.outbox, ∀ event,
    decision.outcome.dispatch? = some dispatch.id →
    dispatch.order.admission? = some event →
    ∃ next,
      (desk.book.positionOf decision.symbol now).apply event now =
        .ok next ∧
      turn.desk.book.get? decision.symbol = some next ∧
      decision.state.canBecome next.state = true

section Gate

variable {round : Round} {agenda : Agenda} {desk decided last : Desk}
variable {symbols : List Symbol} {decisions : List Decision}
variable {sent resent : List Venue.Dispatch}

theorem nodup_symbols_of_gate
    (run : Decided round agenda symbols desk decided decisions sent)
    (resending : Resent decided last resent) :
    ((sent ++ resent).map Venue.Dispatch.symbol).Nodup := by
  rw [List.map_append]
  refine List.nodup_append.mpr
    ⟨run.nodup_symbols, resending.nodup_symbols, ?_⟩
  rintro first here second there rfl
  rcases List.mem_map.mp here with ⟨earlier, handed, about⟩
  rcases List.mem_map.mp there with ⟨later, listed, same⟩
  rcases run.issues.placed handed with ⟨order, works, _⟩
  have vacant := resending.vacant listed
  rw [same, ← about, works] at vacant
  contradiction

theorem retries_of_resent
    (run : Decided round agenda symbols desk decided decisions sent)
    (resending : Resent decided last resent)
    {dispatch : Venue.Dispatch}
    (member : dispatch ∈ resent) :
    desk.Retries dispatch := by
  rcases run.untouched_of_vacant (resending.vacant member) with
    ⟨book, vacant⟩
  rcases resending.pending member with ⟨position, kind, _, found, pending, _⟩
  rw [book] at found
  exact ⟨vacant, position, found, pendingOrder?_eq_some pending⟩

/-- Where a position changes, the decision on it names an order. -/
theorem Decided.admitted_of_changed
    (run : Decided round agenda symbols desk decided decisions sent)
    {symbol : Symbol}
    (changed : decided.book.get? symbol ≠ desk.book.get? symbol) :
    ∃ decision ∈ decisions, decision.symbol = symbol ∧
      ∃ dispatch ∈ sent,
        decision.outcome.dispatch? = some dispatch.id ∧
        dispatch.order.admission?.isSome = true := by
  by_cases member : symbol ∈ symbols
  · rcases run.decidedAt member with
      ⟨coherent, asked, earlier, ruling, later, present, handed⟩
    have same := fun book => later.agrees.book.trans
      ((congrArg (fun book => Book.get? book symbol) book).trans
        earlier.agrees.book)
    cases ruling.effect coherent with
    | nothing _ book => exact absurd (same book) changed
    | cancelled _ _ book => exact absurd (same book) changed
    | @admitted dispatch event next named admission =>
      refine ⟨_, present, rfl, dispatch, ?_, named, by rw [admission]; rfl⟩
      have among := List.mem_singleton_self dispatch
      rw [← handed] at among
      exact (List.mem_filter.mp among).1
  · exact absurd (run.untouched member).agrees.book changed

/-- A position takes the event of the order that the decision on it names. -/
theorem Decided.applied_of_named
    (run : Decided round agenda symbols desk decided decisions sent)
    (distinct : symbols.Nodup)
    {decision : Decision}
    (member : decision ∈ decisions)
    {outbox : List Venue.Dispatch}
    (unique : (outbox.map Venue.Dispatch.id).Nodup)
    (within : ∀ dispatch ∈ sent, dispatch ∈ outbox)
    {dispatch : Venue.Dispatch}
    (handed : dispatch ∈ outbox)
    (named : decision.outcome.dispatch? = some dispatch.id)
    {event : Position.Event}
    (admission : dispatch.order.admission? = some event) :
    ∃ next,
      (desk.book.positionOf decision.symbol round.now).apply event round.now =
        .ok next ∧
      decided.book.get? decision.symbol = some next := by
  rcases run.decidedAt_of_mem distinct member with
    ⟨before, after, own, stated, earlier, effect, later, filtered⟩
  -- the order that the decision hands over is the one with its name
  have same {order : Venue.Dispatch} (single : own = [order])
      (told : decision.outcome.dispatch? = some order.id) :
      order = dispatch := by
    have among : order ∈ own := by
      rw [single]
      exact List.mem_singleton_self order
    rw [← filtered] at among
    have listed := within order (List.mem_filter.mp among).1
    refine List.inj_on_of_nodup_map unique listed handed ?_
    rw [named] at told
    exact (Option.some.inj told).symm
  have stands :
      before.book.positionOf decision.symbol round.now =
        desk.book.positionOf decision.symbol round.now := by
    unfold Book.positionOf
    rw [earlier.agrees.book]
  generalize decision.outcome = outcome at effect named same
  cases effect with
  | nothing silent =>
    rw [silent] at named
    contradiction
  | cancelled told still =>
    rw [same rfl told, admission] at still
    contradiction
  | @admitted _ _ next told admits applied book =>
    rw [same rfl told, admission] at admits
    cases admits
    rw [stands] at applied
    refine ⟨next, applied, ?_⟩
    rw [later.agrees.book, book, Book.get?_moved, if_pos rfl]

end Gate

theorem Worked.corresponds
    {desk : Desk}
    (coherent : desk.Coherent)
    {parameters : Parameters}
    {limits : Risk.Limits}
    {snapshot : Snapshot}
    {now : Instant}
    {turn : Turn}
    {summary : CycleSummary}
    (worked : Worked desk parameters limits snapshot now turn summary) :
    Corresponds desk parameters.mandateLifetime
      ⟨limits, snapshot.account, snapshot.prices⟩ now turn
      summary.decisions := by
  have ids := worked.issues.nodup_ids
  rcases worked with ⟨expiry, run, resending, served⟩
  rename_i registry expired decided decisions sent last resent reading tally
  have distinct := Agenda.nodup_symbols
    (desk.agendaOf parameters limits snapshot registry now)
  have book := book_collected desk parameters registry now
  have within (dispatch : Venue.Dispatch) (member : dispatch ∈ sent) :
      dispatch ∈ sent ++ resent :=
    List.mem_append_left _ member
  have stated (decision : Decision) (member : decision ∈ decisions) :
      decision.state = desk.book.stateOf decision.symbol := by
    rcases run.decidedAt_of_mem distinct member with
      ⟨before, _, _, stated, earlier, _⟩
    rw [stated, stateOf_of_agrees earlier.agrees, book]
  constructor
  · show (decisions.map Decision.symbol).Pairwise _
    rw [run.map_symbol]
    exact OrderedMap.keys_pairwise _
  · intro symbol
    show symbol ∈ decisions.map Decision.symbol ↔ _
    rw [run.map_symbol]
    exact mem_agendaOf_iff coherent limits snapshot expiry symbol
  · exact stated
  · exact nodup_symbols_of_gate run resending
  · intro dispatch member
    rcases List.mem_append.mp member with decision | again
    · rcases run.exists_decision decision with
        ⟨named, listed, about, _, told, _⟩
      exact Or.inl ⟨named, listed, about, told⟩
    · have retries := retries_of_resent run resending again
      rcases exists_collected_eq desk parameters registry now with
        ⟨halt, same⟩
      rw [same] at retries
      exact Or.inr retries
  · intro decision member id named
    rcases run.decidedAt_of_mem distinct member with
      ⟨_, _, own, _, _, effect, _, filtered⟩
    rcases (effect.named_iff id).mp named with ⟨dispatch, among, same⟩
    rw [← filtered] at among
    rcases List.mem_filter.mp among with ⟨listed, about⟩
    exact ⟨dispatch, within dispatch listed, same, of_decide_eq_true about⟩
  · intro symbol changed
    have differs :
        decided.book.get? symbol ≠
          (desk.collected parameters registry now).book.get? symbol := by
      rw [book, ← resending.book]
      exact changed
    rcases run.admitted_of_changed differs with
      ⟨decision, listed, about, dispatch, member, named, trades⟩
    exact ⟨decision, listed, about, dispatch, within dispatch member, named,
      trades⟩
  · intro decision member dispatch handed event named admission
    rcases
        run.applied_of_named distinct member ids within handed named
          admission with
      ⟨next, applied, filed⟩
    rw [book] at applied
    refine ⟨next, applied, ?_, ?_⟩
    · show last.book.get? decision.symbol = some next
      rw [resending.book]
      exact filed
    · have moves := (Position.moves_of_apply applied).canBecome
      rw [Book.state_positionOf] at moves
      rw [stated decision member]
      exact moves

/--
On every desk that can occur, in every cycle on fresh market data that is done,
the decisions, the orders and the positions correspond to each other.
-/
theorem cycle_corresponds
    {parameters : Parameters}
    {limits : Risk.Limits}
    {desk : Desk}
    (reached : Reachable parameters limits desk)
    {feed : Feed}
    {snapshot : Snapshot}
    {now : Instant}
    (fresh : feed.fresh parameters.oldestSnapshot now = .ok snapshot)
    {turn : Turn}
    {summary : CycleSummary}
    (done :
      desk.runCycle parameters limits feed none now =
        (turn, .done summary)) :
    Corresponds desk parameters.mandateLifetime
      ⟨limits, snapshot.account, snapshot.prices⟩ now turn
      summary.decisions := by
  rcases runCycle_of_fresh reached.coherent parameters limits fresh with
    ⟨_, broke⟩ | ⟨turn', summary', worked, ran⟩
  · rw [done] at broke
    cases broke
  · rw [done] at ran
    cases ran
    exact worked.corresponds reached.coherent

/-- So it is in the cycle of the run that hears of the exit. -/
theorem cycle_corresponds_leaving :
    ∃ turn summary,
      Sample.leaving.runCycle .standard .standard Sample.feed none
        (Sample.moment 2) = (turn, .done summary) ∧
      Corresponds Sample.leaving Parameters.standard.mandateLifetime
        ⟨.standard, Sample.snapshot.account, Sample.snapshot.prices⟩
        (Sample.moment 2) turn summary.decisions := by
  rcases
      CycleEnd.exists_of_summary?
        (show
          ((Sample.leaving.runCycle .standard .standard Sample.feed none
            (Sample.moment 2)).2.summary?).isSome = true by decide +kernel) with
    ⟨summary, done, _⟩
  have fresh :
      Sample.feed.fresh Parameters.standard.oldestSnapshot
        (Sample.moment 2) = .ok Sample.snapshot := rfl
  exact ⟨_, summary, Prod.ext rfl done,
    cycle_corresponds Sample.reachable_leaving fresh (Prod.ext rfl done)⟩

end Desk

end MandateDesk
