import Mathlib.Data.List.Nodup
import MandateDesk.Proofs.Reachability

/-!
# What becomes of a mandate

A mandate that is active when a cycle begins has one of four fates in it.  It
expires, and nothing speaks of it; or it is consumed, and then an order carries
it out; or it is rejected, and then a decision says so; or it is kept as it is,
and then the decision on its symbol says why: the arbitration passed it over,
the risk gate imposed an exit instead, or what it asks for was not carried out.

The symbol of a mandate is decided on once, by a ruling that writes no other
mandate than the one behind its action.  So the fates exclude each other, and
no order carries a mandate out that is not consumed for it.
-/

namespace MandateDesk.Desk

/-- What a cycle can do with an active mandate. -/
inductive Fate where
  /-- It outlived its time. -/
  | expired
  /-- An order carries it out. -/
  | consumed
  /-- The risk gate refused it. -/
  | rejected
  /-- It takes part in the next cycle. -/
  | kept
deriving DecidableEq

/-! ## What is told of a mandate -/

/-- A mandate is active when a cycle begins, and has not outlived its time. -/
structure Hears
    (desk : Desk)
    (parameters : Parameters)
    (now : Instant)
    (mandate : Mandate) :
    Prop where
  stored : desk.registry.get? mandate.id = some mandate
  active : mandate.isActive = true
  young : outlived parameters.mandateLifetime now mandate = false

/-- The action that all mandates of a cycle come to for a symbol. -/
def ComesTo
    (desk : Desk)
    (parameters : Parameters)
    (now : Instant)
    (symbol : Symbol)
    (action : Action) :
    Prop :=
  ∃ heard : List Mandate,
    (∀ mandate, mandate ∈ heard ↔ desk.Hears parameters now mandate) ∧
    action =
      Arbitration.resolve symbol (desk.book.stateOf symbol)
        (Arbitration.about symbol (parameters.aging.apply now heard))

/-- The decision on the symbol of a mandate is the only one to speak for it. -/
structure Speaks
    (decisions : List Decision)
    (outbox : List Venue.Dispatch)
    (mandate : Mandate)
    (decision : Decision) :
    Prop where
  listed : decision ∈ decisions
  symbol_eq : decision.symbol = mandate.symbol
  /-- No other decision names the mandate. -/
  alone : ∀ other ∈ decisions,
    other.action.mandate = some mandate.id → other = decision
  /-- The decision names every order that carries the mandate. -/
  carried : ∀ dispatch ∈ outbox,
    dispatch.action.mandate = some mandate.id →
      decision.action.mandate = some mandate.id ∧
        decision.outcome = .dispatched dispatch.id

/-- A decision carries a mandate out, by an order that is handed over. -/
structure Fulfils
    (outbox : List Venue.Dispatch)
    (mandate : Mandate)
    (decision : Decision) :
    Prop where
  named : decision.action.mandate = some mandate.id
  state : decision.state = .flat ∨ decision.state = .opened
  handed : ∃ dispatch ∈ outbox,
    decision.outcome = .dispatched dispatch.id ∧
      dispatch.action.mandate = some mandate.id ∧
      ∀ entry, dispatch.order ≠ .cancelEntry entry

/-- A decision refuses what a mandate asks for. -/
structure Refuses
    (mandate : Mandate)
    (decision : Decision) :
    Prop where
  named : decision.action.mandate = some mandate.id
  told : ∃ rejection, decision.outcome = .rejected rejection

/-- Why a decision leaves a mandate as it is. -/
inductive Spared
    (chosen : Action)
    (outbox : List Venue.Dispatch)
    (mandate : Mandate)
    (decision : Decision) :
    Prop where
  /-- Another mandate was chosen, or none.  A block is never chosen. -/
  | passedOver
      (arbitrated : decision.action = chosen)
      (lost : chosen.mandate ≠ some mandate.id)
  /-- The risk gate imposed an exit in place of what was chosen. -/
  | overridden
      (imposed : decision.action = Action.forcedExit mandate.symbol)
  /-- It asks for nothing to be done. -/
  | held
      (named : decision.action.mandate = some mandate.id)
      (kind : mandate.kind = .hold)
      (outcome : decision.outcome = .noAction)
  /-- The latch holds back what it enters. -/
  | halted
      (named : decision.action.mandate = some mandate.id)
      (kind : mandate.kind = .entry)
      (outcome : decision.outcome = .halted)
  /-- It waits for an entry that is being cancelled. -/
  | awaited {reason}
      (named : decision.action.mandate = some mandate.id)
      (kind : mandate.kind = .exit)
      (state : decision.state = .entering)
      (outcome : decision.outcome = .deferred reason)
  /-- It only asked for an entry to be cancelled. -/
  | cancelled {dispatch entry}
      (named : decision.action.mandate = some mandate.id)
      (kind : mandate.kind = .exit)
      (state : decision.state = .entering)
      (handed : dispatch ∈ outbox)
      (outcome : decision.outcome = .dispatched dispatch.id)
      (order : dispatch.order = .cancelEntry entry)

/-- What a cycle does with a mandate of a fate, and what it tells of that. -/
def Meets
    (desk : Desk)
    (parameters : Parameters)
    (now : Instant)
    (turn : Turn)
    (summary : CycleSummary)
    (mandate : Mandate) :
    Fate → Prop
  | .expired =>
    outlived parameters.mandateLifetime now mandate = true ∧
      turn.desk.registry.get? mandate.id = none ∧
      (∀ decision ∈ summary.decisions,
        decision.action.mandate ≠ some mandate.id) ∧
      ∀ dispatch ∈ turn.outbox, dispatch.action.mandate ≠ some mandate.id
  | .consumed =>
    turn.desk.registry.get? mandate.id =
        some { mandate with status := .consumed } ∧
      ∃ decision,
        Speaks summary.decisions turn.outbox mandate decision ∧
        Fulfils turn.outbox mandate decision
  | .rejected =>
    turn.desk.registry.get? mandate.id =
        some { mandate with status := .rejected } ∧
      ∃ decision,
        Speaks summary.decisions turn.outbox mandate decision ∧
        Refuses mandate decision
  | .kept =>
    turn.desk.registry.get? mandate.id = some mandate ∧
      ∃ chosen decision,
        desk.ComesTo parameters now mandate.symbol chosen ∧
        Speaks summary.decisions turn.outbox mandate decision ∧
        Spared chosen turn.outbox mandate decision

/-- The status under which a mandate with a fate is found afterwards. -/
def Fate.status? : Fate → Option Mandate.Status
  | expired => none
  | consumed => some .consumed
  | rejected => some .rejected
  | kept => some .active

theorem Fate.eq_of_status?
    {first second : Fate}
    (same : first.status? = second.status?) :
    first = second := by
  cases first <;> cases second <;> simp_all [status?]

section Cycle

variable {desk : Desk} {parameters : Parameters} {limits : Risk.Limits}
variable {snapshot : Snapshot} {now : Instant} {turn : Turn}
variable {summary : CycleSummary} {mandate : Mandate}

theorem Meets.status_eq
    (active : mandate.isActive = true)
    {fate : Fate}
    (meets : desk.Meets parameters now turn summary mandate fate) :
    (turn.desk.registry.get? mandate.id).map Mandate.status =
      fate.status? := by
  cases fate with
  | expired =>
    rw [meets.2.1]
    rfl
  | consumed =>
    rw [meets.1]
    rfl
  | rejected =>
    rw [meets.1]
    rfl
  | kept =>
    rw [meets.1, Option.map_some, (Mandate.Status.isActive_iff _).mp active]
    rfl

/-- A mandate that is active has at most one fate. -/
theorem Meets.unique
    (active : mandate.isActive = true)
    {first second : Fate}
    (one : desk.Meets parameters now turn summary mandate first)
    (other : desk.Meets parameters now turn summary mandate second) :
    first = second :=
  Fate.eq_of_status?
    ((one.status_eq active).symm.trans (other.status_eq active))

/-! ## Orders that are handed over behind the others -/

section Behind

variable {decisions : List Decision} {outbox later : List Venue.Dispatch}
variable {mandate : Mandate} {decision : Decision}

theorem Speaks.append
    (speaks : Speaks decisions outbox mandate decision)
    (unasked : ∀ dispatch ∈ later, dispatch.action.mandate = none) :
    Speaks decisions (outbox ++ later) mandate decision := by
  refine ⟨speaks.listed, speaks.symbol_eq, speaks.alone, ?_⟩
  intro dispatch handed carries
  rcases List.mem_append.mp handed with here | behind
  · exact speaks.carried dispatch here carries
  · rw [unasked dispatch behind] at carries
    contradiction

theorem Fulfils.append
    (fulfils : Fulfils outbox mandate decision)
    (later : List Venue.Dispatch) :
    Fulfils (outbox ++ later) mandate decision := by
  rcases fulfils.handed with ⟨dispatch, handed, carries⟩
  exact ⟨fulfils.named, fulfils.state, dispatch,
    List.mem_append_left _ handed, carries⟩

theorem Spared.append
    {chosen : Action}
    (spared : Spared chosen outbox mandate decision)
    (later : List Venue.Dispatch) :
    Spared chosen (outbox ++ later) mandate decision := by
  cases spared with
  | passedOver arbitrated lost => exact .passedOver arbitrated lost
  | overridden imposed => exact .overridden imposed
  | held named kind outcome => exact .held named kind outcome
  | halted named kind outcome => exact .halted named kind outcome
  | awaited named kind state outcome =>
    exact .awaited named kind state outcome
  | cancelled named kind state handed outcome order =>
    exact .cancelled named kind state (List.mem_append_left _ handed) outcome
      order

end Behind

/-! ## Mandates in a run of decisions -/

section Run

variable {round : Round} {agenda : Agenda} {found decided : Desk}
variable {symbols : List Symbol} {decisions : List Decision}
variable {sent : List Venue.Dispatch} {id : Identifier}

/-- A ruling brings no mandate into the registry. -/
theorem Ruling.absent
    {before after : Desk}
    {action : Action}
    {verdict : Risk.Verdict}
    {outcome : Outcome}
    (ruling : Ruling round before action verdict after outcome sent)
    (absent : before.registry.get? id = none) :
    after.registry.get? id = none := by
  have settled {mandate : Mandate} (status : Mandate.Status)
      (wish : Backs before action mandate) :
      (before.registry.settled mandate status).get? id = none := by
    rw [Registry.get?_settled]
    split
    · rename_i same
      rw [same, wish.stored] at absent
      contradiction
    · exact absent
  have written := ruling.written
  generalize after.registry = registry at written ⊢
  cases written with
  | nothing => exact absent
  | consumed wish => exact settled .consumed wish
  | rejected wish => exact settled .rejected wish

/-- A run of decisions brings no mandate into the registry. -/
theorem Decided.absent
    (run : Decided round agenda symbols found decided decisions sent)
    (absent : found.registry.get? id = none) :
    decided.registry.get? id = none := by
  induction run with
  | nil => exact absent
  | cons new coherent asked ruling tail hypothesis =>
    exact hypothesis (ruling.absent absent)

/-- Behind a decision is a mandate on its symbol, active at the beginning. -/
theorem Decided.stored_of_decision
    (run : Decided round agenda symbols found decided decisions sent)
    (asked : ∀ symbol, Asked found symbol (agenda.actionOf symbol))
    {decision : Decision}
    (member : decision ∈ decisions)
    (named : decision.action.mandate = some id) :
    ∃ mandate, found.registry.get? id = some mandate ∧
      mandate.isActive = true ∧ mandate.symbol = decision.symbol := by
  rcases run.mem_decisions member with ⟨symbol, _, before, outcome, rfl⟩
  have named : (agenda.actionOf symbol).mandate = some id :=
    mandate_of_ruled named
  have wished := asked symbol
  generalize agenda.actionOf symbol = action at named wished
  cases wished with
  | nothing => contradiction
  | wish backs about =>
    rw [backs.mandate_eq, Option.some.injEq] at named
    exact ⟨_, named ▸ backs.stored, backs.active, about⟩

/-- The decision on its symbol is the only one to speak for a mandate. -/
theorem Decided.speaks
    (run : Decided round agenda symbols found decided decisions sent)
    (asked : ∀ symbol, Asked found symbol (agenda.actionOf symbol))
    (distinct : symbols.Nodup)
    (stored : found.registry.get? mandate.id = some mandate)
    {decision : Decision}
    (listed : decision ∈ decisions)
    (about : decision.symbol = mandate.symbol) :
    Speaks decisions sent mandate decision := by
  have alone (other : Decision) (member : other ∈ decisions)
      (named : other.action.mandate = some mandate.id) :
      other = decision := by
    rcases run.stored_of_decision asked member named with
      ⟨same, present, _, concerned⟩
    rw [stored] at present
    cases present
    rw [← run.map_symbol] at distinct
    exact List.inj_on_of_nodup_map distinct member listed
      (concerned.symm.trans about.symm)
  refine ⟨listed, about, alone, fun dispatch handed carries => ?_⟩
  rcases run.exists_decision handed with
    ⟨other, member, _, same, _, dispatched⟩
  rw [← same] at carries
  cases alone other member carries
  exact ⟨carries, dispatched mandate.id (same ▸ carries)⟩

/-- The mandate that an action names is behind it. -/
theorem Asked.backs
    {before : Desk}
    {symbol : Symbol}
    {action : Action}
    (asked : Asked before symbol action)
    (stored : before.registry.get? mandate.id = some mandate)
    (named : action.mandate = some mandate.id) :
    Backs before action mandate := by
  cases asked with
  | nothing => contradiction
  | wish backs =>
    have same := backs.mandate_eq.symm.trans named
    rw [Option.some.injEq] at same
    have present := backs.stored
    rw [same, stored, Option.some.injEq] at present
    exact present ▸ backs

/-- A mandate behind an action that sends no order is a hold. -/
theorem Backs.kind_eq_hold
    {before : Desk}
    {action : Action}
    (wish : Backs before action mandate)
    (idle : action.kind.isExecutable = false) :
    mandate.kind = .hold := by
  have kind := wish.kindFor?_eq
  cases wished : action.kind with
  | hold => exact Action.kindFor?_inj kind (wished ▸ rfl)
  | noAction =>
    rw [wished] at kind
    exact absurd kind (Action.kindFor?_ne_noAction _)
  | _ => simp [wished, Action.Kind.isExecutable] at idle

/-- An action on which no mandate is spent spares the mandate behind it. -/
theorem Backs.spared
    {before : Desk}
    {action : Action}
    {decision : Decision}
    {verdict : Risk.Verdict}
    {own : List Venue.Dispatch}
    (wish : Backs before action mandate)
    (spares : Spares before action verdict decision.outcome own)
    (led : decision.action = ruled action verdict)
    (state : decision.state = before.book.stateOf action.symbol)
    (handed : ∀ dispatch ∈ own, dispatch ∈ sent) :
    Spared action sent mandate decision := by
  have named := wish.mandate_eq
  have kind := wish.kindFor?_eq
  generalize told : decision.outcome = outcome at spares
  cases spares with
  | unasked imposed =>
    rw [imposed] at named
    contradiction
  | overridden =>
    refine .overridden ?_
    rw [led, wish.action_eq, ← Action.symbol_ofMandate mandate]
    rfl
  | content idle => exact .held (led ▸ named) (wish.kind_eq_hold idle) told
  | halted enters =>
    exact .halted (led ▸ named) (Action.kindFor?_inj kind (enters ▸ rfl)) told
  | awaited leaves entering =>
    exact .awaited (led ▸ named) (Action.kindFor?_inj kind (leaves ▸ rfl))
      (state.trans entering) told
  | cancelled leaves entering =>
    exact .cancelled (led ▸ named) (Action.kindFor?_inj kind (leaves ▸ rfl))
      (state.trans entering) (handed _ (List.mem_singleton_self _)) told rfl

/-- An action on which no mandate is spent spares every mandate. -/
theorem Asked.spared
    {before : Desk}
    {action : Action}
    {decision : Decision}
    {verdict : Risk.Verdict}
    {own : List Venue.Dispatch}
    (asked : Asked before mandate.symbol action)
    (stored : before.registry.get? mandate.id = some mandate)
    (spares : Spares before action verdict decision.outcome own)
    (led : decision.action = ruled action verdict)
    (state : decision.state = before.book.stateOf mandate.symbol)
    (handed : ∀ dispatch ∈ own, dispatch ∈ sent) :
    Spared action sent mandate decision := by
  have about := asked.symbol_eq
  by_cases named : action.mandate = some mandate.id
  · rw [← about] at state
    exact (asked.backs stored named).spared spares led state handed
  · cases verdict with
    | accept => exact .passedOver led named
    | reject => exact .passedOver led named
    | forceExit =>
      refine .overridden ?_
      rw [led, ← about]
      rfl

/-- Where a ruling settles a mandate, it is the one at hand or that is kept. -/
theorem Backs.settles_or_keeps
    {before after last : Desk}
    {action : Action}
    {other : Mandate}
    {status : Mandate.Status}
    (wish : Backs before action other)
    (present : before.registry.get? mandate.id = some mandate)
    (written : after.registry = before.registry.settled other status)
    (later : KeepsMandates mandate.symbol after.registry last.registry) :
    action.mandate = some mandate.id ∧
        last.registry.get? mandate.id = some { mandate with status } ∨
      action.mandate ≠ some mandate.id ∧
        last.registry.get? mandate.id = some mandate := by
  rw [wish.mandate_eq]
  by_cases same : mandate.id = other.id
  · left
    have equal : other = mandate := by
      rw [same, wish.stored] at present
      exact Option.some.inj present
    subst equal
    refine ⟨rfl, later _ (Registry.withStatus status other) rfl ?_⟩
    rw [written, Registry.get?_settled, if_pos rfl]
  · right
    refine ⟨fun named => same (Option.some.inj named).symm,
      later _ _ rfl ?_⟩
    rw [written, Registry.get?_settled, if_neg same]
    exact present

/-- The ruling on its symbol keeps a mandate, consumes it or rejects it. -/
theorem Decided.fate
    (run : Decided round agenda symbols found decided decisions sent)
    (asked : ∀ symbol, Asked found symbol (agenda.actionOf symbol))
    (distinct : symbols.Nodup)
    (member : mandate.symbol ∈ symbols)
    (stored : found.registry.get? mandate.id = some mandate) :
    ∃ decision, Speaks decisions sent mandate decision ∧
      (decided.registry.get? mandate.id = some mandate ∧
          Spared (agenda.actionOf mandate.symbol) sent mandate decision ∨
        decided.registry.get? mandate.id =
            some { mandate with status := .consumed } ∧
          Fulfils sent mandate decision ∨
        decided.registry.get? mandate.id =
            some { mandate with status := .rejected } ∧
          Refuses mandate decision) := by
  rcases run.decidedAt member with
    ⟨coherent, wished, earlier, ruling, later, listed, handed⟩
  rename_i before after outcome own
  refine ⟨_, run.speaks asked distinct stored listed rfl, ?_⟩
  have present := earlier.mandates _ _ rfl stored
  have among (dispatch : Venue.Dispatch) (mine : dispatch ∈ own) :
      dispatch ∈ sent := by
    rw [← handed] at mine
    exact (List.mem_filter.mp mine).1
  have written := ruling.written
  unfold decisionOn
  generalize judge round agenda before.book mandate.symbol = verdict at written
  generalize kept : after.registry = registry at written
  cases written with
  | nothing spares =>
    refine Or.inl ⟨later.mandates _ _ rfl ?_,
      wished.spared present spares rfl rfl among⟩
    rw [kept]
    exact present
  | consumed wish state moves =>
    rw [wished.symbol_eq] at state
    rcases wish.settles_or_keeps present kept later.mandates with
      ⟨named, spent⟩ | ⟨lost, same⟩
    · exact Or.inr (Or.inl ⟨spent, named, state, _,
        among _ (List.mem_singleton_self _), rfl, named, moves⟩)
    · exact Or.inl ⟨same, .passedOver rfl lost⟩
  | rejected wish =>
    rcases wish.settles_or_keeps present kept later.mandates with
      ⟨named, spent⟩ | ⟨lost, same⟩
    · exact Or.inr (Or.inr ⟨spent, named, _, rfl⟩)
    · exact Or.inl ⟨same, .passedOver rfl lost⟩

end Run

/-! ## Mandates in a cycle -/

/-- What a cycle decides is what the mandates that it found can come to. -/
theorem asked_agendaOf
    (coherent : desk.Coherent)
    {registry : Registry}
    {expired : Nat}
    (expiry :
      expire desk.registry parameters.mandateLifetime now =
        some (registry, expired))
    (limits : Risk.Limits)
    (snapshot : Snapshot)
    (symbol : Symbol) :
    Asked (desk.collected parameters registry now) symbol
      ((desk.agendaOf parameters limits snapshot registry
        now).actionOf symbol) :=
  asked_actionOf
    (coherent.collected (consistent_expire coherent.registry expiry)
      parameters now).registry _ parameters.aging now symbol

/-- A cycle decides by what all the mandates come to that it listens to. -/
theorem comesTo_agendaOf
    (coherent : desk.Coherent)
    {registry : Registry}
    {expired : Nat}
    (expiry :
      expire desk.registry parameters.mandateLifetime now =
        some (registry, expired))
    (limits : Risk.Limits)
    (snapshot : Snapshot)
    (symbol : Symbol) :
    desk.ComesTo parameters now symbol
      ((desk.agendaOf parameters limits snapshot registry
        now).actionOf symbol) := by
  have consistent := consistent_expire coherent.registry expiry
  refine ⟨registry.activeMandates, fun mandate => ?_, ?_⟩
  · rw [Registry.mem_activeMandates consistent, get?_expire expiry,
      Option.filter_eq_some_iff]
    simp only [Bool.and_eq_true, Bool.not_eq_true']
    constructor
    · rintro ⟨⟨stored, active, young⟩, _⟩
      exact ⟨stored, active, young⟩
    · rintro ⟨stored, active, young⟩
      exact ⟨⟨stored, active, young⟩, active⟩
  · unfold agendaOf
    simp only
    rw [agenda_actionOf, book_collected]
    simp only
    split
    · rfl
    · rename_i unconcerned
      have nobody :
          Arbitration.about symbol
            (parameters.aging.apply now registry.activeMandates) = [] := by
        refine List.filter_eq_nil_iff.mpr fun contender listed own => ?_
        exact unconcerned
          (List.mem_map.mpr ⟨contender, listed, eq_of_beq own⟩)
      rw [nobody]
      rfl

/-- Behind a decision is a mandate that the cycle listens to. -/
theorem Worked.hears_of_decision
    (coherent : desk.Coherent)
    (worked : Worked desk parameters limits snapshot now turn summary)
    {decision : Decision}
    (member : decision ∈ summary.decisions)
    {id : Identifier}
    (named : decision.action.mandate = some id) :
    ∃ mandate, mandate.id = id ∧ desk.Hears parameters now mandate := by
  rcases worked with ⟨expiry, run, _, _⟩
  rcases
      run.stored_of_decision
        (asked_agendaOf coherent expiry limits snapshot) member named with
    ⟨mandate, stored, active, _⟩
  have left := (get?_expire expiry id).symm.trans stored
  rcases Option.filter_eq_some_iff.mp left with ⟨present, passed⟩
  simp only [Bool.and_eq_true, Bool.not_eq_true'] at passed
  have same := coherent.registry.keyed present
  exact ⟨mandate, same, same ▸ present, active, passed.2⟩

/-- A mandate that outlived its time is dropped, and nothing speaks of it. -/
theorem Worked.meets_of_outlived
    (coherent : desk.Coherent)
    (worked : Worked desk parameters limits snapshot now turn summary)
    (stored : desk.registry.get? mandate.id = some mandate)
    (aged : outlived parameters.mandateLifetime now mandate = true) :
    desk.Meets parameters now turn summary mandate .expired := by
  have unspoken (decision : Decision)
      (member : decision ∈ summary.decisions) :
      decision.action.mandate ≠ some mandate.id := by
    intro named
    rcases worked.hears_of_decision coherent member named with
      ⟨other, same, heard⟩
    have present := heard.stored
    rw [same, stored, Option.some.injEq] at present
    rw [present, heard.young] at aged
    exact Bool.noConfusion aged
  rcases worked with ⟨expiry, run, resending, served⟩
  rename_i registry expired decided decisions sent last resent reading tally
  refine ⟨aged, ?_, unspoken, fun dispatch handed carries => ?_⟩
  · show last.registry.get? mandate.id = none
    rw [resending.registry]
    refine run.absent ?_
    show registry.get? mandate.id = none
    rw [get?_expire expiry, stored]
    simp [aged]
  · rcases List.mem_append.mp handed with here | again
    · rcases run.exists_decision here with ⟨decision, member, _, same, _⟩
      exact unspoken decision member (same ▸ carries)
    · rw [resending.mandate_eq_none again] at carries
      cases carries

/-- A mandate that a cycle listens to is settled by it, or is kept. -/
theorem Worked.exists_fate_of_hears
    (coherent : desk.Coherent)
    (worked : Worked desk parameters limits snapshot now turn summary)
    (heard : desk.Hears parameters now mandate) :
    ∃ fate, desk.Meets parameters now turn summary mandate fate := by
  rcases worked with ⟨expiry, run, resending, served⟩
  rename_i registry expired decided decisions sent last resent reading tally
  have found :
      (desk.collected parameters registry now).registry.get? mandate.id =
        some mandate := by
    show registry.get? mandate.id = some mandate
    rw [get?_expire expiry, heard.stored]
    simp [heard.active, heard.young]
  have ready :=
    coherent.collected (consistent_expire coherent.registry expiry)
      parameters now
  have listed :=
    mem_symbols_of_active ready.registry found heard.active
      (desk.roundOf parameters limits snapshot now) parameters.aging now
  rcases
      run.fate (asked_agendaOf coherent expiry limits snapshot)
        (Agenda.nodup_symbols _) listed found with
    ⟨decision, speaks, told⟩
  have speaks :=
    speaks.append fun dispatch again => resending.mandate_eq_none again
  rw [← resending.registry] at told
  rcases told with ⟨kept, spared⟩ | ⟨spent, fulfils⟩ | ⟨spent, refuses⟩
  · exact ⟨.kept, kept, _, decision,
      comesTo_agendaOf coherent expiry limits snapshot mandate.symbol,
      speaks, spared.append resent⟩
  · exact ⟨.consumed, spent, decision, speaks, fulfils.append resent⟩
  · exact ⟨.rejected, spent, decision, speaks, refuses⟩

/-- A mandate that was active when a cycle began has a fate in it. -/
theorem Worked.exists_fate
    (coherent : desk.Coherent)
    (worked : Worked desk parameters limits snapshot now turn summary)
    (stored : desk.registry.get? mandate.id = some mandate)
    (active : mandate.isActive = true) :
    ∃ fate, desk.Meets parameters now turn summary mandate fate := by
  cases aged : outlived parameters.mandateLifetime now mandate with
  | true => exact ⟨.expired, worked.meets_of_outlived coherent stored aged⟩
  | false =>
    exact worked.exists_fate_of_hears coherent ⟨stored, active, aged⟩

end Cycle

/--
In a cycle on fresh market data that is done, every mandate that was active
when it began has exactly one fate: it comes to what the cycle tells of it, and
a mandate that is kept is spared for one of the reasons for that.  Nobody
else's mandate is behind a decision.
-/
theorem exists_unique_fate
    {parameters : Parameters}
    {limits : Risk.Limits}
    {desk : Desk}
    (reached : Reachable parameters limits desk)
    {feed : Feed}
    {now : Instant}
    {turn : Turn}
    {summary : CycleSummary}
    (done :
      desk.runCycle parameters limits feed none now = (turn, .done summary))
    (current : summary.stale = false) :
    (∀ mandate,
      desk.registry.get? mandate.id = some mandate →
      mandate.isActive = true →
      ∃ fate, desk.Meets parameters now turn summary mandate fate ∧
        ∀ other, desk.Meets parameters now turn summary mandate other →
          other = fate) ∧
    ∀ decision ∈ summary.decisions,
      ∀ id, decision.action.mandate = some id →
        ∃ mandate, desk.registry.get? id = some mandate ∧
          mandate.isActive = true := by
  have coherent := reached.coherent
  rcases worked_of_done coherent done current with ⟨snapshot, _, worked⟩
  constructor
  · intro mandate stored active
    rcases worked.exists_fate coherent stored active with ⟨fate, meets⟩
    exact ⟨fate, meets, fun other told => told.unique active meets⟩
  · intro decision member id named
    rcases worked.hears_of_decision coherent member named with
      ⟨mandate, same, heard⟩
    exact ⟨mandate, same ▸ heard.stored, heard.active⟩

/-- The exit of the run is consumed in the cycle that hears of it. -/
theorem fate_of_exit_leaving :
    ∃ turn summary,
      Sample.leaving.runCycle .standard .standard Sample.feed none
        (Sample.moment 2) = (turn, .done summary) ∧
      Sample.leaving.Meets .standard (Sample.moment 2) turn summary Sample.exit
        .consumed := by
  rcases
      CycleEnd.exists_of_summary?
        (show
          ((Sample.leaving.runCycle .standard .standard Sample.feed none
            (Sample.moment 2)).2.summary?).isSome = true by decide +kernel) with
    ⟨summary, done, current⟩
  have ran :
      Sample.leaving.runCycle .standard .standard Sample.feed none
          (Sample.moment 2) =
        ((Sample.leaving.runCycle .standard .standard Sample.feed none
          (Sample.moment 2)).1, .done summary) :=
    Prod.ext rfl done
  rcases
      (exists_unique_fate Sample.reachable_leaving ran current).1 Sample.exit
        (by decide +kernel) rfl with
    ⟨fate, meets, _⟩
  have status := meets.status_eq rfl
  have spent : fate = .consumed := by
    refine Fate.eq_of_status? (status.symm.trans ?_)
    decide +kernel
  exact ⟨_, summary, ran, spent ▸ meets⟩

end MandateDesk.Desk
