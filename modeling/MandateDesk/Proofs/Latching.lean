import MandateDesk.Proofs.Freezing

/-!
# What the latch decides

The latch is looked at in one place, before an entry is admitted.  So on a
halted desk an entry that the gate lets pass is held back, with its mandate
left active; and where no entry is asked for, a cycle does the same whatever
the latch says.

Two turns that differ in the latch only are compared stage by stage: a stage
commutes with `Turn.latched`, which replaces the latch.
-/

namespace MandateDesk

namespace Desk

open Reservation (Token)

/-! ## Stages that do not look at the latch -/

/-- A turn on a desk with another latch. -/
def Turn.latched (halt : Halt) (turn : Turn) : Turn :=
  turn.on { turn.desk with halt }

/-- What a stage came to, on a desk with another latch. -/
def latchedResult
    {α : Type}
    (halt : Halt)
    (result : Turn × α) :
    Turn × α :=
  (result.1.latched halt, result.2)

section Latched

variable (halt : Halt)

theorem andThen_latched
    {α β : Type}
    {result : Turn × Except Fault α}
    {next : Turn → α → Turn × Except Fault β}
    (goes : ∀ turn value,
      next (turn.latched halt) value = latchedResult halt (next turn value)) :
    Turn.andThen (latchedResult halt result) next =
      latchedResult halt (Turn.andThen result next) := by
  rcases result with ⟨turn, fault | value⟩
  · rfl
  · exact goes turn value

theorem persist_latched
    (desk : Desk)
    (symbol : Symbol) :
    persist { desk with halt } symbol =
      { desk.persist symbol with halt } := by
  unfold persist
  simp only
  cases desk.book.get? symbol with
  | none => rfl
  | some position =>
    simp only
    cases desk.store.save position <;> rfl

theorem apply_latched
    (desk : Desk)
    (symbol : Symbol)
    (event : Position.Event)
    (now : Instant) :
    Desk.apply { desk with halt } symbol event now =
      ({ (desk.apply symbol event now).1 with halt },
        (desk.apply symbol event now).2) := by
  unfold Desk.apply
  rcases desk.book.apply symbol event now with ⟨book, fault | transition⟩
  · rfl
  · exact congrArg (·, Except.ok transition)
      (persist_latched halt { desk with book } symbol)

theorem spend_latched
    (desk : Desk)
    (action : Action)
    (event : Position.Event)
    (now : Instant) :
    spend { desk with halt } action event now =
      ({ (desk.spend action event now).1 with halt },
        (desk.spend action event now).2) := by
  have consumed :
      consume { desk with halt } action =
        (desk.consume action).map fun spent => { spent with halt } := by
    unfold consume
    simp only
    cases action.mandate with
    | none => rfl
    | some id =>
      simp only
      rcases desk.registry.update id .consumed with fault | ⟨registry, mandate⟩
      · rfl
      · rfl
  unfold spend
  rw [consumed]
  cases desk.consume action with
  | error fault => rfl
  | ok spent =>
    simp only [Except.map, apply_latched]
    rcases spent.apply action.symbol event now with
      ⟨next, fault | transition⟩
    · rfl
    · rfl

theorem withdraw_latched
    (desk : Desk)
    (symbol : Symbol) :
    withdraw { desk with halt } symbol =
      { desk.withdraw symbol with halt } := by
  unfold withdraw
  simp only
  cases desk.working.find? symbol with
  | none => rfl
  | some order =>
    simp only
    cases order.token <;> rfl

theorem refuse_latched
    (desk : Desk)
    (action : Action) :
    refuse { desk with halt } action = { desk.refuse action with halt } := by
  unfold refuse
  simp only
  cases action.mandate with
  | none => rfl
  | some id =>
    simp only
    rcases desk.registry.update id .rejected with fault | ⟨registry, mandate⟩
    · rfl
    · rfl

theorem dispatch_latched
    (turn : Turn)
    (action : Action)
    (order : Venue.Order)
    (token : Option Token) :
    (turn.latched halt).dispatch action order token =
      latchedResult halt (turn.dispatch action order token) := by
  rcases turn with ⟨desk, outbox, room⟩
  cases room with
  | none => rfl
  | some left =>
    cases left with
    | succ left => rfl
    | zero =>
      exact congrArg
        (fun stuck : Desk => (Turn.mk stuck outbox (some 0),
          (Except.error crowded : Except Fault DispatchId)))
        (withdraw_latched halt (desk.launched action.symbol order token)
          action.symbol)

theorem requestCancel_latched
    (turn : Turn)
    (action : Action) :
    (turn.latched halt).requestCancel action =
      latchedResult halt (turn.requestCancel action) := by
  rcases turn with ⟨desk, outbox, room⟩
  have same :
      cancellable? { desk with halt } action.symbol =
        desk.cancellable? action.symbol :=
    rfl
  unfold Turn.requestCancel
  simp only [Turn.latched, Turn.on, same]
  cases desk.cancellable? action.symbol with
  | none => rfl
  | some order =>
    cases room with
    | none => rfl
    | some left => cases left <;> rfl

theorem carryOut_latched
    (round : Round)
    (action : Action)
    (event : Position.Event)
    {order : Desk → Venue.Order}
    (blind : ∀ desk : Desk, order { desk with halt } = order desk)
    (turn : Turn) :
    carryOut round action event order (turn.latched halt) =
      latchedResult halt (carryOut round action event order turn) := by
  unfold carryOut
  simp only [Turn.latched, Turn.on, spend_latched]
  rcases turn.desk.spend action event round.now with ⟨next, fault | done⟩
  · rfl
  · simp only [blind]
    exact dispatch_latched halt ⟨next, turn.outbox, turn.room⟩ action
      (order next) none

theorem close_latched
    (round : Round)
    (action : Action)
    (turn : Turn) :
    close round action (turn.latched halt) =
      latchedResult halt (close round action turn) :=
  carryOut_latched halt round action .exitAdmitted (fun _ => rfl) turn

theorem admitReduce_latched
    (round : Round)
    (action : Action)
    (turn : Turn) :
    admitReduce round action (turn.latched halt) =
      latchedResult halt (admitReduce round action turn) := by
  have same : (turn.latched halt).desk.book = turn.desk.book := rfl
  unfold admitReduce
  rw [same]
  cases (turn.desk.book.get? action.symbol).bind openQuantity? with
  | none => rfl
  | some held =>
    simp only
    rw [carryOut_latched halt round action _ (fun _ => rfl) turn]
    rfl

theorem admitExit_latched
    (round : Round)
    (action : Action)
    (turn : Turn) :
    admitExit round action (turn.latched halt) =
      latchedResult halt (admitExit round action turn) := by
  have same : (turn.latched halt).desk.book = turn.desk.book := rfl
  unfold admitExit
  rw [same, requestCancel_latched, close_latched]
  cases turn.desk.book.stateOf action.symbol <;> rfl

theorem forceExit_latched
    (round : Round)
    (action : Action)
    (distance : Decimal)
    (turn : Turn) :
    forceExit round action distance (turn.latched halt) =
      latchedResult halt (forceExit round action distance turn) := by
  have same : (turn.latched halt).desk.book = turn.desk.book := rfl
  unfold forceExit
  simp only
  rw [same, requestCancel_latched, close_latched]
  cases turn.desk.book.stateOf action.symbol <;> rfl

/-- Only the admission of an entry looks at the latch. -/
theorem admitAction_latched
    (round : Round)
    {action : Action}
    (other : action.kind ≠ .entry)
    (turn : Turn) :
    admitAction round action (turn.latched halt) =
      latchedResult halt (admitAction round action turn) := by
  unfold admitAction
  cases kind : action.kind with
  | entry => exact absurd kind other
  | reduce => exact admitReduce_latched halt round action turn
  | exit => exact admitExit_latched halt round action turn
  | hold => rfl
  | noAction => rfl

theorem carryOutVerdict_latched
    (round : Round)
    {action : Action}
    (other : action.kind ≠ .entry)
    (turn : Turn)
    (verdict : Risk.Verdict) :
    carryOutVerdict round action (turn.latched halt) verdict =
      latchedResult halt (carryOutVerdict round action turn verdict) := by
  cases verdict with
  | accept => exact admitAction_latched halt round other turn
  | reject rejection =>
    exact congrArg
      (fun desk : Desk => (turn.on desk,
        (Except.ok (.rejected rejection) : Except Fault Outcome)))
      (refuse_latched halt turn.desk action)
  | forceExit symbol distance =>
    exact forceExit_latched halt round _ distance turn

theorem decideSymbol_latched
    (round : Round)
    {agenda : Agenda}
    {symbol : Symbol}
    (other : (agenda.actionOf symbol).kind ≠ .entry)
    (turn : Turn) :
    decideSymbol round agenda symbol (turn.latched halt) =
      latchedResult halt (decideSymbol round agenda symbol turn) := by
  have same : (turn.latched halt).desk.book = turn.desk.book := rfl
  rw [decideSymbol_eq, decideSymbol_eq, same,
    carryOutVerdict_latched halt round other turn]
  exact andThen_latched halt fun _ _ => rfl

theorem decideAll_latched
    (round : Round)
    {agenda : Agenda}
    {symbols : List Symbol}
    (others : ∀ symbol ∈ symbols, (agenda.actionOf symbol).kind ≠ .entry)
    (turn : Turn) :
    decideAll round agenda symbols (turn.latched halt) =
      latchedResult halt (decideAll round agenda symbols turn) := by
  induction symbols generalizing turn with
  | nil => rfl
  | cons symbol rest hypothesis =>
    have here := others symbol (List.mem_cons_self ..)
    rw [decideAll_cons, decideAll_cons,
      decideSymbol_latched halt round here turn]
    refine andThen_latched halt fun next decision => ?_
    rw [hypothesis fun other member =>
      others other (List.mem_cons_of_mem _ member)]
    exact andThen_latched halt fun _ _ => rfl

theorem resendOne_latched
    (position : Position)
    (turn : Turn) :
    resendOne position (turn.latched halt) =
      latchedResult halt (resendOne position turn) := by
  have same : (turn.latched halt).desk.working = turn.desk.working := rfl
  unfold resendOne
  rw [same]
  cases turn.desk.working.contains position.symbol with
  | true => rfl
  | false =>
    simp only [Bool.false_eq_true, if_false]
    rcases pendingOrder? position with _ | ⟨kind, order⟩
    · rfl
    · simp only [dispatch_latched]
      rcases turn.dispatch (resentAction position kind) order none with
        ⟨next, fault | id⟩
      · rfl
      · rfl

theorem resendAll_latched
    (positions : List Position)
    (turn : Turn) :
    resendAll positions (turn.latched halt) =
      latchedResult halt (resendAll positions turn) := by
  induction positions generalizing turn with
  | nil => rfl
  | cons position rest hypothesis =>
    rw [resendAll_cons, resendAll_cons, resendOne_latched]
    exact andThen_latched halt fun next _ => hypothesis next

theorem gate_latched
    (round : Round)
    {actions : OrderedMap Symbol Action}
    (others : ∀ symbol action,
      actions.find? symbol = some action → action.kind ≠ .entry)
    (turn : Turn) :
    gate round actions (turn.latched halt) =
      latchedResult halt (gate round actions turn) := by
  have same : (turn.latched halt).desk.book = turn.desk.book := rfl
  have asked (symbol : Symbol) :
      ((agenda round turn.desk.book actions).actionOf symbol).kind ≠
        .entry := by
    unfold Agenda.actionOf
    show ((actions.find? symbol).getD (Action.noAction symbol)).kind ≠ .entry
    cases found : actions.find? symbol with
    | none => simp [Action.noAction]
    | some action => exact others symbol action found
  rw [gate_eq, gate_eq, same,
    decideAll_latched halt round (fun symbol _ => asked symbol) turn]
  refine andThen_latched halt fun decided decisions => ?_
  have kept : (decided.latched halt).desk.book = decided.desk.book := rfl
  rw [kept, resendAll_latched]
  exact andThen_latched halt fun _ _ => rfl

end Latched

/-! ## Cycles without entries -/

/-- The actions that the mandates of a desk come to in a cycle. -/
def Arbitrates
    (desk : Desk)
    (parameters : Parameters)
    (now : Instant)
    (symbol : Symbol)
    (action : Action) :
    Prop :=
  ∃ registry expired,
    expire desk.registry parameters.mandateLifetime now =
      some (registry, expired) ∧
    (arbitrate { desk with registry } parameters.aging now).find? symbol =
      some action

theorem decideOn_latched
    (halt : Halt)
    {turn : Turn}
    {parameters : Parameters}
    {now : Instant}
    (others : ∀ symbol action,
      turn.desk.Arbitrates parameters now symbol action →
        action.kind ≠ .entry)
    (limits : Risk.Limits)
    (snapshot : Snapshot) :
    decideOn parameters limits snapshot now (turn.latched halt) =
      latchedResult halt
        (decideOn parameters limits snapshot now turn) := by
  rcases turn with ⟨desk, outbox, room⟩
  unfold decideOn
  simp only [Turn.latched, Turn.on]
  cases expiry : expire desk.registry parameters.mandateLifetime now with
  | none => rfl
  | some dropped =>
    rcases dropped with ⟨registry, expired⟩
    have gated :
        gate (desk.roundOf parameters limits snapshot now)
            (arbitrate { desk with halt, registry } parameters.aging now)
            ⟨{ desk with halt, registry }, outbox, room⟩ =
          latchedResult halt
            (gate (desk.roundOf parameters limits snapshot now)
              (arbitrate { desk with registry } parameters.aging now)
              ⟨{ desk with registry }, outbox, room⟩) :=
      gate_latched halt _
        (fun symbol action found =>
          others symbol action ⟨registry, expired, expiry, found⟩)
        ⟨{ desk with registry }, outbox, room⟩
    unfold roundOf at gated
    simp only [gated]
    generalize gate _ _ _ = result
    rcases result with ⟨next, fault | decisions⟩ <;> rfl

/-- Where no entry is asked for, the latch does not matter to a cycle. -/
theorem runCycle_latched
    {desk : Desk}
    {parameters : Parameters}
    {now : Instant}
    (others : ∀ symbol action,
      desk.Arbitrates parameters now symbol action → action.kind ≠ .entry)
    (limits : Risk.Limits)
    (feed : Feed)
    (room : Option Nat)
    (halt : Halt) :
    ∃ left,
      runCycle { desk with halt } parameters limits feed room now =
        latchedResult left
          (desk.runCycle parameters limits feed room now) := by
  rcases exists_tripOverdue_eq desk parameters.reservationTimeout now with
    ⟨first, tripped⟩
  rcases
      exists_tripOverdue_eq { desk with halt } parameters.reservationTimeout
        now with
    ⟨left, also⟩
  refine ⟨left, ?_⟩
  unfold runCycle
  simp only [tripped, also]
  cases feed.fresh parameters.oldestSnapshot now with
  | error fault => rfl
  | ok snapshot =>
    exact @decideOn_latched left ⟨{ desk with halt := first }, [], room⟩
      parameters now others limits snapshot

/-! ## Entries that are held back -/

/-- A latch that is tripped stays so at the beginning of a cycle. -/
theorem isHalted_tripOverdue
    {desk : Desk}
    (halted : desk.halt.isHalted = true)
    (timeout : Nat)
    (now : Instant) :
    (desk.tripOverdue timeout now).halt.isHalted = true := by
  unfold tripOverdue
  split
  · exact halted
  · exact Halt.isHalted_trip ..

/-- What becomes of an entry under a tripped latch, by its judgement. -/
inductive Withheld (desk : Desk) (action : Action) :
    Risk.Verdict → Outcome → Prop where
  | refused {rejection} :
      Withheld desk action (.reject rejection) (.rejected rejection)
  /-- The mandate stays active. -/
  | held {mandate}
      (backs : Backs desk action mandate) :
      Withheld desk action .accept .halted

section Withheld

variable {round : Round} {agenda : Agenda} {symbols : List Symbol}
variable {desk after last : Desk} {action : Action}
variable {verdict : Risk.Verdict} {outcome : Outcome}
variable {decisions : List Decision} {sent : List Venue.Dispatch}

theorem Ruling.halt_eq
    (ruling : Ruling round desk action verdict after outcome sent) :
    after.halt = desk.halt := by
  cases ruling <;> rfl

theorem Decided.halt_eq
    (run : Decided round agenda symbols desk last decisions sent) :
    last.halt = desk.halt := by
  induction run with
  | nil => rfl
  | cons _ _ _ ruling _ hypothesis => exact hypothesis.trans ruling.halt_eq

theorem Ruling.outcome_of_reject
    {rejection : Risk.Rejection}
    (ruling :
      Ruling round desk action (.reject rejection) after outcome sent) :
    outcome = .rejected rejection := by
  cases ruling with
  | idle reason =>
    cases reason with
    | awaited leaving => cases leaving
  | refused => rfl
  | cancelled leaving => cases leaving
  | exited leaving => cases leaving

/-- A tripped latch holds an entry back that has passed the gate. -/
theorem Ruling.held
    (ruling : Ruling round desk action .accept after outcome sent)
    (kind : action.kind = .entry)
    (halted : desk.halt.isHalted = true) :
    after = desk ∧ outcome = .halted := by
  have stays : ¬ Leaving action .accept := by
    rintro (leaves | _)
    rw [kind] at leaves
    contradiction
  cases ruling with
  | idle reason =>
    cases reason with
    | content other =>
      rw [kind] at other
      contradiction
    | halted => exact ⟨rfl, rfl⟩
    | awaited leaving => exact absurd leaving stays
  | cancelled leaving => exact absurd leaving stays
  | entered _ _ _ unlatched =>
    rw [halted] at unlatched
    contradiction
  | reduced _ other =>
    rw [kind] at other
    contradiction
  | exited leaving => exact absurd leaving stays

/-- Under a tripped latch an entry is refused, or held back. -/
theorem Ruling.withheld
    (ruling : Ruling round desk action verdict after outcome sent)
    {mandate : Mandate}
    (backs : Backs desk action mandate)
    (kind : action.kind = .entry)
    (halted : desk.halt.isHalted = true)
    (passes :
      verdict = .accept ∨ ∃ rejection, verdict = .reject rejection) :
    ruled action verdict = action ∧
      Withheld after action verdict outcome := by
  rcases passes with rfl | ⟨rejection, rfl⟩
  · rcases ruling.held kind halted with ⟨rfl, rfl⟩
    exact ⟨rfl, .held backs⟩
  · cases ruling.outcome_of_reject
    exact ⟨rfl, .refused⟩

/-- An entry stays held back as long as the mandates of its symbol do. -/
theorem Withheld.of_keepsMandates
    (withheld : Withheld desk action verdict outcome)
    (keeps : KeepsMandates action.symbol desk.registry last.registry) :
    Withheld last action verdict outcome := by
  cases withheld with
  | refused => exact .refused
  | held backs =>
    rename_i mandate
    have about : mandate.symbol = action.symbol := by
      rw [backs.action_eq, Action.symbol_ofMandate]
    exact .held
      ⟨keeps _ _ about backs.stored, backs.active, backs.action_eq,
        backs.kind⟩

end Withheld

/-- What the mandates come to is what the gate works off. -/
theorem actionOf_of_arbitrates
    {desk : Desk}
    {parameters : Parameters}
    {registry : Registry}
    {expired : Nat}
    {now : Instant}
    (expiry :
      expire desk.registry parameters.mandateLifetime now =
        some (registry, expired))
    {symbol : Symbol}
    {action : Action}
    (arbitrated : desk.Arbitrates parameters now symbol action)
    (limits : Risk.Limits)
    (snapshot : Snapshot) :
    symbol ∈
        (desk.agendaOf parameters limits snapshot registry now).symbols ∧
      (desk.agendaOf parameters limits snapshot registry now).actionOf
          symbol =
        action := by
  rcases arbitrated with ⟨_, _, known, found⟩
  rw [expiry] at known
  cases known
  rcases exists_tripOverdue_eq desk parameters.reservationTimeout now with
    ⟨halt, tripped⟩
  have listed :
      (desk.agendaOf parameters limits snapshot registry
        now).actions.find? symbol = some action := by
    unfold agendaOf collected
    rw [tripped]
    exact found
  constructor
  · unfold Agenda.symbols
    rw [OrderedMap.mem_sortedKeys]
    refine List.mem_append_left _ ((OrderedMap.mem_keys_iff _ _).mpr ?_)
    rw [listed]
    rfl
  · unfold Agenda.actionOf
    rw [listed]
    rfl

/-- On a halted desk an entry is refused, or held back with its mandate. -/
theorem Worked.withheld
    {desk : Desk}
    (coherent : desk.Coherent)
    {parameters : Parameters}
    {limits : Risk.Limits}
    {snapshot : Snapshot}
    {now : Instant}
    {turn : Turn}
    {summary : CycleSummary}
    (worked : Worked desk parameters limits snapshot now turn summary)
    (halted :
      (desk.tripOverdue parameters.reservationTimeout now).halt.isHalted =
        true)
    (entryless : ∀ dispatch ∈ turn.outbox, dispatch.order.isEntry = false)
    {symbol : Symbol}
    {action : Action}
    (arbitrated : desk.Arbitrates parameters now symbol action)
    (kind : action.kind = .entry) :
    ∃ decision ∈ summary.decisions, decision.symbol = symbol ∧
      decision.action = action ∧
      Withheld turn.desk action
        (Risk.judge ⟨limits, snapshot.account, snapshot.prices⟩
          desk.book.positions action)
        decision.outcome := by
  rcases worked with ⟨expiry, run, resending, -⟩
  rename_i registry expired decided decisions sent last resent reading tally
  have ready :=
    coherent.collected (consistent_expire coherent.registry expiry)
      parameters now
  rcases actionOf_of_arbitrates expiry arbitrated limits snapshot with
    ⟨member, planned⟩
  rcases run.decidedAmid member with
    ⟨-, former, new, -, asked, ruling, latter, once, listed, handed⟩
  rename_i front rest before after outcome past earlier own future later
  have about := asked.symbol_eq
  -- nothing is entered before, so the entry is judged as at the beginning
  have judged :
      judge (desk.roundOf parameters limits snapshot now)
          (desk.agendaOf parameters limits snapshot registry now)
          before.book symbol =
        Risk.judge ⟨limits, snapshot.account, snapshot.prices⟩
          desk.book.positions action := by
    rw [← planned]
    refine former.judge_collected ready (fun dispatch among => ?_) new about
    refine entryless dispatch (List.mem_append_left _ ?_)
    rw [handed]
    exact List.mem_append_left _ among
  rw [planned] at asked ruling
  rw [judged] at ruling
  rcases asked.flat_of_entry kind with ⟨mandate, backs, flat⟩
  have unheld : desk.book.stateOf action.symbol = .flat := by
    rw [← book_collected desk parameters registry now, asked.symbol_eq,
      ← stateOf_of_agrees (former.untouched new).agrees, ← asked.symbol_eq]
    exact flat
  rcases ruling.withheld backs kind (former.halt_eq ▸ halted)
      (Risk.judge_of_entry unheld kind _) with
    ⟨same, withheld⟩
  refine ⟨_, listed ▸ List.mem_append_right _ (List.mem_cons_self ..), rfl,
    ?_, ?_⟩
  · rw [action_decisionOn, planned, judged]
    exact same
  · refine withheld.of_keepsMandates ?_
    rw [asked.symbol_eq]
    show KeepsMandates symbol after.registry last.registry
    rw [resending.registry]
    exact (latter.untouched once).mandates

/-! ## Cycles on a halted desk -/

/--
While the latch is tripped a cycle enters nothing, takes no reservation and
leaves what is flat flat.  An entry that the gate lets pass is held back, and
its mandate stays active.  The latch decides about nothing else: where no entry
is asked for, a cycle does the same whatever the latch says.
-/
theorem halted_cycles_enter_nothing
    {parameters : Parameters}
    {limits : Risk.Limits}
    {desk : Desk}
    (reached : Reachable parameters limits desk)
    (feed : Feed)
    (room : Option Nat)
    (now : Instant) :
    ((desk.tripOverdue parameters.reservationTimeout now).halt.isHalted =
        true →
      ∀ turn ending,
        desk.runCycle parameters limits feed room now = (turn, ending) →
        (∀ dispatch ∈ turn.outbox, dispatch.order.isEntry = false) ∧
        turn.desk.reservations = desk.reservations ∧
        (∀ symbol, desk.book.stateOf symbol = .flat →
          turn.desk.book.stateOf symbol = .flat) ∧
        ∀ snapshot summary,
          feed.fresh parameters.oldestSnapshot now = .ok snapshot →
          ending = .done summary →
          ∀ symbol action,
            desk.Arbitrates parameters now symbol action →
            action.kind = .entry →
            ∃ decision ∈ summary.decisions, decision.symbol = symbol ∧
              decision.action = action ∧
              Withheld turn.desk action
                (Risk.judge ⟨limits, snapshot.account, snapshot.prices⟩
                  desk.book.positions action)
                decision.outcome) ∧
    ((∀ symbol action,
        desk.Arbitrates parameters now symbol action →
          action.kind ≠ .entry) →
      ∀ halt, ∃ left,
        runCycle { desk with halt } parameters limits feed room now =
          latchedResult left
            (desk.runCycle parameters limits feed room now)) := by
  refine ⟨?_, fun others halt =>
    runCycle_latched others limits feed room halt⟩
  intro halted turn ending ran
  have frozen := frozen_runCycle halted limits feed room
  rcases exists_tripOverdue_eq desk parameters.reservationTimeout now with
    ⟨halt, tripped⟩
  rw [ran, tripped] at frozen
  rcases frozen.entryless with ⟨sent, outbox, others⟩
  have entryless (dispatch : Venue.Dispatch)
      (member : dispatch ∈ turn.outbox) : dispatch.order.isEntry = false := by
    have left : turn.outbox = sent := outbox
    exact others dispatch (left ▸ member)
  refine ⟨entryless, frozen.reservations, fun _ state => frozen.flat state,
    ?_⟩
  intro snapshot summary fresh done symbol action arbitrated kind
  subst done
  rcases exists_runCycle_of_done ran with ⟨free, freed, same, handed⟩
  rcases runCycle_of_fresh reached.coherent parameters limits fresh with
    ⟨_, failed⟩ | ⟨_, _, worked, works⟩
  · rw [freed] at failed
    cases failed
  · rw [freed] at works
    cases works
    rw [← same]
    exact worked.withheld reached.coherent halted (handed ▸ entryless)
      arbitrated kind

namespace Sample

/-- A latch that is tripped. -/
def tripped : Halt :=
  Halt.released.trip (.manual "maintenance") (moment 0)

/-- The desk once the entry was wished for, halted. -/
def haltedWishing : Desk :=
  { wishing with halt := tripped }

theorem reachable_haltedWishing :
    Reachable .standard .standard haltedWishing :=
  .step reachable_wishing (.halt wishing (.manual "maintenance") (moment 0))

/-- The wish to enter comes to an entry. -/
theorem arbitrates_haltedWishing :
    haltedWishing.Arbitrates .standard (moment 1) symbol
      (Action.ofMandate entry) := by
  have found :
      ((expire haltedWishing.registry Parameters.standard.mandateLifetime
          (moment 1)).map fun dropped =>
        (arbitrate { haltedWishing with registry := dropped.1 }
          Parameters.standard.aging (moment 1)).find? symbol) =
        some (some (Action.ofMandate entry)) := by
    decide +kernel
  rcases Option.map_eq_some_iff.mp found with
    ⟨⟨registry, expired⟩, expiry, arbitrated⟩
  exact ⟨registry, expired, expiry, arbitrated⟩

/-- The wish to leave comes to no entry. -/
theorem kind_of_arbitrates_leaving
    {about : Symbol}
    {action : Action}
    (arbitrated :
      leaving.Arbitrates .standard (moment 1) about action) :
    action.kind ≠ .entry := by
  have listed :
      ((expire leaving.registry Parameters.standard.mandateLifetime
          (moment 1)).map fun dropped =>
        (arbitrate { leaving with registry := dropped.1 }
          Parameters.standard.aging (moment 1)).values.map Action.kind) =
        some [.exit] := by
    decide +kernel
  rcases arbitrated with ⟨registry, expired, expiry, found⟩
  rw [expiry] at listed
  have member := (OrderedMap.mem_values_iff _ action).mpr ⟨about, found⟩
  have among : action.kind ∈ [Action.Kind.exit] :=
    Option.some.inj listed ▸ List.mem_map_of_mem member
  rw [List.mem_singleton.mp among]
  decide

/--
The entry that is wished for on the halted desk is held back.  The exit from
the open position goes as it would under a tripped latch.
-/
theorem halted_cycles_enter_nothing_wishing :
    (∃ turn summary,
      haltedWishing.runCycle .standard .standard feed none (moment 1) =
        (turn, .done summary) ∧
      (∀ dispatch ∈ turn.outbox, dispatch.order.isEntry = false) ∧
      (∃ decision ∈ summary.decisions, decision.symbol = symbol ∧
        decision.outcome = .halted) ∧
      ∃ mandate, Backs turn.desk (Action.ofMandate entry) mandate) ∧
    ∃ left,
      runCycle { leaving with halt := tripped } .standard .standard feed none
          (moment 1) =
        latchedResult left
          (leaving.runCycle .standard .standard feed none (moment 1)) := by
  constructor
  · have done :
        (haltedWishing.runCycle .standard .standard feed none
          (moment 1)).2.summary?.isSome = true := by
      decide +kernel
    generalize ran :
        haltedWishing.runCycle .standard .standard feed none (moment 1) =
          result at done
    rcases result with ⟨turn, ending⟩
    rcases CycleEnd.exists_of_summary? done with ⟨summary, rfl, _⟩
    have fresh :
        feed.fresh Parameters.standard.oldestSnapshot (moment 1) =
          .ok feed.latest :=
      rfl
    have accepts :
        Risk.judge
            ⟨.standard, feed.latest.account, feed.latest.prices⟩
            haltedWishing.book.positions (Action.ofMandate entry) =
          .accept := by
      decide +kernel
    rcases
        (halted_cycles_enter_nothing reachable_haltedWishing feed none
          (moment 1)).1 (isHalted_tripOverdue rfl _ _) turn _ ran with
      ⟨entryless, _, _, decides⟩
    rcases decides _ summary fresh rfl _ _ arbitrates_haltedWishing rfl with
      ⟨decision, listed, about, _, withheld⟩
    rw [accepts] at withheld
    generalize outcome : decision.outcome = told at withheld
    cases withheld with
    | held backs =>
      exact ⟨turn, summary, rfl, entryless,
        ⟨decision, listed, about, outcome⟩, _, backs⟩
  · exact
      (halted_cycles_enter_nothing reachable_leaving feed none (moment 1)).2
        (fun _ _ arbitrated => kind_of_arbitrates_leaving arbitrated) tripped

end Sample

end Desk

end MandateDesk
