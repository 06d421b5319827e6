import MandateDesk.Proofs.Admission

/-!
# What the gate does

`Decided` is a run of decisions over a list of symbols, each of them a ruling
on the desk that the decisions before it left.  The gate makes such a run over
its agenda, and then hands over again the orders of positions that wait for
one in vain.

A run touches no symbol that it does not decide on.  So the decision on a
symbol finds the symbol as it was at the beginning of the run, and the end of
the run finds it as its decision left it.
-/

namespace MandateDesk.Desk

/-! ## Symbols that are not touched -/

/-- Two desks that agree on a symbol and on its mandates. -/
structure Untouched (symbol : Symbol) (before after : Desk) : Prop where
  agrees : AgreesAt symbol before after
  mandates : KeepsMandates symbol before.registry after.registry

theorem Untouched.refl
    (symbol : Symbol)
    (desk : Desk) :
    Untouched symbol desk desk :=
  ⟨.refl symbol desk, fun _ _ _ stored => stored⟩

theorem Untouched.trans
    {symbol : Symbol}
    {first second third : Desk}
    (before : Untouched symbol first second)
    (after : Untouched symbol second third) :
    Untouched symbol first third :=
  ⟨before.agrees.trans after.agrees, before.mandates.trans after.mandates⟩

/-- Recording a decision touches nothing. -/
theorem untouched_record
    (symbol : Symbol)
    (desk : Desk)
    (decision : Decision) :
    Untouched symbol desk (desk.record decision) :=
  ⟨⟨rfl, rfl, rfl⟩, fun _ _ _ stored => stored⟩

theorem Coherent.record
    {desk : Desk}
    (coherent : desk.Coherent)
    (decision : Decision) :
    (desk.record decision).Coherent :=
  coherent.of_same rfl rfl rfl rfl

theorem stateOf_of_agrees
    {symbol : Symbol}
    {before after : Desk}
    (agrees : AgreesAt symbol before after) :
    after.book.stateOf symbol = before.book.stateOf symbol := by
  unfold Book.stateOf
  rw [agrees.book]

/-- What may be asked for on a symbol that is not touched stays the same. -/
theorem Asked.of_untouched
    {symbol : Symbol}
    {before after : Desk}
    {action : Action}
    (asked : Asked before symbol action)
    (untouched : Untouched symbol before after) :
    Asked after symbol action := by
  cases asked with
  | nothing => exact .nothing
  | wish backs about admitted =>
    refine .wish
      ⟨untouched.mandates _ _ about backs.stored, backs.active,
        backs.action_eq, backs.kind⟩ about ?_
    rw [stateOf_of_agrees untouched.agrees]
    exact admitted

/-- A ruling touches no symbol but that of its action. -/
theorem Ruling.untouched
    {round : Round}
    {desk after : Desk}
    {action : Action}
    {verdict : Risk.Verdict}
    {outcome : Outcome}
    {sent : List Venue.Dispatch}
    (coherent : desk.Coherent)
    (ruling : Ruling round desk action verdict after outcome sent)
    {symbol : Symbol}
    (apart : symbol ≠ action.symbol) :
    Untouched symbol desk after :=
  ⟨ruling.agreesOff coherent symbol apart, ruling.keepsMandates apart⟩

/-! ## Runs of decisions -/

/-- A run of decisions, from a desk to another, with the orders handed over. -/
inductive Decided (round : Round) (agenda : Agenda) :
    List Symbol → Desk → Desk → List Decision → List Venue.Dispatch →
      Prop where
  | nil {desk} : Decided round agenda [] desk desk [] []
  | cons {symbol rest desk after outcome sent last decisions later}
      (new : symbol ∉ rest)
      (coherent : desk.Coherent)
      (asked : Asked desk symbol (agenda.actionOf symbol))
      (ruling :
        Ruling round desk (agenda.actionOf symbol)
          (judge round agenda desk.book symbol) after outcome sent)
      (tail :
        Decided round agenda rest
          (after.record (decisionOn round agenda desk symbol outcome)) last
          decisions later) :
      Decided round agenda (symbol :: rest) desk last
        (decisionOn round agenda desk symbol outcome :: decisions)
        (sent ++ later)

/-- The decisions on symbols that were asked about make a run. -/
theorem exists_decided
    (round : Round)
    (agenda : Agenda)
    {symbols : List Symbol}
    (distinct : symbols.Nodup)
    {desk : Desk}
    (coherent : desk.Coherent)
    (asked : ∀ symbol ∈ symbols, Asked desk symbol (agenda.actionOf symbol))
    (outbox : List Venue.Dispatch) :
    ∃ last decisions sent,
      Decided round agenda symbols desk last decisions sent ∧
      decideAll round agenda symbols ⟨desk, outbox, none⟩ =
        (⟨last, outbox ++ sent, none⟩, .ok decisions) := by
  induction symbols generalizing desk outbox with
  | nil => exact ⟨desk, [], [], .nil, by rw [List.append_nil]; rfl⟩
  | cons symbol rest hypothesis =>
    rcases List.nodup_cons.mp distinct with ⟨new, others⟩
    have here := asked symbol (List.mem_cons_self ..)
    rcases exists_ruling round coherent here outbox with
      ⟨after, outcome, sent, ruling, decided⟩
    have later (other : Symbol) (member : other ∈ rest) :
        Asked (after.record (decisionOn round agenda desk symbol outcome))
          other (agenda.actionOf other) := by
      have apart : other ≠ (agenda.actionOf symbol).symbol := by
        rw [here.symbol_eq]
        exact fun same => new (same ▸ member)
      exact (asked other (List.mem_cons_of_mem _ member)).of_untouched
        ((ruling.untouched coherent apart).trans (untouched_record _ _ _))
    rcases
        hypothesis others ((ruling.coherent coherent).record _) later
          (outbox ++ sent) with
      ⟨last, decisions, rested, run, ran⟩
    refine ⟨last, _, sent ++ rested, .cons new coherent here ruling run, ?_⟩
    unfold decideAll
    simp only [decided, ran, List.append_assoc]

section Run

variable {round : Round} {agenda : Agenda} {symbols : List Symbol}
variable {desk last : Desk} {decisions : List Decision}
variable {sent : List Venue.Dispatch}

/-- A run of decisions keeps the desk coherent. -/
theorem Decided.coherent
    (run : Decided round agenda symbols desk last decisions sent)
    (coherent : desk.Coherent) :
    last.Coherent := by
  induction run with
  | nil => exact coherent
  | cons new _ asked ruling tail hypothesis =>
    exact hypothesis ((ruling.coherent coherent).record _)

/-- A run touches no symbol that it does not decide on. -/
theorem Decided.untouched
    (run : Decided round agenda symbols desk last decisions sent)
    {symbol : Symbol}
    (absent : symbol ∉ symbols) :
    Untouched symbol desk last := by
  induction run with
  | nil => exact .refl symbol _
  | cons new coherent asked ruling tail hypothesis =>
    rename_i here rest desk after outcome sent last decisions later
    rw [List.mem_cons, not_or] at absent
    have apart : symbol ≠ (agenda.actionOf here).symbol := by
      rw [asked.symbol_eq]
      exact absent.1
    exact ((ruling.untouched coherent apart).trans
      (untouched_record _ _ _)).trans (hypothesis absent.2)

/-- A run hands over no order on a symbol that it does not decide on. -/
theorem Decided.symbol_of_sent
    (run : Decided round agenda symbols desk last decisions sent)
    {dispatch : Venue.Dispatch}
    (member : dispatch ∈ sent) :
    dispatch.symbol ∈ symbols := by
  induction run with
  | nil => simp at member
  | cons new coherent asked ruling tail hypothesis =>
    rcases List.mem_append.mp member with here | later
    · rw [ruling.symbol_of_sent here, asked.symbol_eq]
      exact List.mem_cons_self ..
    · exact List.mem_cons_of_mem _ (hypothesis later)

/-- What a run does about one symbol: a single ruling. -/
inductive DecidedAt (round : Round) (agenda : Agenda) (symbol : Symbol)
    (desk last : Desk) (decisions : List Decision)
    (sent : List Venue.Dispatch) : Prop where
  | intro {before after outcome own}
      (coherent : before.Coherent)
      (asked : Asked before symbol (agenda.actionOf symbol))
      (earlier : Untouched symbol desk before)
      (ruling :
        Ruling round before (agenda.actionOf symbol)
          (judge round agenda before.book symbol) after outcome own)
      (later : Untouched symbol after last)
      (listed :
        decisionOn round agenda before symbol outcome ∈ decisions)
      (handed :
        (sent.filter fun dispatch => dispatch.symbol = symbol) = own)

/-- A run decides on each of its symbols by a single ruling. -/
theorem Decided.decidedAt
    (run : Decided round agenda symbols desk last decisions sent)
    {symbol : Symbol}
    (member : symbol ∈ symbols) :
    DecidedAt round agenda symbol desk last decisions sent := by
  induction run with
  | nil => simp at member
  | cons new coherent asked ruling tail hypothesis =>
    rename_i here rest desk after outcome sent last decisions later
    by_cases same : symbol = here
    · subst same
      have others :
          (later.filter fun dispatch => dispatch.symbol = symbol) = [] := by
        rw [List.filter_eq_nil_iff]
        intro dispatch handed about
        exact new (of_decide_eq_true about ▸ tail.symbol_of_sent handed)
      have own :
          (sent.filter fun dispatch => dispatch.symbol = symbol) = sent := by
        rw [List.filter_eq_self]
        intro dispatch handed
        rw [ruling.symbol_of_sent handed, asked.symbol_eq]
        exact decide_eq_true rfl
      refine .intro coherent asked (.refl symbol desk) ruling
        ((untouched_record _ _ _).trans (tail.untouched new))
        (List.mem_cons_self ..) ?_
      rw [List.filter_append, own, others, List.append_nil]
    · have apart : symbol ≠ (agenda.actionOf here).symbol := by
        rw [asked.symbol_eq]
        exact same
      have elsewhere :
          (sent.filter fun dispatch => dispatch.symbol = symbol) = [] := by
        rw [List.filter_eq_nil_iff]
        intro dispatch handed about
        rw [ruling.symbol_of_sent handed] at about
        exact apart (of_decide_eq_true about).symm
      rcases hypothesis ((List.mem_cons.mp member).resolve_left same) with
        ⟨before', asked', earlier, ruling', later', listed, handed⟩
      refine .intro before' asked'
        (((ruling.untouched coherent apart).trans
          (untouched_record _ _ _)).trans earlier)
        ruling' later' (List.mem_cons_of_mem _ listed) ?_
      rw [List.filter_append, elsewhere, List.nil_append]
      exact handed

/-- A run makes one decision for each symbol, in their order. -/
theorem Decided.map_symbol
    (run : Decided round agenda symbols desk last decisions sent) :
    decisions.map Decision.symbol = symbols := by
  induction run with
  | nil => rfl
  | cons _ _ _ _ _ hypothesis => rw [List.map_cons, hypothesis]; rfl

/-- Every decision of a run is on one of its symbols. -/
theorem Decided.mem_decisions
    (run : Decided round agenda symbols desk last decisions sent)
    {decision : Decision}
    (member : decision ∈ decisions) :
    ∃ symbol ∈ symbols, ∃ before outcome,
      decision = decisionOn round agenda before symbol outcome := by
  induction run with
  | nil => simp at member
  | cons new coherent asked ruling tail hypothesis =>
    rcases List.mem_cons.mp member with here | later
    · exact ⟨_, List.mem_cons_self .., _, _, here⟩
    · rcases hypothesis later with ⟨symbol, listed, before, outcome, same⟩
      exact ⟨symbol, List.mem_cons_of_mem _ listed, before, outcome, same⟩

/-- An order of a run is named by the decision on its symbol. -/
theorem Decided.exists_decision
    (run : Decided round agenda symbols desk last decisions sent)
    {dispatch : Venue.Dispatch}
    (member : dispatch ∈ sent) :
    ∃ decision ∈ decisions,
      decision.symbol = dispatch.symbol ∧
      decision.action = dispatch.action ∧
      decision.outcome.dispatch? = some dispatch.id ∧
      ∀ id, dispatch.action.mandate = some id →
        decision.outcome = .dispatched dispatch.id := by
  induction run with
  | nil => simp at member
  | cons new coherent asked ruling tail hypothesis =>
    rcases List.mem_append.mp member with here | there
    · have about := (ruling.symbol_of_sent here).trans asked.symbol_eq
      rcases ruling.exists_issue_of_sent here with
        ⟨order, reservation, rfl, rfl⟩
      exact ⟨_, List.mem_cons_self .., about.symm, rfl,
        dispatch?_handedOver _ _,
        fun _ carries => handedOver_of_mandate carries _⟩
    · rcases hypothesis there with ⟨decision, listed, told⟩
      exact ⟨decision, List.mem_cons_of_mem _ listed, told⟩

end Run

/-! ## Orders that are handed over again -/

/-- A position that waits for an order is being reduced or closed. -/
theorem pendingOrder?_eq_some
    {position : Position}
    {kind : Action.Kind}
    {order : Venue.Order}
    (pending : pendingOrder? position = some (kind, order)) :
    position.state = .reducing ∧ order = .reduce position.pendingQuantity ∨
      position.state = .closing ∧ order = .close position.quantity := by
  unfold pendingOrder? at pending
  split at pending
  · rename_i state
    cases pending
    exact Or.inl ⟨state, rfl⟩
  · rename_i state
    cases pending
    exact Or.inr ⟨state, rfl⟩
  · contradiction

/-- Orders that are handed over again, one after another. -/
inductive Resent : Desk → Desk → List Venue.Dispatch → Prop where
  | done {desk}
      (coherent : desk.Coherent) :
      Resent desk desk []
  /-- A position waits for an order, and none works. -/
  | again {desk position kind order last later}
      (coherent : desk.Coherent)
      (found : desk.book.get? position.symbol = some position)
      (vacant : desk.working.find? position.symbol = none)
      (pending : pendingOrder? position = some (kind, order))
      (rest : Resent (desk.launched position.symbol order none) last later) :
      Resent desk last
        (desk.issue (resentAction position kind) order none :: later)

/-- The order that a position waits for can be launched. -/
theorem Coherent.relaunched
    {desk : Desk}
    (coherent : desk.Coherent)
    {position : Position}
    (found : desk.book.get? position.symbol = some position)
    (vacant : desk.working.find? position.symbol = none)
    {kind : Action.Kind}
    {order : Venue.Order}
    (pending : pendingOrder? position = some (kind, order)) :
    (desk.launched position.symbol order none).Coherent := by
  have shaped := coherent.cell position.symbol
  rw [found, vacant] at shaped
  have cell :
      Cell (some position) Reservations.free
        (some ⟨desk.nextDispatch, order, none, false⟩) := by
    rcases pendingOrder?_eq_some pending with ⟨state, rfl⟩ | ⟨state, rfl⟩
    · exact .reducing shaped.wellFormed state
    · exact .closing shaped.wellFormed state
  have free :
      desk.reservations.ticketOf position.symbol = Reservations.free := by
    generalize desk.reservations.ticketOf position.symbol = ticket at shaped
    cases shaped
    rfl
  refine coherent.changedAt position.symbol ?_ (fun _ => coherent.keyed) ?_
    coherent.registry
  · intro other apart
    refine ⟨rfl, rfl, ?_⟩
    rw [find?_working_launched, if_neg apart]
  · show Cell (desk.book.get? position.symbol)
      (desk.reservations.ticketOf position.symbol) _
    rw [found, free, find?_working_launched, if_pos rfl]
    exact cell

section Resent

variable {desk last : Desk} {sent : List Venue.Dispatch}

theorem Resent.book
    (resent : Resent desk last sent) :
    last.book = desk.book := by
  induction resent with
  | done => rfl
  | again _ _ _ _ _ hypothesis => exact hypothesis

theorem Resent.registry
    (resent : Resent desk last sent) :
    last.registry = desk.registry := by
  induction resent with
  | done => rfl
  | again _ _ _ _ _ hypothesis => exact hypothesis

theorem Resent.coherent
    (resent : Resent desk last sent) :
    last.Coherent := by
  induction resent with
  | done coherent => exact coherent
  | again _ _ _ _ _ hypothesis => exact hypothesis

/-- An order that works goes on. -/
theorem Resent.working
    (resent : Resent desk last sent)
    {symbol : Symbol}
    {order : WorkingOrder}
    (working : desk.working.find? symbol = some order) :
    last.working.find? symbol = some order := by
  induction resent with
  | done => exact working
  | again _ _ vacant _ _ hypothesis =>
    refine hypothesis ?_
    rw [find?_working_launched]
    split
    · rename_i same
      rw [same, vacant] at working
      contradiction
    · exact working

/-- Orders are only handed over where none worked. -/
theorem Resent.vacant
    (resent : Resent desk last sent)
    {dispatch : Venue.Dispatch}
    (member : dispatch ∈ sent) :
    desk.working.find? dispatch.symbol = none := by
  induction resent with
  | done => simp at member
  | again _ _ vacant _ _ hypothesis =>
    rcases List.mem_cons.mp member with here | later
    · rw [here]
      exact vacant
    · have free := hypothesis later
      rw [find?_working_launched] at free
      split at free
      · contradiction
      · exact free

/-- An order that is handed over again is one that a position waits for. -/
theorem Resent.pending
    (resent : Resent desk last sent)
    {dispatch : Venue.Dispatch}
    (member : dispatch ∈ sent) :
    ∃ position kind, position.symbol = dispatch.symbol ∧
      desk.book.get? dispatch.symbol = some position ∧
      pendingOrder? position = some (kind, dispatch.order) ∧
      dispatch.action = resentAction position kind := by
  induction resent with
  | done => simp at member
  | again _ found _ pending _ hypothesis =>
    rcases List.mem_cons.mp member with here | later
    · subst here
      exact ⟨_, _, rfl, found, pending, rfl⟩
    · exact hypothesis later

/-- No mandate is behind an order that is handed over again. -/
theorem Resent.mandate_eq_none
    (resent : Resent desk last sent)
    {dispatch : Venue.Dispatch}
    (member : dispatch ∈ sent) :
    dispatch.action.mandate = none := by
  rcases resent.pending member with ⟨position, kind, _, _, _, same⟩
  rw [same]
  rfl

/-- An entry is never handed over again. -/
theorem Resent.entryless
    (resent : Resent desk last sent)
    {dispatch : Venue.Dispatch}
    (member : dispatch ∈ sent) :
    dispatch.order.isEntry = false := by
  rcases resent.pending member with ⟨position, kind, _, _, pending, _⟩
  rcases pendingOrder?_eq_some pending with ⟨_, order⟩ | ⟨_, order⟩ <;>
    rw [order] <;> rfl

theorem Resent.trans
    {second : Desk}
    {later : List Venue.Dispatch}
    (before : Resent desk second sent)
    (after : Resent second last later) :
    Resent desk last (sent ++ later) := by
  induction before with
  | done => exact after
  | again coherent found vacant pending _ hypothesis =>
    exact .again coherent found vacant pending (hypothesis after)

end Resent

/-- A position that waits has an order at work once it was looked after. -/
theorem exists_resendOne
    {desk : Desk}
    (coherent : desk.Coherent)
    {position : Position}
    (found : desk.book.get? position.symbol = some position)
    (outbox : List Venue.Dispatch) :
    ∃ last sent, Resent desk last sent ∧
      (position.state.hasPendingOrder = true →
        (last.working.find? position.symbol).isSome = true) ∧
      resendOne position ⟨desk, outbox, none⟩ =
        (⟨last, outbox ++ sent, none⟩, .ok ()) := by
  unfold resendOne
  cases working : desk.working.find? position.symbol with
  | some order =>
    refine ⟨desk, [], .done coherent, fun _ => by rw [working]; rfl, ?_⟩
    rw [List.append_nil]
    simp [OrderedMap.contains, working]
  | none =>
    have absent : desk.working.contains position.symbol = false := by
      simp [OrderedMap.contains, working]
    simp only [absent, Bool.false_eq_true, if_false]
    cases pending : pendingOrder? position with
    | none =>
      refine ⟨desk, [], .done coherent, fun waits => ?_, ?_⟩
      · have cell := coherent.cell position.symbol
        rw [found, working] at cell
        generalize desk.reservations.ticketOf position.symbol = ticket at cell
        cases cell with
        | resting shaped state =>
          cases stands : position.state <;>
            simp_all [pendingOrder?, Position.State.hasPendingOrder]
      · rw [List.append_nil]
    | some asked =>
      rcases asked with ⟨kind, order⟩
      have launched :=
        Resent.again coherent found working pending
          (.done (coherent.relaunched found working pending))
      refine ⟨_, _, launched, fun _ => ?_, rfl⟩
      rw [find?_working_launched, if_pos rfl]
      rfl

/-- All positions that wait have an order at work in the end. -/
theorem exists_resendAll
    {positions : List Position}
    {desk : Desk}
    (coherent : desk.Coherent)
    (filed : ∀ position ∈ positions,
      desk.book.get? position.symbol = some position)
    (outbox : List Venue.Dispatch) :
    ∃ last sent, Resent desk last sent ∧
      (∀ position ∈ positions, position.state.hasPendingOrder = true →
        (last.working.find? position.symbol).isSome = true) ∧
      resendAll positions ⟨desk, outbox, none⟩ =
        (⟨last, outbox ++ sent, none⟩, .ok ()) := by
  induction positions generalizing desk outbox with
  | nil =>
    refine ⟨desk, [], .done coherent, fun _ member => by simp at member, ?_⟩
    rw [List.append_nil]
    rfl
  | cons position rest hypothesis =>
    rcases
        exists_resendOne coherent (filed position (List.mem_cons_self ..))
          outbox with
      ⟨next, sent, resent, served, ran⟩
    have others (other : Position) (member : other ∈ rest) :
        next.book.get? other.symbol = some other := by
      rw [resent.book]
      exact filed other (List.mem_cons_of_mem _ member)
    rcases hypothesis resent.coherent others (outbox ++ sent) with
      ⟨last, later, following, serving, running⟩
    refine ⟨last, sent ++ later, resent.trans following, ?_, ?_⟩
    · intro other member waits
      rcases List.mem_cons.mp member with same | listed
      · rw [same] at waits ⊢
        rcases Option.isSome_iff_exists.mp (served waits) with ⟨order, working⟩
        rw [following.working working]
        rfl
      · exact serving other listed waits
    · unfold resendAll
      simp only [ran, running, List.append_assoc]

/-! ## The gate as a whole -/

/-- Each symbol is decided on once. -/
theorem Agenda.nodup_symbols (agenda : Agenda) : agenda.symbols.Nodup :=
  OrderedMap.keys_nodup _

/--
The gate decides on its agenda and hands over again what positions wait for.
No fault stops it.
-/
theorem exists_gate
    (round : Round)
    {actions : OrderedMap Symbol Action}
    {desk : Desk}
    (coherent : desk.Coherent)
    (asked : ∀ symbol,
      Asked desk symbol ((agenda round desk.book actions).actionOf symbol))
    (outbox : List Venue.Dispatch) :
    ∃ decided decisions sent last resent,
      Decided round (agenda round desk.book actions)
        (agenda round desk.book actions).symbols desk decided decisions
        sent ∧
      Resent decided last resent ∧
      (∀ {symbol position}, last.book.get? symbol = some position →
        position.state.hasPendingOrder = true →
        (last.working.find? symbol).isSome = true) ∧
      gate round actions ⟨desk, outbox, none⟩ =
        (⟨{ last with reading := some (takeReading round last.book) },
            outbox ++ (sent ++ resent), none⟩,
          .ok decisions) := by
  rcases
      exists_decided round (agenda round desk.book actions)
        (Agenda.nodup_symbols _) coherent (fun symbol _ => asked symbol) outbox
      with
    ⟨decided, decisions, sent, run, ran⟩
  have settled := run.coherent coherent
  have filed (position : Position)
      (member : position ∈ decided.book.positions.values) :
      decided.book.get? position.symbol = some position := by
    rcases (OrderedMap.mem_values_iff _ position).mp member with ⟨symbol, found⟩
    rw [settled.keyed found]
    exact found
  rcases exists_resendAll settled filed (outbox ++ sent) with
    ⟨last, resent, resending, served, running⟩
  refine ⟨decided, decisions, sent, last, resent, run, resending, ?_, ?_⟩
  · intro symbol position found waits
    rw [resending.book] at found
    have listed : position ∈ decided.book.positions.values :=
      (OrderedMap.mem_values_iff _ position).mpr ⟨symbol, found⟩
    have working := served position listed waits
    rw [settled.keyed found] at working
    exact working
  · unfold gate
    simp only [ran, running, List.append_assoc, Turn.on]

end MandateDesk.Desk
