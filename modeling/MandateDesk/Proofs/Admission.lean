import MandateDesk.Proofs.Ruling

/-!
# Every decision is a ruling

An action that goes through the gate was asked for by an active mandate that is
admitted in the state of the position, or by nobody.  Whatever the gate's
judgement of such an action, carrying it out on a coherent desk succeeds and is
one of the rulings: the mandate can be spent, the position takes the event, the
slot of an entry is free, and the order finds room.
-/

namespace MandateDesk.Desk

open Reservation (Receipt Token)

/-! ## What a decision may be asked for -/

/-- An action that the active mandates of a symbol can come to. -/
inductive Asked (desk : Desk) (symbol : Symbol) : Action → Prop where
  /-- No mandate won. -/
  | nothing : Asked desk symbol (Action.noAction symbol)
  /-- A mandate won that is admitted in the state of the position. -/
  | wish {action mandate}
      (backs : Backs desk action mandate)
      (about : mandate.symbol = symbol)
      (admitted :
        (desk.book.stateOf symbol).admits mandate.kind = true) :
      Asked desk symbol action

theorem Asked.symbol_eq
    {desk : Desk}
    {symbol : Symbol}
    {action : Action}
    (asked : Asked desk symbol action) :
    action.symbol = symbol := by
  cases asked with
  | nothing => rfl
  | wish backs about =>
    rw [backs.action_eq, Action.symbol_ofMandate]
    exact about

/--
Behind an action of a kind that mandates ask for is a mandate of that kind, and
the state of the position admits it.
-/
theorem Asked.exists_admitted
    {desk : Desk}
    {symbol : Symbol}
    {action : Action}
    (asked : Asked desk symbol action)
    (wished : Mandate.Kind)
    (kind : Action.kindFor? wished = some action.kind) :
    ∃ mandate, Backs desk action mandate ∧ mandate.kind = wished ∧
      (desk.book.stateOf action.symbol).admits wished = true := by
  rw [asked.symbol_eq]
  cases asked with
  | nothing => exact absurd kind (Action.kindFor?_ne_noAction wished)
  | wish backs about admitted =>
    have same := Action.kindFor?_inj backs.kindFor?_eq kind
    rw [same] at admitted
    exact ⟨_, backs, same, admitted⟩

/-- An entry is asked for only where the position is flat. -/
theorem Asked.flat_of_entry
    {desk : Desk}
    {symbol : Symbol}
    {action : Action}
    (asked : Asked desk symbol action)
    (kind : action.kind = .entry) :
    ∃ mandate, Backs desk action mandate ∧
      desk.book.stateOf action.symbol = .flat := by
  rcases asked.exists_admitted .entry (by rw [kind]; rfl) with
    ⟨mandate, backs, _, admitted⟩
  exact ⟨mandate, backs, (Position.State.admits_entry_iff _).mp admitted⟩

/-- A reduction is asked for only where the position is open. -/
theorem Asked.opened_of_reduce
    {desk : Desk}
    {symbol : Symbol}
    {action : Action}
    (asked : Asked desk symbol action)
    (kind : action.kind = .reduce) :
    ∃ mandate, Backs desk action mandate ∧ mandate.kind = .reduce ∧
      desk.book.stateOf action.symbol = .opened := by
  rcases asked.exists_admitted .reduce (by rw [kind]; rfl) with
    ⟨mandate, backs, reduces, admitted⟩
  exact ⟨mandate, backs, reduces,
    (Position.State.admits_reduce_iff _).mp admitted⟩

/-- An exit is asked for only where there is something to leave. -/
theorem Asked.state_of_exit
    {desk : Desk}
    {symbol : Symbol}
    {action : Action}
    (asked : Asked desk symbol action)
    (kind : action.kind = .exit) :
    ∃ mandate, Backs desk action mandate ∧
      (desk.book.stateOf action.symbol = .entering ∨
        desk.book.stateOf action.symbol = .opened) := by
  rcases asked.exists_admitted .exit (by rw [kind]; rfl) with
    ⟨mandate, backs, _, admitted⟩
  exact ⟨mandate, backs, (Position.State.admits_exit_iff _).mp admitted⟩

/-- What a judgement says about an action. -/
inductive Judged (round : Round) (book : Book) (action : Action) :
    Risk.Verdict → Prop where
  | overridden {symbol distance}
      (kind : action.kind ≠ .exit) :
      Judged round book action (.forceExit symbol distance)
  | passed
      (kind : action.kind ≠ .entry) :
      Judged round book action .accept
  | checked
      (kind : action.kind = .entry)
      (checked : Risk.checkEntry round.view book.positions action = .ok ()) :
      Judged round book action .accept
  | refused {rejection}
      (kind : action.kind = .entry)
      (checked :
        Risk.checkEntry round.view book.positions action =
          .error rejection) :
      Judged round book action (.reject rejection)

theorem judged_judge
    (round : Round)
    (agenda : Agenda)
    (book : Book)
    (symbol : Symbol) :
    Judged round book (agenda.actionOf symbol)
      (judge round agenda book symbol) := by
  unfold judge
  split
  · rename_i distance overridden
    refine .overridden fun exit => ?_
    simp [Agenda.override?, exit] at overridden
  · unfold Risk.judge
    split
    · rename_i distance overridden
      refine .overridden fun exit => ?_
      simp [Risk.override?, exit] at overridden
    · unfold Risk.judgeAlone
      split
      · rename_i kind
        split
        · rename_i checked
          exact .checked kind checked
        · rename_i rejection checked
          exact .refused kind checked
      · rename_i kind
        exact .passed kind

/-! ## Every decision is a ruling -/

theorem reserve_of_free
    {desk : Desk}
    {symbol : Symbol}
    (vacant : desk.reservations.ticketOf symbol = Reservations.free)
    (holder : String)
    (now : Instant) :
    desk.reserve symbol holder now =
      ({ desk with
          reservations := (desk.reservations.reserve symbol holder now).1 },
        .ok (desk.reservations.nextToken symbol holder now)) := by
  have taken := Reservations.reserve_of_free vacant holder now
  unfold reserve
  simp only [taken]

/-- The state of a position that is not flat is known from the book. -/
theorem exists_position_of_state
    (desk : Desk)
    (symbol : Symbol)
    (state : desk.book.stateOf symbol ≠ .flat) :
    ∃ position, desk.book.get? symbol = some position ∧
      position.state = desk.book.stateOf symbol := by
  unfold Book.stateOf at state ⊢
  cases found : desk.book.get? symbol with
  | none => simp [found] at state
  | some position => exact ⟨position, rfl, rfl⟩

/-- Closing an open position hands over a close of all that is held. -/
theorem close_of_opened
    (round : Round)
    {desk : Desk}
    {action : Action}
    {position : Position}
    {registry : Registry}
    (found : desk.book.get? action.symbol = some position)
    (shaped : position.WellFormed)
    (state : position.state = .opened)
    (spent : Spent desk action registry)
    (outbox : List Venue.Dispatch) :
    ∃ store tally,
      close round action ⟨desk, outbox, none⟩ =
        (⟨launched
            { desk with
              book :=
                desk.book.moved action.symbol (position.startClose round.now)
              registry, store, tally }
            action.symbol (.close position.quantity) none,
          outbox ++ [desk.issue action (.close position.quantity) none],
          none⟩,
        .ok desk.nextDispatch) := by
  have applied :=
    Position.apply_exitAdmitted shaped state round.now
  rw [← Book.positionOf_of_get? found round.now] at applied
  rcases spend_of_ok spent applied with ⟨store, tally, spending⟩
  rw [Book.positionOf_of_get? found round.now] at spending
  refine ⟨store, tally, ?_⟩
  have held :
      heldQuantity
        { desk with
          book :=
            desk.book.moved action.symbol (position.startClose round.now)
          registry, store, tally } action.symbol =
        position.quantity := by
    unfold heldQuantity
    simp only [Book.get?_moved, if_true]
    rfl
  unfold close carryOut
  simp only [spending, Turn.on, held, dispatch_of_live]
  rfl

/-- What comes of an action: a ruling, with its order handed over. -/
def Rules
    (round : Round)
    (desk : Desk)
    (action : Action)
    (verdict : Risk.Verdict)
    (outbox : List Venue.Dispatch)
    (result : Turn × Except Fault Outcome) :
    Prop :=
  ∃ after outcome sent,
    Ruling round desk action verdict after outcome sent ∧
      result = (⟨after, outbox ++ sent, none⟩, .ok outcome)

section Rules

variable {round : Round} {desk : Desk} {action : Action}
variable {verdict : Risk.Verdict}

theorem rules_of_idle
    {outcome : Outcome}
    (reason : Idle desk action verdict outcome)
    (outbox : List Venue.Dispatch) :
    Rules round desk action verdict outbox
      (⟨desk, outbox, none⟩, .ok outcome) :=
  ⟨desk, outcome, [], .idle reason, by rw [List.append_nil]⟩

/-- An entry that works is asked to be cancelled, once. -/
theorem rules_requestCancel
    (leaving : Leaving action verdict)
    (state : desk.book.stateOf action.symbol = .entering)
    (outbox : List Venue.Dispatch)
    {outcome : DispatchId → Outcome}
    (named : outcome desk.nextDispatch = handedOver desk.nextDispatch verdict) :
    Rules round desk action verdict outbox
      (let (next, result) :=
        Turn.requestCancel ⟨desk, outbox, none⟩ (ruled action verdict)
       (next, Outcome.ofCancel outcome result)) := by
  have about := symbol_ruled action verdict
  cases working : desk.cancellable? action.symbol with
  | none =>
    rw [requestCancel_of_none (by rw [about]; exact working)]
    exact rules_of_idle (.awaited leaving state working) outbox
  | some order =>
    rw [requestCancel_of_some (by rw [about]; exact working), about]
    refine ⟨_, _, _, .cancelled leaving state working, ?_⟩
    simp only [Outcome.ofCancel, named]

/-- A position that is open is closed. -/
theorem rules_close
    {position : Position}
    {registry : Registry}
    (leaving : Leaving action verdict)
    (found : desk.book.get? action.symbol = some position)
    (shaped : position.WellFormed)
    (state : position.state = .opened)
    (spent : Spent desk (ruled action verdict) registry)
    (outbox : List Venue.Dispatch)
    {outcome : DispatchId → Outcome}
    (named : outcome desk.nextDispatch = handedOver desk.nextDispatch verdict) :
    Rules round desk action verdict outbox
      (let (next, result) :=
        close round (ruled action verdict) ⟨desk, outbox, none⟩
       (next, Outcome.ofDispatch outcome result)) := by
  have about := symbol_ruled action verdict
  rcases
      close_of_opened round (by rw [about]; exact found) shaped state
        spent outbox with
    ⟨store, tally, closed⟩
  simp only [closed, about, Outcome.ofDispatch, named]
  exact ⟨_, _, _, .exited leaving spent found state, rfl⟩

/-- An entry that passed its check starts, unless the latch holds it back. -/
theorem rules_admitEntry
    {mandate : Mandate}
    (coherent : desk.Coherent)
    (wish : Backs desk action mandate)
    (kind : action.kind = .entry)
    (state : desk.book.stateOf action.symbol = .flat)
    (checked : Risk.checkEntry round.view desk.book.positions action = .ok ())
    (outbox : List Venue.Dispatch) :
    Rules round desk action .accept outbox
      (admitEntry round action ⟨desk, outbox, none⟩) := by
  unfold admitEntry
  cases latched : desk.halt.isHalted with
  | true =>
    simp only [if_true]
    exact rules_of_idle (.halted kind latched) outbox
  | false =>
    rcases positive_of_checkEntry checked with ⟨positive, direction, directed⟩
    have vacant := coherent.vacant (by rw [state]; decide)
    have flat :
        (desk.book.positionOf action.symbol round.now).state = .flat := by
      rw [Book.state_positionOf]
      exact state
    rcases
        @spend_of_ok
          { desk with
            reservations :=
              (desk.reservations.reserve action.symbol round.holder
                round.now).1 }
          action _
          (.consumed ⟨wish.stored, wish.active, wish.action_eq, wish.kind⟩) _
          round.now _
          (Position.apply_entryAdmitted flat direction positive round.now) with
      ⟨store, tally, spending⟩
    simp only [Bool.false_eq_true, if_false, directed, reserve_of_free vacant,
      enterWith, Turn.on, spending, dispatch_of_live, Outcome.ofDispatch]
    exact ⟨_, _, _, .entered wish kind checked latched directed state, rfl⟩

/-- A reduction that a mandate asks for starts. -/
theorem rules_admitReduce
    {mandate : Mandate}
    (coherent : desk.Coherent)
    (wish : Backs desk action mandate)
    (wished : mandate.kind = .reduce)
    (kind : action.kind = .reduce)
    (state : desk.book.stateOf action.symbol = .opened)
    (outbox : List Venue.Dispatch) :
    Rules round desk action .accept outbox
      (admitReduce round action ⟨desk, outbox, none⟩) := by
  rcases
      exists_position_of_state desk action.symbol (by rw [state]; decide) with
    ⟨position, found, opened⟩
  rw [state] at opened
  have shaped := coherent.wellFormed found
  have shape := Position.openShape shaped opened
  have sized : Decimal.zero < action.quantity := by
    have sound := coherent.registry.sound wish.stored
    rw [wish.action_eq, quantity_ofMandate wish.kind, Decimal.zero_lt_iff]
    have complete := sound.kind
    simp only [Mandate.kindDefect?, wished, ite_eq_right_iff, reduceCtorEq,
      imp_false, Bool.not_eq_true] at complete
    exact ⟨sound.quantity_sign, by simpa [Decimal.isZero] using complete⟩
  have held : Decimal.zero < position.quantity := by
    rw [Decimal.zero_lt_iff]
    exact ⟨shape.unsigned, by simpa [Decimal.isZero] using shape.filled⟩
  have positive : Decimal.zero < min action.quantity position.quantity :=
    Decimal.lt_min sized held
  have applied :=
    Position.apply_reduceAdmitted shaped opened positive
      (Decimal.min_le_right action.quantity position.quantity) round.now
  rw [← Book.positionOf_of_get? found round.now] at applied
  rcases spend_of_ok (.consumed wish) applied with ⟨store, tally, spending⟩
  rw [Book.positionOf_of_get? found round.now] at spending
  unfold admitReduce
  simp only [found, Option.bind_some, openQuantity?, opened, carryOut,
    spending, Turn.on, dispatch_of_live, Outcome.ofDispatch]
  exact ⟨_, _, _, .reduced wish kind found opened positive, rfl⟩

/-- Carrying out a judgement is a ruling. -/
theorem rules_carryOutVerdict
    {symbol : Symbol}
    (coherent : desk.Coherent)
    (asked : Asked desk symbol action)
    (judged : Judged round desk.book action verdict)
    (outbox : List Venue.Dispatch) :
    Rules round desk action verdict outbox
      (carryOutVerdict round action ⟨desk, outbox, none⟩ verdict) := by
  cases judged with
  | overridden kind =>
    rename_i about distance
    unfold carryOutVerdict forceExit
    have same : (Action.forcedExit action.symbol).symbol = action.symbol := rfl
    simp only [same]
    cases state : desk.book.stateOf action.symbol with
    | flat => exact rules_of_idle (.flat state) outbox
    | entering =>
      exact rules_requestCancel (@Leaving.imposed action about distance) state
        outbox rfl
    | opened =>
      rcases
          exists_position_of_state desk action.symbol
            (by rw [state]; decide) with
        ⟨position, found, opened⟩
      rw [state] at opened
      exact rules_close .imposed found (coherent.wellFormed found) opened
        (.nobody rfl) outbox rfl
    | reducing => exact rules_of_idle (.busy (Or.inl state)) outbox
    | closing => exact rules_of_idle (.busy (Or.inr state)) outbox
  | passed kind =>
    unfold carryOutVerdict admitAction
    cases wished : action.kind with
    | entry => exact absurd wished kind
    | hold => exact rules_of_idle (.content (by rw [wished]; rfl)) outbox
    | noAction => exact rules_of_idle (.content (by rw [wished]; rfl)) outbox
    | reduce =>
      rcases asked.opened_of_reduce wished with ⟨mandate, wish, reduces, state⟩
      exact rules_admitReduce coherent wish reduces wished state outbox
    | exit =>
      rcases asked.state_of_exit wished with ⟨mandate, wish, states⟩
      simp only [admitExit]
      rcases states with state | state
      · simp only [state]
        exact rules_requestCancel (.wished wished) state outbox rfl
      · simp only [state]
        rcases
            exists_position_of_state desk action.symbol
              (by rw [state]; decide) with
          ⟨position, found, opened⟩
        rw [state] at opened
        exact rules_close (.wished wished) found (coherent.wellFormed found)
          opened (.consumed wish) outbox rfl
  | checked kind checked =>
    rcases asked.flat_of_entry kind with ⟨mandate, wish, state⟩
    unfold carryOutVerdict admitAction
    simp only [kind]
    exact rules_admitEntry coherent wish kind state checked outbox
  | refused kind checked =>
    rcases asked.flat_of_entry kind with ⟨mandate, wish, state⟩
    unfold carryOutVerdict
    simp only [Turn.on, refuse_of_backs wish]
    exact ⟨_, _, _, .refused wish kind checked, by rw [List.append_nil]⟩

end Rules

/-- The decision on a symbol that came to an outcome. -/
def decisionOn
    (round : Round)
    (agenda : Agenda)
    (desk : Desk)
    (symbol : Symbol)
    (outcome : Outcome) :
    Decision where
  cycle := round.cycle
  version := round.version
  symbol
  state := desk.book.stateOf symbol
  action :=
    ruled (agenda.actionOf symbol) (judge round agenda desk.book symbol)
  outcome
  decidedAt := round.now

/-- Every decision that was asked for is a ruling, and is recorded. -/
theorem exists_ruling
    (round : Round)
    {agenda : Agenda}
    {desk : Desk}
    {symbol : Symbol}
    (coherent : desk.Coherent)
    (asked : Asked desk symbol (agenda.actionOf symbol))
    (outbox : List Venue.Dispatch) :
    ∃ after outcome sent,
      Ruling round desk (agenda.actionOf symbol)
        (judge round agenda desk.book symbol) after outcome sent ∧
      decideSymbol round agenda symbol ⟨desk, outbox, none⟩ =
        (⟨after.record (decisionOn round agenda desk symbol outcome),
            outbox ++ sent, none⟩,
          .ok (decisionOn round agenda desk symbol outcome)) := by
  rcases
      rules_carryOutVerdict coherent asked
        (judged_judge round agenda desk.book symbol) outbox with
    ⟨after, outcome, sent, ruling, carried⟩
  refine ⟨after, outcome, sent, ruling, ?_⟩
  unfold decideSymbol
  simp only [carried]
  rfl

end MandateDesk.Desk
