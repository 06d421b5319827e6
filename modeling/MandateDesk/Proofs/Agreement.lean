import MandateDesk.Proofs.Tracking

/-!
# The book and the venue agree

A cycle hands orders over and brings them to the venue.  An order that the venue
refuses is an order that it rejects at once, so that a cycle is made of the few
things that keep the book and the venue together.  So is every run of a session
that recovered: wherever no order works, its book says what the venue holds, if
only the venue is prudent.

That an orderly venue is not enough is shown by a run in which an entry is
misfilled and then withdrawn.
-/

namespace MandateDesk.Trading

open Desk (Issues WorkingOrder)

section Tracked

variable {trading : Trading}

/-! ## Cycles and other commands -/

theorem holdings_execute
    (venue : PaperVenue)
    (dispatch : Venue.Dispatch) :
    (venue.execute dispatch).1.holdings = venue.holdings := by
  unfold PaperVenue.execute
  split <;> rfl

theorem Tracked.delivering
    {delivery : Session.Delivery}
    {dispatch : Venue.Dispatch}
    {rest : List Venue.Dispatch}
    (tracked :
      Tracked
        { trading with
          session := delivery.session
          unanswered :=
            trading.unanswered ++ (delivery.sent ++ dispatch :: rest)
          pending := trading.pending ++ delivery.refused }) :
    Tracked
      { trading with
        session := (delivery.next dispatch).session
        unanswered :=
          trading.unanswered ++ ((delivery.next dispatch).sent ++ rest)
        pending := trading.pending ++ (delivery.next dispatch).refused } := by
  have fewer :
      (trading.unanswered ++ (delivery.sent ++ rest)).Sublist
        (trading.unanswered ++ (delivery.sent ++ dispatch :: rest)) :=
    (List.Sublist.refl _).append
      ((List.Sublist.refl _).append (List.sublist_cons_self ..))
  have listed :
      dispatch ∈
        trading.unanswered ++ (delivery.sent ++ dispatch :: rest) := by
    simp
  have gone :
      dispatch ∉ trading.unanswered ++ (delivery.sent ++ rest) := by
    rcases tracked.filed with ⟨handed, filed⟩
    have distinct :
        (trading.unanswered ++ (delivery.sent ++ dispatch :: rest)).Nodup :=
      filed.nodup
    rw [← List.append_assoc] at distinct ⊢
    exact (List.nodup_middle.mp distinct).notMem
  have beside {venue : PaperVenue}
      (holdings : venue.holdings = delivery.session.venue.holdings) :
      Tracked
        { trading with
          session := delivery.session.withVenue venue
          unanswered :=
            trading.unanswered ++ (delivery.sent ++ dispatch :: rest)
          pending := trading.pending ++ delivery.refused } :=
    tracked.keeping (tracked.sound.beside rfl rfl rfl rfl)
      ⟨rfl, rfl, rfl, holdings, id⟩
  have holdings := holdings_execute delivery.session.venue dispatch
  have sound := tracked.sound.delivering dispatch
  unfold Session.Delivery.next at sound ⊢
  simp only at sound ⊢
  generalize delivery.session.venue.execute dispatch = result
    at holdings sound ⊢
  rcases result with ⟨venue, fault | _⟩
  · simp only at sound ⊢
    split
    · -- a cancel that is refused leaves its entry as it was
      rename_i target asked
      simp only [asked] at sound
      have issued :=
        (beside holdings).issuing sound
          (Desk.issues_keepEntry delivery.session.desk dispatch.symbol
            target) rfl id
      rw [List.append_nil] at issued
      exact issued.dropping fewer
    · have rejected :=
        (beside holdings).rejecting listed fewer gone (fault.message .plain)
      rw [List.append_assoc] at rejected
      exact rejected
  · have taken := beside holdings
    rw [List.append_cons] at taken
    exact taken

theorem Tracked.deliver
    {session : Session}
    {outbox : List Venue.Dispatch}
    (tracked :
      Tracked
        { trading with
          session
          unanswered := trading.unanswered ++ outbox })
    (now : Instant) :
    Tracked
      { trading with
        session := (session.deliver outbox now).1
        unanswered :=
          trading.unanswered ++ (session.deliver outbox now).2 } := by
  have carried (rest : List Venue.Dispatch) (delivery : Session.Delivery)
      (known :
        Tracked
          { trading with
            session := delivery.session
            unanswered := trading.unanswered ++ (delivery.sent ++ rest)
            pending := trading.pending ++ delivery.refused }) :
      Tracked
        { trading with
          session := (rest.foldl Session.Delivery.next delivery).session
          unanswered :=
            trading.unanswered ++
              (rest.foldl Session.Delivery.next delivery).sent
          pending :=
            trading.pending ++
              (rest.foldl Session.Delivery.next delivery).refused } := by
    induction rest generalizing delivery with
    | nil =>
      rw [List.append_nil] at known
      exact known
    | cons dispatch rest hypothesis =>
      exact hypothesis (delivery.next dispatch) known.delivering
  have settled (refused : List Venue.Report) (other : Session)
      (sent : List Venue.Dispatch)
      (known :
        Tracked
          { trading with
            session := other
            unanswered := trading.unanswered ++ sent
            pending := trading.pending ++ refused }) :
      Tracked
        { trading with
          session :=
            refused.foldl (fun known report => (known.settle report now).1)
              other
          unanswered := trading.unanswered ++ sent } := by
    induction refused generalizing other with
    | nil =>
      rw [List.append_nil] at known
      exact known
    | cons report rest hypothesis =>
      refine hypothesis (other.settle report now).1 ?_
      refine known.hearing (by simp) ?_ ?_ now
      · exact List.append_subset.mpr
          ⟨List.subset_append_left _ _,
            fun _ member => List.mem_append_right _
              (List.mem_cons_of_mem _ member)⟩
      · intro listed member
        rcases List.mem_append.mp member with earlier | later
        · exact Or.inr (List.mem_append_left _ earlier)
        · rcases List.mem_cons.mp later with same | further
          · exact Or.inl same
          · exact Or.inr (List.mem_append_right _ further)
  refine settled _ _ _ (carried outbox ⟨session, [], []⟩ ?_)
  show Tracked
    { trading with
      session
      unanswered := trading.unanswered ++ ([] ++ outbox)
      pending := trading.pending ++ [] }
  rw [List.nil_append, List.append_nil]
  exact tracked

theorem Tracked.runCycle
    (tracked : Tracked trading)
    (now : Instant) :
    Tracked
      { trading with
        session := (trading.session.runCycle now).session
        unanswered :=
          trading.unanswered ++ (trading.session.runCycle now).sent } := by
  have sound := tracked.sound
  cases running : trading.session.phase.isRunning with
  | false =>
    unfold Session.runCycle
    simp only [running, Bool.false_eq_true, if_false, List.append_nil]
    exact tracked
  | true =>
    have issues :=
      sound.reached.coherent.issues_runCycle trading.session.parameters
        trading.session.limits trading.session.feed now
    rcases sound.exists_decided running now with
      ⟨turn, decided, halt, result, ran, ready, desk, venue, same⟩
    have handed : Issues trading.session.desk decided.desk turn.outbox := by
      rw [ran] at issues
      rw [desk]
      have kept := issues.trans
        (Desk.issues_of_same rfl rfl rfl :
          Issues turn.desk { turn.desk with halt } [])
      rw [List.append_nil] at kept
      exact kept
    rw [same]
    exact (tracked.issuing ready handed (by rw [venue])
      (fun _ => running)).deliver now

theorem Tracked.commanding
    (tracked : Tracked trading)
    (now : Instant)
    {command : Session.Command}
    (own : command.isOwn = true) :
    Tracked (trading.commanding now command) := by
  by_cases cycle : command = .cycle
  · rw [cycle]
    exact tracked.runCycle now
  · have quiet : command.isQuiet = true := by
      cases command <;> first | rfl | contradiction
    have spared : command ≠ .breakVenue := by
      rintro rfl
      contradiction
    rcases Session.keeps_step trading.session now quiet with ⟨keeps, none⟩
    unfold Trading.commanding
    simp only [none, List.append_nil]
    exact tracked.keeping (tracked.sound.step now command spared) keeps

/-- Whatever happens at a prudent venue keeps both sides together. -/
theorem Tracked.step
    {next : Trading}
    (tracked : Tracked trading)
    (step : Step Prudent trading next) :
    Tracked next := by
  cases step with
  | @command now command own => exact tracked.commanding now own
  | answer heard received permitted =>
    exact tracked.answering heard received permitted
  | @hear now report rest pending =>
    refine tracked.hearing (by simp [pending]) ?_ ?_ now
    · rw [pending]
      exact List.subset_cons_self _ _
    · intro other listed
      rw [pending] at listed
      exact List.mem_cons.mp listed

end Tracked

/-- A session that recovered says what its venue holds. -/
theorem tracked_beginning
    {parameters : Desk.Parameters}
    {limits : Risk.Limits}
    {genesis : Snapshot}
    {venue : PaperVenue}
    {store : Store}
    {now : Instant}
    {session : Session}
    {summary : Reconciliation.Summary}
    (keyed : venue.IsKeyed)
    (started :
      Session.start parameters limits genesis venue store now =
        .ok (session, summary)) :
    Tracked (beginning session) := by
  have sound := Session.isSound_start started
  unfold Session.start at started
  split at started
  · contradiction
  · rename_i saved book recovered ran
    cases started
    refine ⟨sound, ⟨[], filed_beginning rfl rfl⟩, ?_⟩
    constructor
    · intro symbol _
      exact Reconciliation.stake?_of_run ran keyed symbol
    · intro _ symbol order working
      have known :
          (OrderedMap.empty : OrderedMap Symbol WorkingOrder).find? symbol =
            some order := working
      simp at known
    · intro _ report listed
      simp [beginning] at listed

theorem Reached.tracked
    {trading : Trading}
    (reached : Reached Prudent trading) :
    Tracked trading := by
  induction reached with
  | start keyed started => exact tracked_beginning keyed started
  | step _ step tracked => exact tracked.step step

/-- Where nothing works, a position is flat or it is held. -/
theorem isSome_stake?_iff
    {desk : Desk}
    (coherent : desk.Coherent)
    {symbol : Symbol}
    (idle : desk.working.find? symbol = none) :
    (desk.book.stake? symbol).isSome = true ↔
      desk.book.stateOf symbol ≠ .flat := by
  have cell := coherent.cell symbol
  rw [idle] at cell
  unfold Book.stateOf
  cases found : desk.book.get? symbol with
  | none => simp [Book.stake?_of_none found]
  | some position =>
    rw [found] at cell
    rw [Book.stake?_of_get? found]
    generalize desk.reservations.ticketOf symbol = ticket at cell
    cases cell with
    | resting shaped waits =>
      cases state : position.state with
      | entering => contradiction
      | flat =>
        simp [Position.stake?_eq_none, state, Position.State.hasExposure]
      | opened | reducing | closing =>
        simp [Position.stake?_of_exposed, state, Position.State.hasExposure]

/--
At a prudent venue a session that recovered says what the venue holds, wherever
no order works: the venue holds something exactly if the position is not flat,
and then both tell the same direction and the same quantity.
-/
theorem book_agrees_with_venue
    {trading : Trading}
    (reached : Reached Prudent trading)
    {symbol : Symbol}
    (idle : trading.session.desk.working.find? symbol = none) :
    ((∃ held, trading.session.venue.holding? symbol = some held ∧
        held.quantity.isZero = false) ↔
      trading.session.desk.book.stateOf symbol ≠ .flat) ∧
    ∀ held position,
      trading.session.venue.holding? symbol = some held →
      held.quantity.isZero = false →
      trading.session.desk.book.get? symbol = some position →
        position.direction = some held.direction ∧
        Decimal.SameValue position.quantity held.quantity := by
  have tracked := reached.tracked
  have agrees := tracked.matched.idle idle
  unfold Agrees at agrees
  constructor
  · rw [← isSome_stake?_iff tracked.sound.reached.coherent idle, ← agrees]
    constructor
    · rintro ⟨held, found, present⟩
      rw [PaperVenue.stake?_of_holding? found present]
      rfl
    · intro staked
      rcases Option.isSome_iff_exists.mp staked with ⟨stake, same⟩
      rcases PaperVenue.stake?_eq_some same with ⟨held, found, present, _⟩
      exact ⟨held, found, present⟩
  · intro held position found present filed
    rw [PaperVenue.stake?_of_holding? found present,
      Book.stake?_of_get? filed] at agrees
    cases exposed : position.state.hasExposure with
    | false =>
      rw [Position.stake?_eq_none exposed] at agrees
      contradiction
    | true =>
      rw [Position.stake?_of_exposed exposed] at agrees
      have same := Option.some.inj agrees
      exact ⟨(congrArg Stake.direction same).symm,
        (Decimal.sameValue_iff_value _ _).mpr
          (congrArg Stake.value same).symm⟩

/-! ## Two runs -/

/-- The venue answers the order that waits longest. -/
def answerNext (trading : Trading) (answer : Venue.Answer) : Trading :=
  match trading.unanswered with
  | [] => trading
  | dispatch :: _ => trading.answering dispatch answer

/-- The session takes the report that waits longest. -/
def hearNext (trading : Trading) (now : Instant) : Trading :=
  match trading.pending with
  | [] => trading
  | report :: rest => trading.hearing now report rest

theorem Reached.answerNext
    {rule : Trading → Venue.Dispatch → Venue.Answer → Prop}
    {trading : Trading}
    (reached : Reached rule trading)
    (heard : trading.pending = [])
    {answer : Venue.Answer}
    (permitted : ∀ dispatch ∈ trading.unanswered,
      rule trading dispatch answer) :
    Reached rule (trading.answerNext answer) := by
  unfold Trading.answerNext
  split
  · exact reached
  · rename_i dispatch rest waiting
    have received : dispatch ∈ trading.unanswered := by simp [waiting]
    exact .step reached (.answer heard received (permitted _ received))

theorem Reached.hearNext
    {rule : Trading → Venue.Dispatch → Venue.Answer → Prop}
    {trading : Trading}
    (reached : Reached rule trading)
    (now : Instant) :
    Reached rule (trading.hearNext now) := by
  unfold Trading.hearNext
  split
  · exact reached
  · rename_i report rest pending
    exact .step reached (.hear pending)

namespace Sample

open Desk.Sample

/-- The run once the order to enter was sent. -/
def entering : Trading :=
  ((beginning Desk.Sample.beginning).commanding (moment 1)
    (.submit entry)).commanding (moment 1) .cycle

/-- The run once the entry was filled. -/
def entered : Trading :=
  (entering.answerNext (.fill hundred)).hearNext (moment 1)

theorem reached_entering
    (rule : Trading → Venue.Dispatch → Venue.Answer → Prop) :
    Reached rule entering := by
  have started :
      Session.start .standard .standard snapshot (PaperVenue.holding [])
          (Store.working default) (moment 1) =
        .ok (Desk.Sample.beginning, ⟨0, []⟩) := rfl
  exact .step
    (.step (.start (PaperVenue.isKeyed_holding []) started) (.command rfl))
    (.command rfl)

theorem reached_entered : Reached Prudent entered := by
  refine ((reached_entering Prudent).answerNext rfl ?_).hearNext (moment 1)
  exact fun _ _ => ⟨fun _ _ => List.not_mem_nil, fun _ _ => List.not_mem_nil⟩

/-- Once the entry was filled, both sides hold the same. -/
theorem book_agrees_with_venue_entered :
    entered.session.desk.working.find? symbol = none ∧
      ∃ held position,
        entered.session.venue.holding? symbol = some held ∧
        entered.session.desk.book.get? symbol = some position ∧
        position.direction = some held.direction ∧
        Decimal.SameValue position.quantity held.quantity := by
  have idle : entered.session.desk.working.find? symbol = none :=
    Option.isNone_iff_eq_none.mp (by decide +kernel)
  have opened : entered.session.desk.book.stateOf symbol ≠ .flat := by
    decide +kernel
  rcases book_agrees_with_venue reached_entered idle with ⟨both, same⟩
  rcases both.mpr opened with ⟨held, found, present⟩
  rcases Desk.exists_position_of_state _ symbol opened with
    ⟨position, filed, _⟩
  exact ⟨idle, held, position, found, filed,
    same held position found present filed⟩

/-- The quantity two. -/
def two : Decimal :=
  ⟨false, 2, 0, by decide, Decimal.scale_zero_le⟩

/-- The run once the entry was filled with more than it asked for. -/
def misfilled : Trading :=
  (entering.answerNext (.fillPartially two hundred)).hearNext (moment 1)

/-- The run once the cancel of the entry was sent. -/
def cancelling : Trading :=
  (misfilled.commanding (moment 1) (.submit exit)).commanding (moment 2)
    .cycle

/-- The run once the cancel was filled. -/
def withdrawn : Trading :=
  (cancelling.answerNext (.fill hundred)).hearNext (moment 2)

theorem reached_withdrawn : Reached Orderly withdrawn := by
  have filled : Reached Orderly misfilled :=
    ((reached_entering Orderly).answerNext rfl
      fun _ _ _ _ => List.not_mem_nil).hearNext (moment 1)
  have sent : Reached Orderly cancelling :=
    .step (.step filled (.command rfl)) (.command rfl)
  have aims : ∀ dispatch ∈ cancelling.unanswered,
      dispatch.order.isEntry = false := by
    decide +kernel
  refine (sent.answerNext (List.isEmpty_iff.mp (by decide +kernel))
    ?_).hearNext (moment 2)
  intro dispatch received entry
  rw [aims dispatch received] at entry
  contradiction

/--
A venue that is merely orderly may withdraw an entry that it has misfilled. It
goes on holding what the book has never heard of.
-/
theorem misfill_survives_withdrawal :
    Reached Orderly withdrawn ∧
      withdrawn.session.desk.working.find? symbol = none ∧
      withdrawn.session.desk.book.stateOf symbol = .flat ∧
      ∃ held, withdrawn.session.venue.holding? symbol = some held ∧
        held.quantity = two := by
  have held :
      (withdrawn.session.venue.holding? symbol).map Venue.Holding.quantity =
        some two := by
    decide +kernel
  exact ⟨reached_withdrawn,
    Option.isNone_iff_eq_none.mp (by decide +kernel), by decide +kernel,
    Option.map_eq_some_iff.mp held⟩

end Sample

end MandateDesk.Trading
