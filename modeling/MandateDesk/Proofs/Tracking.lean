import MandateDesk.Proofs.Trading

/-!
# How the book follows the venue

Where nothing works, the book says what the venue holds.  Where an order works,
the venue may be ahead of the book: it has answered, and the session has not
taken the report.  Then the report is bound to bring both together again, or it
is turned down and the order is stuck.  An order that is stuck works for ever,
unless it is an entry that is withdrawn; and an entry is stuck only after a
misfill, after which a prudent venue does not withdraw it.

`Tracked` puts this into an invariant.  Each of the few things that can happen
keeps it: orders are handed over, the venue answers, a report is taken.
-/

namespace MandateDesk.Trading

open Desk (Issues Names Settled WorkingOrder)

/-! ## The invariant -/

/-- The venue and the book say the same about a symbol. -/
def Agrees (trading : Trading) (symbol : Symbol) : Prop :=
  trading.session.venue.stake? symbol =
    trading.session.desk.book.stake? symbol

/-- What follows once the report on an order is taken. -/
structure Foretells
    (trading : Trading)
    (report : Venue.Report)
    (order : WorkingOrder)
    (position : Position) :
    Prop where
  /-- A fill that the position takes brings both sides together. -/
  taken : ∀ {quantity price now next},
    report.outcome = .filled quantity price →
    position.apply (.filled quantity price) now = .ok next →
      trading.session.venue.stake? report.symbol = next.stake?
  /-- An entry turns only a misfill down. -/
  refused : ∀ {quantity price now fault},
    report.outcome = .filled quantity price →
    position.apply (.filled quantity price) now = .error fault →
    order.order.isEntry = true →
      order.dispatch ∈ trading.misfilled
  /-- What is not a fill finds both sides together. -/
  unfilled :
    (∀ quantity price, report.outcome ≠ .filled quantity price) →
      trading.Agrees report.symbol

/-- How an order that works stands. -/
inductive Stands
    (trading : Trading)
    (symbol : Symbol)
    (order : WorkingOrder) :
    Prop where
  /-- Both sides are together. -/
  | agreeing (agrees : trading.Agrees symbol)
  /-- A report on it is on its way. -/
  | reported {report}
      (pending : report ∈ trading.pending)
      (about : report.symbol = symbol)
      (named : report.dispatch = order.dispatch)
  /-- It was answered in vain; if it is an entry, it was misfilled. -/
  | stuck
      (answered : ∀ dispatch ∈ trading.unanswered,
        dispatch.id ≠ order.dispatch)
      (misfilled : order.order.isEntry = true →
        order.dispatch ∈ trading.misfilled)

/-- How the book and the venue belong together. -/
structure Matched (trading : Trading) : Prop where
  /-- Where nothing works, both sides are together. -/
  idle : ∀ {symbol},
    trading.session.desk.working.find? symbol = none →
      trading.Agrees symbol
  /-- While the session goes on, what works stands in one of three ways. -/
  stands : trading.session.phase.isRunning = true → ∀ {symbol order},
    trading.session.desk.working.find? symbol = some order →
      trading.Stands symbol order
  /-- While the session goes on, reports bring both sides together. -/
  foretold : trading.session.phase.isRunning = true →
    ∀ report ∈ trading.pending, ∀ {order position},
      trading.session.desk.Names report order position →
        trading.Foretells report order position

/-- All that is kept while a session trades. -/
structure Tracked (trading : Trading) : Prop where
  sound : trading.session.IsSound
  filed : ∃ handed, Filed trading handed
  matched : Matched trading

section Tracked

variable {trading : Trading}

/-! ## Orders are handed over -/

theorem Foretells.transfer
    {other : Trading}
    {report : Venue.Report}
    {order : WorkingOrder}
    {position : Position}
    (foretells : trading.Foretells report order position)
    (stake :
      other.session.venue.stake? report.symbol =
        trading.session.venue.stake? report.symbol)
    (book :
      other.session.desk.book.stake? report.symbol =
        trading.session.desk.book.stake? report.symbol)
    (misfilled : trading.misfilled ⊆ other.misfilled) :
    other.Foretells report order position where
  taken outcome applied := stake.trans (foretells.taken outcome applied)
  refused outcome refused entry :=
    misfilled (foretells.refused outcome refused entry)
  unfilled other :=
    stake.trans ((foretells.unfilled other).trans book.symm)

theorem Foretells.flagged
    {report : Venue.Report}
    {order : WorkingOrder}
    {position : Position}
    (foretells : trading.Foretells report order position)
    (isCancelled : Bool) :
    trading.Foretells report { order with isCancelled } position where
  taken := foretells.taken
  refused := foretells.refused
  unfilled := foretells.unfilled

/-- What stands goes on standing when less is expected of the venue. -/
theorem Stands.transfer
    {other : Trading}
    {symbol : Symbol}
    {order : WorkingOrder}
    (stands : trading.Stands symbol order)
    (agrees : trading.Agrees symbol → other.Agrees symbol)
    (pending : trading.pending ⊆ other.pending)
    (unanswered : other.unanswered ⊆ trading.unanswered)
    (misfilled : trading.misfilled ⊆ other.misfilled) :
    other.Stands symbol order := by
  cases stands with
  | agreeing together => exact .agreeing (agrees together)
  | reported listed about named => exact .reported (pending listed) about named
  | stuck answered misfill =>
    exact .stuck (fun known member => answered known (unanswered member))
      (fun entry => misfilled (misfill entry))

/-- What a session hands over keeps both sides together. -/
theorem Tracked.issuing
    (tracked : Tracked trading)
    {session : Session}
    (sound : session.IsSound)
    {outbox : List Venue.Dispatch}
    (issues : Issues trading.session.desk session.desk outbox)
    (holdings : session.venue.holdings = trading.session.venue.holdings)
    (running : session.phase.isRunning = true →
      trading.session.phase.isRunning = true) :
    Tracked
      { trading with
        session
        unanswered := trading.unanswered ++ outbox } := by
  rcases tracked.filed with ⟨handed, filed⟩
  have staked (symbol : Symbol) :
      session.venue.stake? symbol = trading.session.venue.stake? symbol :=
    PaperVenue.stake?_of_holdings (by rw [holdings])
  have booked (symbol : Symbol) :
      session.desk.book.stake? symbol =
        trading.session.desk.book.stake? symbol := by
    unfold Book.stake?
    rw [issues.exposure]
  have agrees {symbol : Symbol} (before : trading.Agrees symbol) :
      session.venue.stake? symbol = session.desk.book.stake? symbol :=
    (staked symbol).trans (before.trans (booked symbol).symm)
  refine ⟨sound, ⟨_, filed.issuing issues sound.reached.coherent⟩, ?_⟩
  constructor
  · intro symbol vacant
    refine agrees (tracked.matched.idle ?_)
    cases before : trading.session.desk.working.find? symbol with
    | none => rfl
    | some order =>
      rcases issues.kept before with ⟨_, isCancelled, stays⟩
      have gone : session.desk.working.find? symbol = none := vacant
      rw [stays] at gone
      contradiction
  · intro goes symbol order working
    cases before : trading.session.desk.working.find? symbol with
    | none => exact .agreeing (agrees (tracked.matched.idle before))
    | some known =>
      rcases issues.kept before with ⟨_, isCancelled, stays⟩
      have same : { known with isCancelled } = order :=
        Option.some.inj (stays.symm.trans working)
      subst same
      cases tracked.matched.stands (running goes) before with
      | agreeing together => exact .agreeing (agrees together)
      | reported pending about named => exact .reported pending about named
      | stuck answered misfilled =>
        refine .stuck ?_ misfilled
        intro dispatch listed
        -- what is handed over now has a name of its own
        rcases List.mem_append.mp listed with earlier | later
        · exact answered dispatch earlier
        · rcases filed.carried before with ⟨origin, member, _, carries⟩
          have new := filed.fresh issues later member
          rw [← carries.id] at new
          exact new
  · intro goes report pending order position names
    cases before : trading.session.desk.working.find? report.symbol with
    | none =>
      -- a report names what was handed over before, not what works only now
      rcases issues.origin names.working with
        ⟨known, _, worked, _⟩ | ⟨dispatch, member, _, carries⟩
      · rw [before] at worked
        contradiction
      · rcases filed.reported report pending with ⟨known, listed, named, _⟩
        refine absurd ?_ (filed.fresh issues member listed)
        rw [← carries.id, named]
        exact names.named
    | some known =>
      rcases issues.kept before with ⟨stays, isCancelled, works⟩
      have same : { known with isCancelled } = order :=
        Option.some.inj (works.symm.trans names.working)
      subst same
      have earlier :
          trading.session.desk.Names report known position :=
        ⟨before, names.named, stays.symm.trans names.found⟩
      have foretells :=
        tracked.matched.foretold (running goes) report pending earlier
      exact (foretells.flagged isCancelled).transfer (staked _) (booked _)
        (fun _ => id)

/-- A session that keeps all that matters keeps both sides together. -/
theorem Tracked.keeping
    (tracked : Tracked trading)
    {session : Session}
    (sound : session.IsSound)
    (keeps : Session.Keeps trading.session session) :
    Tracked { trading with session } := by
  have issues :=
    Desk.issues_of_same keeps.book keeps.working keeps.issued
  have kept :=
    tracked.issuing sound issues keeps.holdings keeps.running
  rw [List.append_nil] at kept
  exact kept

/-! ## The venue answers -/

/-- An order that both sides still agree on is known by its name. -/
theorem Tracked.agrees_of_unanswered
    (tracked : Tracked trading)
    (running : trading.session.phase.isRunning = true)
    {dispatch : Venue.Dispatch}
    (owed : dispatch ∈ trading.unanswered)
    {symbol : Symbol}
    {order : WorkingOrder}
    (working : trading.session.desk.working.find? symbol = some order)
    (named : order.dispatch = dispatch.id) :
    trading.Agrees symbol := by
  rcases tracked.filed with ⟨handed, filed⟩
  cases tracked.matched.stands running working with
  | agreeing agrees => exact agrees
  | stuck answered => exact absurd named.symm (answered dispatch owed)
  | @reported report pending about reported =>
    subst about
    rcases tracked.sound.reached.coherent.exists_position working with
      ⟨position, found⟩
    have foretells :=
      tracked.matched.foretold running report pending
        ⟨working, reported.symm, found⟩
    exact foretells.unfilled
      (filed.unfilled pending owed (named.symm.trans reported.symm))

theorem Tracked.rejecting
    (tracked : Tracked trading)
    {dispatch : Venue.Dispatch}
    (owed : dispatch ∈ trading.unanswered)
    {unanswered : List Venue.Dispatch}
    (fewer : unanswered.Sublist trading.unanswered)
    (gone : dispatch ∉ unanswered)
    (reason : String) :
    Tracked
      { trading with
        unanswered
        pending :=
          trading.pending ++ [PaperVenue.reject dispatch reason] } := by
  rcases tracked.filed with ⟨handed, filed⟩
  have dropped :=
    filed.dropping fewer (List.Subset.refl trading.pending)
  refine ⟨tracked.sound,
    ⟨handed, dropped.reporting (filed.mem_handed owed) gone rfl⟩, ?_⟩
  constructor
  · exact tracked.matched.idle
  · intro running symbol order working
    exact (tracked.matched.stands running working).transfer id
      (List.subset_append_left _ _) fewer.subset (fun _ => id)
  · intro running report pending order position names
    rcases List.mem_append.mp pending with earlier | here
    · exact (tracked.matched.foretold running report earlier names).transfer
        rfl rfl (fun _ => id)
    · have same := List.mem_singleton.mp here
      subst same
      refine ⟨?_, ?_, fun _ => ?_⟩
      · intro quantity price now next filled
        cases filled
      · intro quantity price now fault filled
        cases filled
      · exact tracked.agrees_of_unanswered running owed names.working
          names.named

theorem Tracked.dropping
    (tracked : Tracked trading)
    {unanswered : List Venue.Dispatch}
    (fewer : unanswered.Sublist trading.unanswered) :
    Tracked { trading with unanswered } := by
  rcases tracked.filed with ⟨handed, filed⟩
  refine ⟨tracked.sound,
    ⟨handed, filed.dropping fewer (List.Subset.refl _)⟩, ?_⟩
  constructor
  · exact tracked.matched.idle
  · intro running symbol order working
    exact (tracked.matched.stands running working).transfer id (fun _ => id)
      fewer.subset (fun _ => id)
  · intro running report pending order position names
    exact (tracked.matched.foretold running report pending names).transfer
      rfl rfl (fun _ => id)

theorem Tracked.withdrawing
    (tracked : Tracked trading)
    (heard : trading.pending = [])
    {dispatch : Venue.Dispatch}
    (owed : dispatch ∈ trading.unanswered)
    {target : DispatchId}
    (asked : dispatch.order = .cancelEntry target)
    (prudent : target ∉ trading.misfilled) :
    Tracked
      { trading with
        unanswered := trading.unanswered.erase dispatch
        withdrawn := trading.withdrawn ++ [target]
        pending :=
          trading.pending ++ [PaperVenue.cancellation dispatch target] } := by
  rcases tracked.filed with ⟨handed, filed⟩
  have listed := filed.mem_handed owed
  have fewer : (trading.unanswered.erase dispatch).Sublist trading.unanswered :=
    List.erase_sublist
  have dropped := filed.dropping fewer (List.Subset.refl trading.pending)
  refine ⟨tracked.sound, ⟨handed, dropped.withdrawing listed asked⟩, ?_⟩
  constructor
  · exact tracked.matched.idle
  · intro running symbol order working
    exact (tracked.matched.stands running working).transfer id
      (List.subset_append_left _ _) fewer.subset (fun _ => id)
  · intro running report pending order position names
    have same : report = PaperVenue.cancellation dispatch target := by
      simpa [heard] using pending
    subst same
    refine ⟨?_, ?_, fun _ => ?_⟩
    · intro quantity price now next filled
      cases filled
    · intro quantity price now fault filled
      cases filled
    · cases tracked.matched.stands running names.working with
      | agreeing agrees => exact agrees
      | reported pending => simp [heard] at pending
      | stuck answered misfilled =>
        -- an entry is stuck after a misfill only, and then it stays
        rcases filed.aimed listed asked with ⟨entry, member, named, _, kind⟩
        have own : order.dispatch = target := names.named
        have carried :=
          (filed.order_eq names.working member (own.trans named.symm)).2
        rw [own, carried] at misfilled
        exact absurd (misfilled kind) prudent

theorem Tracked.filling
    (tracked : Tracked trading)
    (heard : trading.pending = [])
    {dispatch : Venue.Dispatch}
    (owed : dispatch ∈ trading.unanswered)
    {answer : Venue.Answer}
    {quantity price : Decimal}
    (trades : answer.trade? dispatch.order = some (quantity, price))
    (orderly : trading.Orderly dispatch answer) :
    Tracked
      { trading with
        session :=
          trading.session.withVenue
            (trading.session.venue.fillPartially dispatch quantity price).1
        unanswered := trading.unanswered.erase dispatch
        misfilled :=
          if answer.misfills dispatch.order then
            trading.misfilled ++ [dispatch.id]
          else trading.misfilled
        pending :=
          trading.pending ++
            [PaperVenue.filling dispatch quantity price] } := by
  rcases tracked.filed with ⟨handed, filed⟩
  have listed := filed.mem_handed owed
  have fewer : (trading.unanswered.erase dispatch).Sublist trading.unanswered :=
    List.erase_sublist
  have gone : dispatch ∉ trading.unanswered.erase dispatch :=
    filed.nodup.not_mem_erase
  have valid : dispatch.order.admission?.isSome = true := by
    rw [← Venue.Order.isSome_quantity?]
    exact answer.isSome_quantity?_of_trade? trades
  -- the order works still, and nothing but this fill parts the two sides
  rcases
      filed.works dispatch owed valid
        (fun entry => orderly entry (by rw [trades]; rfl)) with
    ⟨order, working, named⟩
  have carried := (filed.order_eq working listed named).2
  have grows :
      trading.misfilled ⊆
        if answer.misfills dispatch.order then
          trading.misfilled ++ [dispatch.id]
        else trading.misfilled := by
    split
    · exact List.subset_append_left _ _
    · exact List.Subset.refl _
  have dropped := filed.dropping fewer (List.Subset.refl trading.pending)
  have told :
      (PaperVenue.filling dispatch quantity price).dispatch = dispatch.id :=
    rfl
  have elsewhere {symbol : Symbol} (apart : symbol ≠ dispatch.symbol) :
      (trading.session.venue.fillPartially dispatch quantity
          price).1.stake? symbol =
        trading.session.venue.stake? symbol :=
    PaperVenue.stake?_fillPartially_of_ne _ _ _ _ apart
  refine ⟨tracked.sound.beside rfl rfl rfl rfl,
    ⟨handed,
      (dropped.reporting listed gone told).beside
        (trading.session.venue.fillPartially dispatch quantity price).1 _⟩,
    ?_⟩
  constructor
  · intro symbol vacant
    have idle : trading.session.desk.working.find? symbol = none := vacant
    have apart : symbol ≠ dispatch.symbol := by
      rintro rfl
      rw [working] at idle
      contradiction
    exact (elsewhere apart).trans (tracked.matched.idle idle)
  · intro running symbol known works
    by_cases here : symbol = dispatch.symbol
    · subst here
      have same : known = order := Option.some.inj (works.symm.trans working)
      subst same
      exact .reported (List.mem_append_right _ (List.mem_singleton_self _))
        rfl named.symm
    · exact (tracked.matched.stands running works).transfer
        (elsewhere here).trans (List.subset_append_left _ _) fewer.subset
        grows
  · intro running report pending known position names
    have same : report = PaperVenue.filling dispatch quantity price := by
      simpa [heard] using pending
    subst same
    have own : known = order :=
      Option.some.inj (names.working.symm.trans working)
    subst own
    have cell := tracked.sound.reached.coherent.cell dispatch.symbol
    have found :
        trading.session.desk.book.get? dispatch.symbol = some position :=
      names.found
    rw [found, working] at cell
    have agrees :=
      tracked.agrees_of_unanswered running owed working named
    unfold Agrees at agrees
    rw [Book.stake?_of_get? found] at agrees
    refine ⟨?_, ?_, fun other => absurd rfl (other quantity price)⟩
    · rintro _ _ now next ⟨⟩ applied
      exact cell.stake?_of_filled carried agrees applied
    · rintro _ _ now fault ⟨⟩ refused entry
      rcases answer.misfills_of_isMisfill trades (carried ▸ entry) with
        ⟨direction, asked, enters, misfills⟩
      have misfill :=
        cell.isMisfill_of_refused (carried.trans enters) refused
      show _ ∈ if answer.misfills dispatch.order then _ else _
      rw [if_pos (misfills misfill), named]
      exact List.mem_append_right _ (List.mem_singleton_self _)

/-- An answer of a prudent venue keeps both sides together. -/
theorem Tracked.answering
    (tracked : Tracked trading)
    (heard : trading.pending = [])
    {dispatch : Venue.Dispatch}
    (owed : dispatch ∈ trading.unanswered)
    {answer : Venue.Answer}
    (prudent : trading.Prudent dispatch answer) :
    Tracked (trading.answering dispatch answer) := by
  rcases tracked.filed with ⟨handed, filed⟩
  have listed := trading.session.venue.answers dispatch answer
  unfold Trading.answering
  generalize trading.session.venue.answer dispatch answer = result at listed ⊢
  rcases result with ⟨venue, report⟩
  simp only
  cases listed with
  | rejected reason =>
    rw [Venue.Answer.withdrawn?_reject, Venue.Answer.misfills_reject,
      Option.toList_none, List.append_nil, if_neg Bool.false_ne_true]
    exact tracked.rejecting owed List.erase_sublist
      filed.nodup.not_mem_erase reason
  | withdrawn asked withdraws still =>
    rw [withdraws, answer.misfills_eq_false still, Option.toList_some,
      if_neg Bool.false_ne_true]
    exact tracked.withdrawing heard owed asked (prudent.2 _ withdraws)
  | traded trades keeps =>
    rw [keeps, Option.toList_none, List.append_nil]
    exact tracked.filling heard owed trades prudent.1

/-! ## A report is taken -/

/-- What is not a fill can only fail an entry. -/
theorem exists_failed
    {state : Position.State}
    {outcome : Venue.Outcome}
    {event : Position.Event}
    (unfilled : ∀ quantity price, outcome ≠ .filled quantity price)
    (meant : Desk.eventOf? state outcome = some event) :
    ∃ reason, event = .failed reason := by
  cases outcome with
  | filled quantity price => exact absurd rfl (unfilled quantity price)
  | rejected reason =>
    simp only [Desk.eventOf?, Option.ite_none_right_eq_some] at meant
    exact ⟨reason, (Option.some.inj meant.2).symm⟩
  | cancelled reason =>
    simp only [Desk.eventOf?, Option.ite_none_right_eq_some] at meant
    exact ⟨reason, (Option.some.inj meant.2).symm⟩

/-- Once an order is off the desk, its report has brought both together. -/
theorem Tracked.stake?_of_settled
    (tracked : Tracked trading)
    (running : trading.session.phase.isRunning = true)
    {report : Venue.Report}
    (pending : report ∈ trading.pending)
    {now : Instant}
    {after : Desk}
    {answer : Except Fault (Option Position.Transition)}
    (settled : Settled trading.session.desk report now after answer)
    {symbol : Symbol}
    (vacant : after.working.find? symbol = none) :
    trading.session.venue.stake? symbol = after.book.stake? symbol := by
  have foretold {order : WorkingOrder} {position : Position}
      (names : trading.session.desk.Names report order position) :=
    tracked.matched.foretold running report pending names
  cases settled with
  | unheard => exact tracked.matched.idle vacant
  | refused => exact tracked.matched.idle vacant
  | unworked names meaningless =>
    by_cases here : symbol = report.symbol
    · subst here
      refine (foretold names).unfilled fun quantity price filled => ?_
      rw [filled] at meaningless
      contradiction
    · refine tracked.matched.idle ?_
      have kept := (Desk.find?_working_forget _ _ _).symm.trans vacant
      rwa [if_neg here] at kept
  | answered names meant applied book working =>
    by_cases here : symbol = report.symbol
    · subst here
      rw [book, Book.stake?_moved, if_pos rfl]
      by_cases filled :
          ∃ quantity price, report.outcome = .filled quantity price
      · rcases filled with ⟨quantity, price, filled⟩
        rw [filled] at meant
        cases meant
        exact (foretold names).taken filled applied
      · have unfilled (quantity price : Decimal) :
            report.outcome ≠ .filled quantity price :=
          fun same => filled ⟨quantity, price, same⟩
        rcases exists_failed unfilled meant with ⟨reason, rfl⟩
        have agrees := (foretold names).unfilled unfilled
        unfold Agrees at agrees
        rw [Book.stake?_of_get? names.found] at agrees
        cases Position.moves_of_apply applied with
        | failEntry state =>
          rw [agrees, Position.stake?_eq_none (by rw [state]; rfl)]
          rfl
    · rw [book, Book.stake?_moved, if_neg here]
      refine tracked.matched.idle ?_
      rw [working, if_neg here] at vacant
      exact vacant

/-- What still works once a report was taken stands as it did, or is stuck. -/
theorem Tracked.stands_of_settled
    (tracked : Tracked trading)
    (running : trading.session.phase.isRunning = true)
    {report : Venue.Report}
    (pending : report ∈ trading.pending)
    {now : Instant}
    {after : Desk}
    {answer : Except Fault (Option Position.Transition)}
    (settled : Settled trading.session.desk report now after answer)
    {order : WorkingOrder}
    (working : after.working.find? report.symbol = some order)
    (named : report.dispatch = order.dispatch) :
    trading.Agrees report.symbol ∨
      (∀ dispatch ∈ trading.unanswered, dispatch.id ≠ order.dispatch) ∧
        (order.order.isEntry = true →
          order.dispatch ∈ trading.misfilled) := by
  rcases tracked.filed with ⟨handed, filed⟩
  cases settled with
  | unheard unnamed =>
    simp only [Desk.isWorking] at unnamed
    rw [working] at unnamed
    simp [named] at unnamed
  | unworked =>
    have gone :=
      (Desk.find?_working_forget _ _ _).symm.trans working
    simp at gone
  | answered names meant applied book gone =>
    rw [gone, if_pos rfl] at working
    contradiction
  | refused names meant refused =>
    have same := Option.some.inj (names.working.symm.trans working)
    subst same
    have foretells := tracked.matched.foretold running report pending names
    by_cases filled :
        ∃ quantity price, report.outcome = .filled quantity price
    · rcases filled with ⟨quantity, price, filled⟩
      rw [filled] at meant
      cases meant
      refine Or.inr ⟨fun dispatch owed same => ?_,
        foretells.refused filled refused⟩
      exact filed.unfilled pending owed (same.trans named.symm) _ _ filled
    · exact Or.inl (foretells.unfilled
        fun quantity price same => filled ⟨quantity, price, same⟩)

/-- A report that is taken keeps both sides together. -/
theorem Tracked.hearing
    (tracked : Tracked trading)
    {report : Venue.Report}
    (pending : report ∈ trading.pending)
    {rest : List Venue.Report}
    (less : rest ⊆ trading.pending)
    (only : ∀ other ∈ trading.pending, other = report ∨ other ∈ rest)
    (now : Instant) :
    Tracked
      { trading with
        session := (trading.session.settle report now).1
        pending := rest } := by
  rcases tracked.filed with ⟨handed, filed⟩
  have sound := tracked.sound.settle report now
  cases running : trading.session.phase.isRunning with
  | false =>
    -- a session that has ended takes nothing, and little is said of it
    rw [Session.settle_of_ended running]
    refine ⟨tracked.sound,
      ⟨handed, filed.dropping (List.Sublist.refl _) less⟩, ?_⟩
    constructor
    · exact tracked.matched.idle
    · intro goes
      rw [running] at goes
      contradiction
    · intro goes
      rw [running] at goes
      contradiction
  | true =>
    rcases Session.exists_settle_eq running report now with
      ⟨halt, phase, result⟩
    have settled := tracked.sound.reached.coherent.settled report now
    rw [result] at sound ⊢
    generalize (trading.session.desk.settle report now).2 = answer at settled
    generalize (trading.session.desk.settle report now).1 = after
      at settled sound ⊢
    have filed :=
      (filed.taking pending
        { trading.session with desk := { after with halt }, phase }
        settled.issued (fun found => (settled.still found).1)
        settled.kept).dropping (List.Sublist.refl _) less
    refine ⟨sound, ⟨handed, filed⟩, ?_⟩
    constructor
    · intro symbol vacant
      exact tracked.stake?_of_settled running pending settled vacant
    · intro _ symbol order working
      have works : after.working.find? symbol = some order := working
      rcases settled.still works with ⟨worked, stays⟩
      have agrees (before : trading.Agrees symbol) :
          trading.session.venue.stake? symbol = after.book.stake? symbol :=
        before.trans (Book.stake?_congr stays).symm
      cases tracked.matched.stands running worked with
      | agreeing together => exact .agreeing (agrees together)
      | stuck answered misfilled => exact .stuck answered misfilled
      | @reported other listed about named =>
        rcases only other listed with rfl | left
        · subst about
          rcases tracked.stands_of_settled running pending settled works
              named with
            together | ⟨answered, misfilled⟩
          · exact .agreeing (agrees together)
          · exact .stuck answered misfilled
        · exact .reported left about named
    · intro _ other listed order position names
      rcases settled.still names.working with ⟨worked, stays⟩
      have known : trading.session.desk.Names other order position :=
        ⟨worked, names.named, stays.symm.trans names.found⟩
      exact (tracked.matched.foretold running other (less listed)
        known).transfer rfl (Book.stake?_congr stays) (fun _ => id)

end Tracked

end MandateDesk.Trading
