import MandateDesk.Proofs.Commands
import MandateDesk.Proofs.Endurance

/-!
# Reductions and closes that are sent again

A position that is being reduced or closed waits for the venue.  Once a report
has ended its order, the position is open or flat, or its order is off the desk
and the next cycle on fresh market data hands over the rest again.  There is
one exception: a close that is filled in part.  The position turns such a fill
down, and the report leaves everything as it was: the order still counts as
working, so that nothing is ever handed over for the position again.
-/

namespace MandateDesk

/-- What ends an order at the venue. -/
inductive Venue.Ends (order : Venue.Order) : Venue.Outcome → Prop where
  | rejected (reason : String) : Ends order (.rejected reason)
  | cancelled (reason : String) : Ends order (.cancelled reason)
  /-- A part of the order is filled, or all of it. -/
  | filled {asked quantity price}
      (sized : order.quantity? = some asked)
      (positive : Decimal.zero < quantity)
      (priced : Decimal.zero < price)
      (within : quantity ≤ asked) :
      Ends order (.filled quantity price)

/-- A close is filled with another quantity than the one that is held. -/
def Position.IsClosedInPart
    (position : Position)
    (outcome : Venue.Outcome) :
    Prop :=
  position.state = .closing ∧
    ∃ quantity price, outcome = .filled quantity price ∧
      ¬ Decimal.SameValue quantity position.quantity

namespace Desk

/-! ## Reports on what is pending -/

/-- A position that waits takes what ends its order, unless it is in part. -/
theorem exists_successor
    {position : Position}
    {order : WorkingOrder}
    {ticket : Nat}
    (cell : Cell (some position) ticket (some order))
    (leaving : position.state = .reducing ∨ position.state = .closing)
    {quantity price : Decimal}
    (ends : Venue.Ends order.order (.filled quantity price))
    (whole : ¬ position.IsClosedInPart (.filled quantity price))
    (now : Instant) :
    ∃ next, position.successor (.filled quantity price) now = .ok next := by
  rcases ends with _ | _ | ⟨sized, positive, priced, within⟩
  cases cell with
  | entering shaped state => simp [state] at leaving
  | reducing shaped state =>
    cases sized
    have shape := Position.leavingShape shaped (Or.inl state)
    have unsigned := ((Decimal.zero_lt_iff _).mp positive).1
    have held := Decimal.le_trans within shape.pending_le
    simp only [Position.successor, state, Position.fillReduce, unsigned,
      Decimal.not_lt.mpr held, if_false, Bool.false_eq_true]
    split
    · exact ⟨_, rfl⟩
    · exact ⟨_, rfl⟩
  | closing shaped state =>
    have same : Decimal.SameValue quantity position.quantity := by
      by_contra apart
      exact whole ⟨state, quantity, price, rfl, apart⟩
    simp only [Position.successor, state, Position.fillClose, if_pos same]
    exact ⟨_, rfl⟩

/-- A close turns a fill in part down. -/
theorem exists_refusal
    {position : Position}
    {outcome : Venue.Outcome}
    (part : position.IsClosedInPart outcome)
    (now : Instant) :
    ∃ event fault,
      eventOf? position.state outcome = some event ∧
        position.apply event now = .error fault := by
  rcases part with ⟨state, quantity, price, rfl, apart⟩
  cases applied : position.apply (.filled quantity price) now with
  | error fault => exact ⟨.filled quantity price, fault, rfl, applied⟩
  | ok next =>
    cases Position.moves_of_apply applied with
    | fillEntry other => simp [state] at other
    | fillReduce other => simp [state] at other
    | fillAllReduced other => simp [state] at other
    | fillClose _ whole => contradiction

/-- What becomes of a position that waits once its order has ended. -/
inductive Concluded (symbol : Symbol) (position : Position)
    (desk : Desk) : Prop where
  /-- It is open or flat. -/
  | left {next}
      (found : desk.book.get? symbol = some next)
      (state : next.state = .flat ∨ next.state = .opened)
  /-- It waits for another order. -/
  | waits
      (found : desk.book.get? symbol = some position)
      (vacant : desk.working.find? symbol = none)

section Report

variable {parameters : Parameters} {limits : Risk.Limits} {desk : Desk}
variable {report : Venue.Report} {order : WorkingOrder}
variable {position : Position}

/-- A report that ends the order of a position concludes its wait. -/
theorem Reachable.concluded
    (reached : Reachable parameters limits desk)
    (names : Names desk report order position)
    (leaving : position.state = .reducing ∨ position.state = .closing)
    (ends : Venue.Ends order.order report.outcome)
    (whole : ¬ position.IsClosedInPart report.outcome)
    (now : Instant) :
    Concluded report.symbol position (desk.settle report now).1 := by
  have settled := reached.coherent.settled report now
  generalize desk.settle report now = result at settled ⊢
  rcases result with ⟨after, answer⟩
  have cell := reached.coherent.cell report.symbol
  rw [names.found, names.working] at cell
  cases settled with
  | unheard unnamed =>
    simp [isWorking, names.working, names.named] at unnamed
  | unworked =>
    exact .waits names.found
      ((find?_working_forget _ _ _).trans (if_pos rfl))
  | refused known meant refused =>
    have same := known.found
    rw [names.found] at same
    cases same
    -- what is not a fill stands for no event here, and a fill is taken
    cases outcome : report.outcome with
    | filled quantity price =>
      rw [outcome] at meant ends whole
      cases meant
      rcases exists_successor cell leaving ends whole now with ⟨next, follows⟩
      have shaped :=
        (Position.moves_of_successor follows).wellFormed cell.wellFormed
          (reached.isPriced _ _ names.found)
      rw [(Position.apply_eq_ok_iff _ _ _ _).mpr ⟨follows, shaped⟩] at refused
      contradiction
    | rejected reason =>
      rcases leaving with state | state <;>
        simp [outcome, state, eventOf?] at meant
    | cancelled reason =>
      rcases leaving with state | state <;>
        simp [outcome, state, eventOf?] at meant
  | answered known meant applied book =>
    have moves := Position.moves_of_apply applied
    refine .left ?_ (moves.state_of_answer (kind_of_eventOf? meant))
    rw [book, Book.get?_moved, if_pos rfl]

/-- A close that is filled in part stays as it is, and its order too. -/
theorem Coherent.stranded
    (coherent : desk.Coherent)
    (names : Names desk report order position)
    (part : position.IsClosedInPart report.outcome)
    (now : Instant) :
    (desk.settle report now).1.book = desk.book ∧
      (desk.settle report now).1.working = desk.working := by
  rcases exists_refusal part now with ⟨event, fault, stands, refuses⟩
  rw [((coherent.settled report now).turned_down names stands refuses).1]
  exact ⟨rfl, rfl⟩

end Report

/-! ## Cycles over what is pending -/

theorem Cell.isEntry_of_leaving
    {position : Position}
    {ticket : Nat}
    {order : WorkingOrder}
    (cell : Cell (some position) ticket (some order))
    (leaving : position.state = .reducing ∨ position.state = .closing) :
    order.order.isEntry = false := by
  cases cell with
  | entering shaped state => simp [state] at leaving
  | reducing => rfl
  | closing => rfl

theorem not_moves_of_leaving
    {position next : Position}
    (leaving : position.state = .reducing ∨ position.state = .closing)
    {order : Venue.Order}
    {event : Position.Event}
    (admission : order.admission? = some event)
    {now : Instant} :
    ¬ position.Moves now event next := by
  intro moves
  cases order <;> cases admission <;> cases moves <;> simp_all

section Worked

variable {desk : Desk} {parameters : Parameters} {limits : Risk.Limits}
variable {snapshot : Snapshot} {now : Instant} {turn : Turn}
variable {summary : CycleSummary} {symbol : Symbol} {position : Position}

/-- No decision names an order that trades for a position that waits. -/
theorem Corresponds.admission?_eq_none
    {lifetime : Nat}
    {view : Risk.View}
    {decisions : List Decision}
    (corresponds : Corresponds desk lifetime view now turn decisions)
    (found : desk.book.get? symbol = some position)
    (leaving : position.state = .reducing ∨ position.state = .closing)
    {decision : Decision}
    (member : decision ∈ decisions)
    (about : decision.symbol = symbol)
    {dispatch : Venue.Dispatch}
    (handed : dispatch ∈ turn.outbox)
    (named : decision.outcome.dispatch? = some dispatch.id) :
    dispatch.order.admission? = none := by
  cases admission : dispatch.order.admission? with
  | none => rfl
  | some event =>
    rcases
        corresponds.transition decision member dispatch handed event named
          admission with
      ⟨next, applied, _⟩
    rw [about, Book.positionOf_of_get? found] at applied
    exact absurd (Position.moves_of_apply applied)
      (not_moves_of_leaving leaving admission)

/-- After a cycle something works for every position that waits. -/
theorem Worked.isSome_working
    (worked : Worked desk parameters limits snapshot now turn summary)
    (found : turn.desk.book.get? symbol = some position)
    (pending : position.state.hasPendingOrder = true) :
    (turn.desk.working.find? symbol).isSome = true := by
  cases worked with
  | intro _ _ _ served => exact served found pending

/-- A cycle hands over again what a position waits for in vain. -/
theorem Worked.retries
    (coherent : desk.Coherent)
    (worked : Worked desk parameters limits snapshot now turn summary)
    (found : desk.book.get? symbol = some position)
    (leaving : position.state = .reducing ∨ position.state = .closing)
    (vacant : desk.working.find? symbol = none) :
    ∃ dispatch ∈ turn.outbox, dispatch.symbol = symbol ∧
      (position.state = .reducing ∧
          dispatch.order = .reduce position.pendingQuantity ∨
        position.state = .closing ∧
          dispatch.order = .close position.quantity) := by
  have corresponds := worked.corresponds coherent
  have issues := worked.issues
  have after := worked.coherent
  -- the position stays, something works for it after the cycle, and what
  -- works now has not worked before: it was handed over
  have stays : turn.desk.book.get? symbol = some position := by
    rw [← found]
    by_contra changed
    rcases corresponds.changed symbol changed with
      ⟨decision, member, about, dispatch, handed, named, trades⟩
    rw [corresponds.admission?_eq_none found leaving member about handed
      named] at trades
    simp at trades
  have pending : position.state.hasPendingOrder = true := by
    rcases leaving with state | state <;> rw [state] <;> rfl
  rcases Option.isSome_iff_exists.mp (worked.isSome_working stays pending) with
    ⟨order, working⟩
  have cell := after.cell symbol
  rw [working] at cell
  rcases issues.origin working with
    ⟨known, _, worked, _⟩ | ⟨dispatch, handed, about, carries⟩
  · simp [vacant] at worked
  refine ⟨dispatch, handed, about, ?_⟩
  rcases corresponds.explained dispatch handed with
    ⟨decision, member, concerns, named⟩ | ⟨_, known, held, retried⟩
  · have trades := cell.isSome_admission?
    rw [carries.asked,
      corresponds.admission?_eq_none found leaving member
        (concerns.trans about) handed named] at trades
    simp at trades
  · rw [about, found] at held
    cases held
    exact retried

/-- A cycle hands over nothing on a close that still works. -/
theorem Worked.apart_of_working
    (coherent : desk.Coherent)
    (worked : Worked desk parameters limits snapshot now turn summary)
    (found : desk.book.get? symbol = some position)
    (leaving : position.state = .reducing ∨ position.state = .closing)
    {order : WorkingOrder}
    (working : desk.working.find? symbol = some order) :
    ∀ dispatch ∈ turn.outbox, dispatch.symbol ≠ symbol := by
  rintro dispatch handed about
  have corresponds := worked.corresponds coherent
  have cell := coherent.cell symbol
  rw [found, working] at cell
  rcases corresponds.explained dispatch handed with
    ⟨decision, member, concerns, named⟩ | ⟨vacant, _⟩
  · have silent :=
      corresponds.admission?_eq_none found leaving member
        (concerns.trans about) handed named
    rcases worked.issues.kept working with ⟨_, isCancelled, works⟩
    rcases worked.issues.placed handed with ⟨placed, same, place⟩
    rw [about, works] at same
    cases same
    cases place with
    | carried carries =>
      have trades := cell.isSome_admission?
      rw [carries.asked, silent] at trades
      simp at trades
    | cancelling entry =>
      rw [cell.isEntry_of_leaving leaving] at entry
      simp at entry
  · simp [about, working] at vacant

end Worked

end Desk

/-! ## Until the next cycle -/

namespace Session

/-- What may happen to a session before its next cycle on fresh market data. -/
inductive Lull : Session → Session → Prop where
  | refl (session : Session) : Lull session session
  | step {session later now command}
      (lull : Lull session later)
      (keeps : command.keepsStages = true)
      (stale : command = .cycle →
        ∃ fault,
          later.feed.fresh later.parameters.oldestSnapshot now =
            .error fault) :
      Lull session (later.step now command).session

/-- A position waits, and no order works for it. -/
structure Awaits
    (session : Session)
    (symbol : Symbol)
    (position : Position) :
    Prop where
  found : session.desk.book.get? symbol = some position
  vacant : session.desk.working.find? symbol = none

theorem IsLive.handed_cycle
    {session : Session}
    (live : session.IsLive)
    (now : Instant) :
    (session.step now .cycle).handed =
      (session.desk.runCycle session.parameters session.limits session.feed
        none now).1.outbox := by
  rcases live.sound.exists_decided live.isRunning now with
    ⟨turn, decided, halt, result, ran, _, _, _, same⟩
  show (session.runCycle now).handed = _
  rw [same, ran]

/-- A cycle on old market data keeps all but the latch and what is counted. -/
theorem IsLive.runCycle_of_stale
    {session : Session}
    (live : session.IsLive)
    {now : Instant}
    {fault : Fault}
    (old :
      session.feed.fresh session.parameters.oldestSnapshot now =
        .error fault) :
    (session.runCycle now).session.IsLive ∧
      Keeps session (session.runCycle now).session ∧
      (session.runCycle now).handed = [] := by
  have sound := live.sound.runCycle now
  rcases Desk.runCycle_of_stale session.desk session.parameters session.limits
      old with
    ⟨halt, tally, ran⟩
  have same :
      session.runCycle now =
        ⟨{ session with
            desk := { session.desk with halt, tally }
            feed := session.feed.read },
          [], [],
          .ok
            ⟨session.desk.tally.cycles + 1, some session.feed.version, true,
              0, []⟩⟩ := by
    unfold Session.runCycle
    simp [live.isRunning, live.sound.room_eq_none, ran, conclude, release,
      Session.deliver, live.sound.standing]
  rw [same] at sound ⊢
  exact ⟨⟨sound, live.running⟩, ⟨rfl, rfl, rfl, rfl, id⟩, rfl⟩

theorem Awaits.of_keeps
    {session after : Session}
    {symbol : Symbol}
    {position : Position}
    (awaits : session.Awaits symbol position)
    (keeps : Keeps session after) :
    after.Awaits symbol position where
  found := by
    rw [keeps.book]
    exact awaits.found
  vacant := by
    rw [keeps.working]
    exact awaits.vacant

theorem Awaits.hear
    {session : Session}
    {symbol : Symbol}
    {position : Position}
    (awaits : session.Awaits symbol position)
    (coherent : session.desk.Coherent)
    (report : Venue.Report)
    (now : Instant) :
    (session.hear report now).session.Awaits symbol position := by
  by_cases about : symbol = report.symbol
  · subst about
    have unnamed (order : Desk.WorkingOrder)
        (working : session.desk.working.find? report.symbol = some order) :
        order.dispatch ≠ report.dispatch := by
      simp [awaits.vacant] at working
    exact awaits.of_keeps (settle_of_unnamed coherent unnamed now)
  · rcases settle_elsewhere coherent report now about with ⟨book, working⟩
    exact ⟨book.trans awaits.found, working.trans awaits.vacant⟩

/-- What waits goes on waiting until there is a cycle. -/
theorem Awaits.step
    {session : Session}
    {symbol : Symbol}
    {position : Position}
    (awaits : session.Awaits symbol position)
    (coherent : session.desk.Coherent)
    {now : Instant}
    {command : Command}
    (idle : command ≠ .cycle) :
    (session.step now command).session.Awaits symbol position := by
  have moved (venue : PaperVenue) :
      (session.withVenue venue).Awaits symbol position :=
    ⟨awaits.found, awaits.vacant⟩
  cases quiet : command.isQuiet with
  | true => exact awaits.of_keeps (keeps_step session now quiet).1
  | false =>
    cases command with
    | cycle => contradiction
    | report report => exact awaits.hear coherent report now
    | fill dispatch price =>
      exact (moved (session.venue.fill dispatch price).1).hear coherent _ now
    | fillPartially dispatch quantity price =>
      exact
        (moved (session.venue.fillPartially dispatch quantity price).1).hear
          coherent _ now
    | reject dispatch reason => exact awaits.hear coherent _ now
    | _ => simp [Command.isQuiet] at quiet

/-- A session goes on through a lull, and what waits goes on waiting. -/
theorem Lull.awaits
    {session later : Session}
    (lull : Lull session later)
    (live : session.IsLive)
    {symbol : Symbol}
    {position : Position}
    (awaits : session.Awaits symbol position) :
    later.IsLive ∧ later.Awaits symbol position := by
  induction lull with
  | refl => exact ⟨live, awaits⟩
  | @step later now command _ keeps stale hypothesis =>
    rcases hypothesis with ⟨goes, waits⟩
    by_cases cycle : command = .cycle
    · subst cycle
      rcases stale rfl with ⟨fault, old⟩
      rcases goes.runCycle_of_stale old with ⟨lives, same, _⟩
      exact ⟨lives, waits.of_keeps same⟩
    · have timely : command.IsTimely later.parameters now := by
        cases command with
        | cycle => contradiction
        | _ => trivial
      exact ⟨(goes.step keeps timely).1,
        waits.step goes.sound.reached.coherent cycle⟩

/-- On fresh market data a cycle is done and sends again what is awaited. -/
theorem Awaits.retries
    {session : Session}
    {symbol : Symbol}
    {position : Position}
    (awaits : session.Awaits symbol position)
    (live : session.IsLive)
    (leaving : position.state = .reducing ∨ position.state = .closing)
    {now : Instant}
    {snapshot : Snapshot}
    (fresh :
      session.feed.fresh session.parameters.oldestSnapshot now = .ok snapshot)
    (reaches : session.parameters.Reaches now) :
    ∃ dispatch ∈ (session.step now .cycle).handed,
      dispatch.symbol = symbol ∧
      (position.state = .reducing ∧
          dispatch.order = .reduce position.pendingQuantity ∨
        position.state = .closing ∧
          dispatch.order = .close position.quantity) := by
  have coherent := live.sound.reached.coherent
  rw [live.handed_cycle]
  rcases
      Desk.runCycle_of_fresh coherent session.parameters session.limits
        fresh with
    ⟨expiry, _⟩ | ⟨turn, summary, worked, ran⟩
  · have present :=
      (Desk.isSome_expire_iff session.desk.registry _ now).mpr reaches
    simp [expiry] at present
  · rw [ran]
    exact worked.retries coherent awaits.found leaving awaits.vacant

theorem IsLive.apart_of_working
    {session : Session}
    (live : session.IsLive)
    {symbol : Symbol}
    {position : Position}
    (found : session.desk.book.get? symbol = some position)
    (leaving : position.state = .reducing ∨ position.state = .closing)
    {order : Desk.WorkingOrder}
    (working : session.desk.working.find? symbol = some order)
    (now : Instant) :
    ∀ dispatch ∈ (session.step now .cycle).handed,
      dispatch.symbol ≠ symbol := by
  have coherent := live.sound.reached.coherent
  rw [live.handed_cycle]
  have cycled :=
    coherent.cycled session.parameters session.limits session.feed now
  generalize (session.desk.runCycle session.parameters session.limits
    session.feed none now).1 = turn at cycled ⊢
  cases cycled with
  | idle => simp
  | worked worked =>
    exact worked.apart_of_working coherent found leaving working

/--
A report ends the order of a position that is being reduced or closed.  Unless
the order is a close that is filled in part, the position is open or flat
afterwards, or it waits without an order, and then the next cycle on fresh
market data hands over the rest again.  A close that is filled in part stays
as it is with its order, so that a cycle hands nothing over for it.
-/
theorem pending_is_retried
    {session : Session}
    (live : session.IsLive)
    {report : Venue.Report}
    {order : Desk.WorkingOrder}
    {position : Position}
    (names : session.desk.Names report order position)
    (leaving : position.state = .reducing ∨ position.state = .closing)
    (ends : Venue.Ends order.order report.outcome)
    (now : Instant) :
    (¬ position.IsClosedInPart report.outcome →
      (∃ next,
        (session.hear report now).session.desk.book.get? report.symbol =
          some next ∧
        (next.state = .flat ∨ next.state = .opened)) ∨
      (session.hear report now).session.Awaits report.symbol position ∧
      ∀ later time snapshot,
        Lull (session.hear report now).session later →
        later.feed.fresh later.parameters.oldestSnapshot time =
          .ok snapshot →
        later.parameters.Reaches time →
        ∃ dispatch ∈ (later.step time .cycle).handed,
          dispatch.symbol = report.symbol ∧
          (position.state = .reducing ∧
              dispatch.order = .reduce position.pendingQuantity ∨
            position.state = .closing ∧
              dispatch.order = .close position.quantity)) ∧
    (position.IsClosedInPart report.outcome →
      (session.hear report now).session.desk.Names report order position ∧
      ∀ time,
        ∀ dispatch ∈
            ((session.hear report now).session.step time .cycle).handed,
          dispatch.symbol ≠ report.symbol) := by
  have goes := (live.settle report now).1
  rcases exists_settle_eq live.isRunning report now with
    ⟨halt, phase, settled⟩
  constructor
  · intro whole
    cases live.sound.reached.concluded names leaving ends whole now with
    | left found state =>
      left
      refine ⟨_, ?_, state⟩
      show (session.settle report now).1.desk.book.get? report.symbol = _
      rw [settled]
      exact found
    | waits found vacant =>
      right
      have awaits :
          (session.hear report now).session.Awaits report.symbol position := by
        show (session.settle report now).1.Awaits report.symbol position
        rw [settled]
        exact ⟨found, vacant⟩
      refine ⟨awaits, fun later time snapshot lull fresh reaches => ?_⟩
      rcases lull.awaits goes awaits with ⟨lives, waits⟩
      exact waits.retries lives leaving fresh reaches
  · intro part
    rcases live.sound.reached.coherent.stranded names part now with
      ⟨book, working⟩
    have still :
        (session.hear report now).session.desk.Names report order
          position := by
      show (session.settle report now).1.desk.Names report order position
      rw [settled]
      constructor
      · exact (congrArg (OrderedMap.find? · _) working).trans names.working
      · exact names.named
      · exact (congrArg (Book.get? · _) book).trans names.found
    exact ⟨still,
      goes.apart_of_working still.found leaving still.working⟩

end Session

namespace Desk.Sample

/-- The desk once the close was sent. -/
def closing : Desk :=
  (leaving.runCycle .standard .standard feed none (moment 2)).1.desk

/-- A session with this desk. -/
def closingSession : Session :=
  .initial .standard .standard snapshot (PaperVenue.holding []) closing

/-- A report on the close. -/
def reported (outcome : Venue.Outcome) : Venue.Report :=
  ⟨.issued 2, symbol, outcome⟩

theorem reachable_closing : Reachable .standard .standard closing :=
  .step reachable_leaving (.cycle leaving feed (moment 2))

theorem isLive_closingSession : closingSession.IsLive :=
  ⟨⟨rfl, reachable_closing⟩, rfl⟩

/-- The close works for a position that is being closed. -/
theorem exists_names_closing (outcome : Venue.Outcome) :
    ∃ order position,
      closing.Names (reported outcome) order position ∧
        order.order = .close one ∧ position.state = .closing ∧
        position.quantity = one :=
  exists_names (by decide +kernel) (by decide +kernel) outcome

/-- A close that was rejected is sent again by the next cycle. -/
theorem pending_is_retried_closing :
    ∃ position, closing.book.get? symbol = some position ∧
      ∃ dispatch ∈
          ((closingSession.hear (reported (.rejected "busy"))
            (moment 2)).session.step (moment 2) .cycle).handed,
        dispatch.symbol = symbol ∧
          dispatch.order = .close position.quantity := by
  rcases exists_names_closing (.rejected "busy") with
    ⟨order, position, names, asked, state, _⟩
  have apart : ¬ position.IsClosedInPart (.rejected "busy") := by
    rintro ⟨_, quantity, price, other, _⟩
    contradiction
  refine ⟨position, names.found, ?_⟩
  rcases
      (Session.pending_is_retried isLive_closingSession names (Or.inr state)
        (.rejected "busy") (moment 2)).1 apart with
    ⟨next, found, left⟩ | ⟨_, retried⟩
  · have pending :
        (closingSession.hear (reported (.rejected "busy"))
          (moment 2)).session.desk.book.stateOf symbol = .closing := by
      decide +kernel
    have same := (Book.stateOf_of_get? found).symm.trans pending
    simp [same] at left
  · rcases Session.exists_settle_eq isLive_closingSession.isRunning
        (reported (.rejected "busy")) (moment 2) with
      ⟨halt, phase, settled⟩
    have fresh :
        (closingSession.settle (reported (.rejected "busy"))
            (moment 2)).1.feed.fresh
          (closingSession.settle (reported (.rejected "busy"))
            (moment 2)).1.parameters.oldestSnapshot (moment 2) =
          .ok snapshot := by
      rw [settled]
      rfl
    rcases
        retried _ (moment 2) snapshot (.refl _) fresh
          (Or.inr (by decide +kernel)) with
      ⟨dispatch, handed, about, ⟨other, _⟩ | ⟨_, again⟩⟩
    · simp [state] at other
    · exact ⟨dispatch, handed, about, again⟩

theorem half_mantissa : 5 < Decimal.mantissaBound := by decide

theorem half_scale : 1 ≤ 28 := by decide

/-- Half of what was entered. -/
def half : Decimal :=
  ⟨false, 5, 1, half_mantissa, half_scale⟩

/-- A wish to close half of what is held. -/
def halving : Mandate :=
  { wish ⟨5, by decide⟩ .reduce with quantity := half }

/-- A close that is filled by half is not sent again. -/
theorem closing_in_part_is_stranded :
    ∃ order position,
      closing.Names (reported (.filled half hundred)) order position ∧
      position.state = .closing ∧
      Venue.Ends order.order (.filled half hundred) ∧
      (closingSession.hear (reported (.filled half hundred))
        (moment 2)).session.desk.book.get? symbol = some position ∧
      (closingSession.hear (reported (.filled half hundred))
        (moment 2)).session.desk.working.find? symbol = some order ∧
      ((closingSession.hear (reported (.filled half hundred))
        (moment 2)).session.step (moment 2) .cycle).handed = [] := by
  rcases exists_names_closing (.filled half hundred) with
    ⟨order, position, names, asked, state, held⟩
  have part : position.IsClosedInPart (.filled half hundred) := by
    refine ⟨state, half, hundred, rfl, ?_⟩
    rw [held]
    decide +kernel
  have stays :=
    reachable_closing.coherent.stranded names part (moment 2)
  rcases Session.exists_settle_eq isLive_closingSession.isRunning
      (reported (.filled half hundred)) (moment 2) with
    ⟨halt, phase, settled⟩
  refine ⟨order, position, names, state, ?_, ?_, ?_, by decide +kernel⟩
  · have sized : order.order.quantity? = some one := by
      rw [asked]
      rfl
    refine .filled sized ?_ ?_ ?_
    · decide +kernel
    · decide +kernel
    · decide +kernel
  · show (closingSession.settle _ _).1.desk.book.get? symbol = _
    rw [settled]
    exact (congrArg (Book.get? · _) stays.1).trans names.found
  · show (closingSession.settle _ _).1.desk.working.find? symbol = _
    rw [settled]
    exact (congrArg (OrderedMap.find? · _) stays.2).trans names.working

end Desk.Sample

end MandateDesk
