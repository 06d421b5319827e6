import MandateDesk.Proofs.Commands
import MandateDesk.Proofs.Holdings

/-!
# Trading at a venue

`Trading` is a session together with what is on its way between the session and
its venue: the orders that the venue has not answered, and the report that the
session has not taken.  The venue answers each order at most once, and not
before its last report was taken; in between the session may do anything.

Two rules tell how the venue may answer.  It is `Orderly` if it fills no entry
after it filled the cancel of the entry.  It is `Prudent` if, besides, it fills
no cancel after it misfilled the entry.

All that works, and all that is reported, goes back to a dispatch that was once
handed over, and the numbers of the dispatches tell which one.  `Filed` keeps
these books.
-/

namespace MandateDesk

/-- How a venue answers an order that it received. -/
inductive Venue.Answer where
  /-- It fills the order. -/
  | fill (price : Decimal)
  /-- It fills some quantity, which ends the order. -/
  | fillPartially (quantity price : Decimal)
  /-- It rejects the order. -/
  | reject (reason : String)

namespace Venue.Answer

/-- The quantity that an answer to an order trades, and the price. -/
def trade? (order : Venue.Order) : Venue.Answer → Option (Decimal × Decimal)
  | .fill price => order.quantity?.map fun quantity => (quantity, price)
  | .fillPartially quantity price =>
    order.quantity?.map fun _ => (quantity, price)
  | .reject _ => none

/-- The entry that an answer to an order withdraws. -/
def withdrawn? (order : Venue.Order) (answer : Venue.Answer) :
    Option DispatchId :=
  match order, answer with
  | .cancelEntry _, .reject _ => none
  | .cancelEntry target, _ => some target
  | _, _ => none

/-- Whether an answer fills an entry in a way that the entry does not take. -/
def misfills (order : Venue.Order) (answer : Venue.Answer) : Bool :=
  match order, answer.trade? order with
  | .enter _ asked, some (quantity, price) =>
    decide (Desk.IsMisfill asked quantity price)
  | _, _ => false

theorem isSome_quantity?_of_trade?
    {order : Venue.Order}
    (answer : Venue.Answer)
    {trade : Decimal × Decimal}
    (trades : answer.trade? order = some trade) :
    order.quantity?.isSome = true := by
  cases order <;> cases answer <;>
    simp_all [trade?, Venue.Order.quantity?]

theorem misfills_eq_false
    {order : Venue.Order}
    (answer : Venue.Answer)
    (still : answer.trade? order = none) :
    answer.misfills order = false := by
  unfold misfills
  rw [still]
  cases order <;> rfl

theorem misfills_reject
    (order : Venue.Order)
    (reason : String) :
    (reject reason).misfills order = false :=
  misfills_eq_false _ rfl

theorem withdrawn?_reject
    (order : Venue.Order)
    (reason : String) :
    (reject reason).withdrawn? order = none := by
  cases order <;> rfl

/-- A fill that an entry does not take misfills it. -/
theorem misfills_of_isMisfill
    {order : Venue.Order}
    (answer : Venue.Answer)
    {quantity price : Decimal}
    (trades : answer.trade? order = some (quantity, price))
    (entry : order.isEntry = true) :
    ∃ direction asked, order = .enter direction asked ∧
      (Desk.IsMisfill asked quantity price →
        answer.misfills order = true) := by
  cases order with
  | enter direction asked =>
    refine ⟨direction, asked, rfl, fun misfill => ?_⟩
    unfold misfills
    rw [trades]
    exact decide_eq_true misfill
  | reduce => simp [Venue.Order.isEntry] at entry
  | close => simp [Venue.Order.isEntry] at entry
  | cancelEntry => simp [Venue.Order.isEntry] at entry

end Venue.Answer

namespace PaperVenue

/-- A venue after its answer to a dispatch, and the report that it makes. -/
def answer
    (venue : PaperVenue)
    (dispatch : Venue.Dispatch) :
    Venue.Answer → PaperVenue × Venue.Report
  | .fill price => venue.fill dispatch price
  | .fillPartially quantity price =>
    venue.fillPartially dispatch quantity price
  | .reject reason => (venue, reject dispatch reason)

/-- All that an answer to a dispatch can be. -/
inductive Answers (venue : PaperVenue) (dispatch : Venue.Dispatch) :
    Venue.Answer → PaperVenue → Venue.Report → Prop where
  | rejected (reason : String) :
      Answers venue dispatch (.reject reason) venue (reject dispatch reason)
  | withdrawn {answer target}
      (asked : dispatch.order = .cancelEntry target)
      (withdraws : answer.withdrawn? dispatch.order = some target)
      (still : answer.trade? dispatch.order = none) :
      Answers venue dispatch answer venue (cancellation dispatch target)
  | traded {answer quantity price}
      (trades : answer.trade? dispatch.order = some (quantity, price))
      (keeps : answer.withdrawn? dispatch.order = none) :
      Answers venue dispatch answer
        (venue.fillPartially dispatch quantity price).1
        (filling dispatch quantity price)

theorem answers
    (venue : PaperVenue)
    (dispatch : Venue.Dispatch)
    (answer : Venue.Answer) :
    Answers venue dispatch answer (venue.answer dispatch answer).1
      (venue.answer dispatch answer).2 := by
  rcases dispatch with ⟨id, symbol, order, action, reservation⟩
  cases answer with
  | reject reason => exact .rejected reason
  | fill price =>
    cases order with
    | enter direction quantity => exact .traded rfl rfl
    | reduce quantity => exact .traded rfl rfl
    | close quantity => exact .traded rfl rfl
    | cancelEntry target => exact .withdrawn rfl rfl rfl
  | fillPartially quantity price =>
    cases order with
    | enter direction asked => exact .traded rfl rfl
    | reduce asked => exact .traded rfl rfl
    | close asked => exact .traded rfl rfl
    | cancelEntry target => exact .withdrawn rfl rfl rfl

end PaperVenue

/-- A session that trades at its venue. -/
structure Trading where
  /-- The session with its venue. -/
  session : Session
  /-- The orders that the venue received and has not answered, in order. -/
  unanswered : List Venue.Dispatch
  /-- The entries whose cancel was filled. -/
  withdrawn : List DispatchId
  /-- The entries that were misfilled. -/
  misfilled : List DispatchId
  /-- The reports that the session has not taken, in order. -/
  pending : List Venue.Report

/-- A command that neither speaks for the venue nor breaks it. -/
def Session.Command.isOwn : Session.Command → Bool
  | .report _ => false
  | .fill .. => false
  | .fillPartially .. => false
  | .reject .. => false
  | .breakVenue => false
  | _ => true

namespace Trading

/-! ## Runs -/

/-- A session at its beginning. -/
def beginning (session : Session) : Trading :=
  ⟨session, [], [], [], []⟩

/-- The session carries out a command. -/
def commanding
    (trading : Trading)
    (now : Instant)
    (command : Session.Command) :
    Trading :=
  let response := trading.session.step now command
  { trading with
    session := response.session
    unanswered := trading.unanswered ++ response.sent }

/-- The venue answers an order. -/
def answering
    (trading : Trading)
    (dispatch : Venue.Dispatch)
    (answer : Venue.Answer) :
    Trading :=
  let (venue, report) := trading.session.venue.answer dispatch answer
  { session := trading.session.withVenue venue
    unanswered := trading.unanswered.erase dispatch
    withdrawn :=
      trading.withdrawn ++ (answer.withdrawn? dispatch.order).toList
    misfilled :=
      if answer.misfills dispatch.order then
        trading.misfilled ++ [dispatch.id]
      else trading.misfilled
    pending := trading.pending ++ [report] }

/-- The session takes a report, and others are left. -/
def hearing
    (trading : Trading)
    (now : Instant)
    (report : Venue.Report)
    (rest : List Venue.Report) :
    Trading :=
  { trading with
    session := (trading.session.step now (.report report)).session
    pending := rest }

/-- No entry is filled once its cancel was filled. -/
def Orderly
    (trading : Trading)
    (dispatch : Venue.Dispatch)
    (answer : Venue.Answer) :
    Prop :=
  dispatch.order.isEntry = true →
    (answer.trade? dispatch.order).isSome = true →
      dispatch.id ∉ trading.withdrawn

/-- Besides, no cancel is filled once its entry was misfilled. -/
def Prudent
    (trading : Trading)
    (dispatch : Venue.Dispatch)
    (answer : Venue.Answer) :
    Prop :=
  trading.Orderly dispatch answer ∧
    ∀ target, answer.withdrawn? dispatch.order = some target →
      target ∉ trading.misfilled

/-- What happens next, if the venue answers by a rule. -/
inductive Step (rule : Trading → Venue.Dispatch → Venue.Answer → Prop)
    (trading : Trading) : Trading → Prop where
  /-- The session carries out a command. -/
  | command {now command}
      (own : command.isOwn = true) :
      Step rule trading (trading.commanding now command)
  /-- The venue answers an order, if its last report was taken. -/
  | answer {dispatch answer}
      (heard : trading.pending = [])
      (received : dispatch ∈ trading.unanswered)
      (permitted : rule trading dispatch answer) :
      Step rule trading (trading.answering dispatch answer)
  /-- The session takes the report of the venue. -/
  | hear {now report rest}
      (pending : trading.pending = report :: rest) :
      Step rule trading (trading.hearing now report rest)

/-- All that can happen to a session that recovered, by a rule. -/
inductive Reached (rule : Trading → Venue.Dispatch → Venue.Answer → Prop) :
    Trading → Prop where
  | start {parameters limits genesis venue store now session summary}
      (keyed : venue.IsKeyed)
      (started :
        Session.start parameters limits genesis venue store now =
          .ok (session, summary)) :
      Reached rule (beginning session)
  | step {trading next}
      (reached : Reached rule trading)
      (step : Step rule trading next) :
      Reached rule next

/-! ## Where everything comes from -/

open Desk (Carries Issues Settled)

/-- All that is on its way goes back to what was handed over. -/
structure Filed (trading : Trading) (handed : List Venue.Dispatch) :
    Prop where
  /-- What was handed over is named by its number. -/
  numbered :
    handed.map Venue.Dispatch.id =
      (List.range' 1 trading.session.desk.issued).map DispatchId.issued
  /-- What the venue received was handed over. -/
  received : trading.unanswered.Sublist handed
  /-- What works was handed over. -/
  carried : ∀ {symbol order},
    trading.session.desk.working.find? symbol = some order →
      ∃ dispatch ∈ handed, dispatch.symbol = symbol ∧ Carries dispatch order
  /-- Cancels ask for entries. -/
  aimed : ∀ {dispatch target},
    dispatch ∈ handed → dispatch.order = .cancelEntry target →
      ∃ entry ∈ handed, entry.id = target ∧
        entry.symbol = dispatch.symbol ∧ entry.order.isEntry = true
  /-- What is withdrawn is an entry. -/
  entries : ∀ id ∈ trading.withdrawn,
    ∃ entry ∈ handed, entry.id = id ∧ entry.order.isEntry = true
  /-- A report speaks of what was answered, or of a withdrawn entry. -/
  reported : ∀ report ∈ trading.pending,
    ∃ dispatch ∈ handed, dispatch.id = report.dispatch ∧
      (dispatch ∈ trading.unanswered →
        dispatch.id ∈ trading.withdrawn ∧
          ∃ reason, report.outcome = .cancelled reason)
  /-- What the venue can still fill works. -/
  works : ∀ dispatch ∈ trading.unanswered,
    dispatch.order.admission?.isSome = true →
    (dispatch.order.isEntry = true → dispatch.id ∉ trading.withdrawn) →
      ∃ order,
        trading.session.desk.working.find? dispatch.symbol = some order ∧
        order.dispatch = dispatch.id

section Filed

variable {trading : Trading} {handed : List Venue.Dispatch}

theorem Filed.nodup_ids
    (filed : Filed trading handed) :
    (handed.map Venue.Dispatch.id).Nodup := by
  rw [filed.numbered]
  have apart : (List.range' 1 trading.session.desk.issued).Nodup :=
    List.nodup_range'
  refine List.pairwise_map.mpr (apart.imp ?_)
  intro first second differ same
  exact differ (DispatchId.issued.inj same)

/-- A dispatch is known by its name. -/
theorem Filed.eq_of_id
    (filed : Filed trading handed)
    {first second : Venue.Dispatch}
    (listed : first ∈ handed)
    (alsoListed : second ∈ handed)
    (same : first.id = second.id) :
    first = second :=
  List.inj_on_of_nodup_map filed.nodup_ids listed alsoListed same

theorem Filed.mem_handed
    (filed : Filed trading handed)
    {dispatch : Venue.Dispatch}
    (member : dispatch ∈ trading.unanswered) :
    dispatch ∈ handed :=
  filed.received.subset member

theorem Filed.nodup
    (filed : Filed trading handed) :
    trading.unanswered.Nodup :=
  (List.Nodup.of_map _ filed.nodup_ids).sublist filed.received

/-- The order that works under a name is that of the dispatch. -/
theorem Filed.order_eq
    (filed : Filed trading handed)
    {symbol : Symbol}
    {order : Desk.WorkingOrder}
    (working :
      trading.session.desk.working.find? symbol = some order)
    {dispatch : Venue.Dispatch}
    (listed : dispatch ∈ handed)
    (named : order.dispatch = dispatch.id) :
    dispatch.symbol = symbol ∧ order.order = dispatch.order := by
  rcases filed.carried working with ⟨known, member, about, carries⟩
  have same : known = dispatch :=
    filed.eq_of_id member listed (carries.id.symm.trans named)
  subst same
  exact ⟨about, carries.asked⟩

theorem Filed.isEntry_of_withdrawn
    (filed : Filed trading handed)
    {dispatch : Venue.Dispatch}
    (listed : dispatch ∈ handed)
    (withdrawn : dispatch.id ∈ trading.withdrawn) :
    dispatch.order.isEntry = true := by
  rcases filed.entries _ withdrawn with ⟨entry, member, same, kind⟩
  rw [← filed.eq_of_id member listed same]
  exact kind

/-- An order that is not answered is not reported as filled. -/
theorem Filed.unfilled
    (filed : Filed trading handed)
    {report : Venue.Report}
    (pending : report ∈ trading.pending)
    {dispatch : Venue.Dispatch}
    (owed : dispatch ∈ trading.unanswered)
    (named : dispatch.id = report.dispatch)
    (quantity price : Decimal) :
    report.outcome ≠ .filled quantity price := by
  rcases filed.reported report pending with ⟨known, member, about, withdrawn⟩
  have same : known = dispatch :=
    filed.eq_of_id member (filed.mem_handed owed) (about.trans named.symm)
  subst same
  rcases (withdrawn owed).2 with ⟨reason, cancelled⟩
  rw [cancelled]
  exact nofun

/-- What is handed over has a new name. -/
theorem Filed.fresh
    (filed : Filed trading handed)
    {after : Desk}
    {outbox : List Venue.Dispatch}
    (issues : Issues trading.session.desk after outbox)
    {dispatch known : Venue.Dispatch}
    (new : dispatch ∈ outbox)
    (listed : known ∈ handed) :
    dispatch.id ≠ known.id := by
  intro same
  have counted : known.id ∈ handed.map Venue.Dispatch.id :=
    List.mem_map_of_mem listed
  rw [filed.numbered] at counted
  rcases List.mem_map.mp counted with ⟨serial, within, named⟩
  rcases issues.serial new with ⟨number, numbered, above, _⟩
  rw [List.mem_range'_1] at within
  rw [← named, numbered, DispatchId.issued.injEq] at same
  omega

theorem filed_beginning
    {session : Session}
    (working : session.desk.working = OrderedMap.empty)
    (issued : session.desk.issued = 0) :
    Filed (beginning session) [] where
  numbered := by
    show _ = (List.range' 1 session.desk.issued).map _
    rw [issued]
    rfl
  received := List.Sublist.refl _
  carried {symbol order} found := by
    have known : session.desk.working.find? symbol = some order := found
    simp [working] at known
  aimed listed := by simp at listed
  entries _ listed := by simp [beginning] at listed
  reported _ listed := by simp [beginning] at listed
  works _ listed := by simp [beginning] at listed

/-- The books do not speak of what the venue holds. -/
theorem Filed.beside
    (filed : Filed trading handed)
    (venue : PaperVenue)
    (misfilled : List DispatchId) :
    Filed
      { trading with session := trading.session.withVenue venue, misfilled }
      handed where
  numbered := filed.numbered
  received := filed.received
  carried := filed.carried
  aimed := filed.aimed
  entries := filed.entries
  reported := filed.reported
  works := filed.works

theorem Filed.issuing
    (filed : Filed trading handed)
    {session : Session}
    {outbox : List Venue.Dispatch}
    (issues : Issues trading.session.desk session.desk outbox)
    (coherent : session.desk.Coherent) :
    Filed
      { trading with
        session
        unanswered := trading.unanswered ++ outbox }
      (handed ++ outbox) := by
  have carried {symbol : Symbol} {order : Desk.WorkingOrder}
      (found : session.desk.working.find? symbol = some order) :
      ∃ dispatch ∈ handed ++ outbox,
        dispatch.symbol = symbol ∧ Carries dispatch order := by
    rcases issues.origin found with
      ⟨known, isCancelled, worked, same⟩ | ⟨dispatch, member, about, carries⟩
    · rcases filed.carried worked with ⟨dispatch, member, about, carries⟩
      subst same
      exact ⟨dispatch, List.mem_append_left _ member, about, carries.id,
        carries.asked⟩
    · exact ⟨dispatch, List.mem_append_right _ member, about, carries⟩
  have numbered :
      (handed ++ outbox).map Venue.Dispatch.id =
        (List.range' 1 session.desk.issued).map DispatchId.issued := by
    rw [List.map_append, filed.numbered, issues.numbered, issues.issued,
      ← List.map_append, Nat.add_comm _ 1, List.range'_append_1]
  constructor
  · exact numbered
  · exact filed.received.append (List.Sublist.refl _)
  · exact carried
  · intro dispatch target listed asked
    rcases List.mem_append.mp listed with earlier | later
    · rcases filed.aimed earlier asked with ⟨entry, member, rest⟩
      exact ⟨entry, List.mem_append_left _ member, rest⟩
    · rcases issues.placed later with ⟨order, working, placed⟩
      have cell := coherent.cell dispatch.symbol
      rw [working] at cell
      cases placed with
      | carried carries =>
        have trades := cell.isSome_admission?
        rw [carries.asked, asked] at trades
        simp [Venue.Order.admission?] at trades
      | cancelling entry aims =>
        rw [asked] at aims
        cases aims
        rcases carried working with ⟨known, member, about, carries⟩
        refine ⟨known, member, carries.id.symm, about, ?_⟩
        rw [← carries.asked]
        exact entry
  · intro id listed
    rcases filed.entries id listed with ⟨entry, member, rest⟩
    exact ⟨entry, List.mem_append_left _ member, rest⟩
  · intro report listed
    rcases filed.reported report listed with ⟨dispatch, member, named, owed⟩
    refine ⟨dispatch, List.mem_append_left _ member, named, ?_⟩
    intro again
    rcases List.mem_append.mp again with earlier | later
    · exact owed earlier
    · exact absurd rfl (filed.fresh issues later member)
  · intro dispatch listed trades valid
    rcases List.mem_append.mp listed with earlier | later
    · rcases filed.works dispatch earlier trades valid with
        ⟨order, working, named⟩
      rcases issues.kept working with ⟨_, isCancelled, stays⟩
      exact ⟨_, stays, named⟩
    · rcases issues.placed later with ⟨order, working, placed⟩
      cases placed with
      | carried carries => exact ⟨order, working, carries.id⟩
      | cancelling _ asked =>
        rw [asked] at trades
        simp [Venue.Order.admission?] at trades

/-- The books stay right when less is on its way. -/
theorem Filed.dropping
    (filed : Filed trading handed)
    {unanswered : List Venue.Dispatch}
    {pending : List Venue.Report}
    (fewer : unanswered.Sublist trading.unanswered)
    (less : pending ⊆ trading.pending) :
    Filed { trading with unanswered, pending } handed where
  numbered := filed.numbered
  received := fewer.trans filed.received
  carried := filed.carried
  aimed := filed.aimed
  entries := filed.entries
  reported report listed := by
    rcases filed.reported report (less listed) with
      ⟨dispatch, member, named, owed⟩
    exact ⟨dispatch, member, named, fun again => owed (fewer.subset again)⟩
  works dispatch listed := filed.works dispatch (fewer.subset listed)

theorem Filed.reporting
    (filed : Filed trading handed)
    {dispatch : Venue.Dispatch}
    (listed : dispatch ∈ handed)
    (answered : dispatch ∉ trading.unanswered)
    {report : Venue.Report}
    (named : report.dispatch = dispatch.id) :
    Filed { trading with pending := trading.pending ++ [report] } handed where
  numbered := filed.numbered
  received := filed.received
  carried := filed.carried
  aimed := filed.aimed
  entries := filed.entries
  reported other among := by
    rcases List.mem_append.mp among with earlier | here
    · exact filed.reported other earlier
    · rw [List.mem_singleton.mp here]
      exact ⟨dispatch, listed, named.symm, fun owed => absurd owed answered⟩
  works := filed.works

theorem Filed.withdrawing
    (filed : Filed trading handed)
    {dispatch : Venue.Dispatch}
    {target : DispatchId}
    (listed : dispatch ∈ handed)
    (asked : dispatch.order = .cancelEntry target) :
    Filed
      { trading with
        withdrawn := trading.withdrawn ++ [target]
        pending :=
          trading.pending ++ [PaperVenue.cancellation dispatch target] }
      handed := by
  rcases filed.aimed listed asked with ⟨entry, member, named, _, kind⟩
  constructor
  · exact filed.numbered
  · exact filed.received
  · exact filed.carried
  · exact filed.aimed
  · intro id among
    rcases List.mem_append.mp among with earlier | here
    · exact filed.entries id earlier
    · rw [List.mem_singleton.mp here]
      exact ⟨entry, member, named, kind⟩
  · intro report among
    rcases List.mem_append.mp among with earlier | here
    · rcases filed.reported report earlier with ⟨known, one, two, owed⟩
      refine ⟨known, one, two, fun again => ?_⟩
      rcases owed again with ⟨gone, cancelled⟩
      exact ⟨List.mem_append_left _ gone, cancelled⟩
    · rw [List.mem_singleton.mp here]
      refine ⟨entry, member, named, fun _ => ⟨?_, _, rfl⟩⟩
      rw [named]
      exact List.mem_append_right _ (List.mem_singleton_self _)
  · intro known owed trades valid
    exact filed.works known owed trades fun entry among =>
      valid entry (List.mem_append_left _ among)

/-- Once a report was taken the books are still right. -/
theorem Filed.taking
    (filed : Filed trading handed)
    {report : Venue.Report}
    (pending : report ∈ trading.pending)
    (session : Session)
    (issued : session.desk.issued = trading.session.desk.issued)
    (only : ∀ {symbol order},
      session.desk.working.find? symbol = some order →
        trading.session.desk.working.find? symbol = some order)
    (others : ∀ {symbol order},
      trading.session.desk.working.find? symbol = some order →
        session.desk.working.find? symbol = some order ∨
          order.dispatch = report.dispatch) :
    Filed { trading with session } handed where
  numbered := by
    show _ = (List.range' 1 session.desk.issued).map _
    rw [issued]
    exact filed.numbered
  received := filed.received
  carried found := filed.carried (only found)
  aimed := filed.aimed
  entries := filed.entries
  reported := filed.reported
  works dispatch owed trades valid := by
    rcases filed.works dispatch owed trades valid with
      ⟨order, working, named⟩
    rcases others working with stays | gone
    · exact ⟨order, stays, named⟩
    · -- what the report speaks of is an entry that was withdrawn
      rcases filed.reported report pending with
        ⟨known, member, about, withdrawn⟩
      have listed := filed.mem_handed owed
      have same : known = dispatch :=
        filed.eq_of_id member listed (about.trans (gone.symm.trans named))
      subst same
      have withdrawn := (withdrawn owed).1
      exact absurd withdrawn
        (valid (filed.isEntry_of_withdrawn listed withdrawn))

end Filed

end Trading

end MandateDesk
