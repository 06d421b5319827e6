import MandateDesk.Proofs.Cycles

/-!
# How orders leave a desk

A desk numbers the orders that it hands over, one after another.  What it hands
over works from then on, or asks for a working entry to be cancelled; whatever
works already goes on, and the position that it works for stays as it is.
`Issues` says this of two desks and the orders between them.  It holds of one
ruling, of orders that are handed over again, and therefore of whole cycles.

A cycle changes nothing that is held: it only marks what is to be entered,
reduced or closed.
-/

namespace MandateDesk

/-- What a position holds: its direction and its quantity. -/
def Position.exposure?
    (position : Position) :
    Option (Option Direction × Decimal) :=
  if position.state.hasExposure then
    some (position.direction, position.quantity)
  else none

/-- What is held of a symbol according to a book. -/
def Book.exposure?
    (book : Book)
    (symbol : Symbol) :
    Option (Option Direction × Decimal) :=
  (book.get? symbol).bind Position.exposure?

theorem Book.exposure?_of_get?
    {book : Book}
    {symbol : Symbol}
    {position : Position}
    (found : book.get? symbol = some position) :
    book.exposure? symbol = position.exposure? := by
  simp [exposure?, found]

theorem Book.exposure?_moved
    (book : Book)
    (symbol other : Symbol)
    (position : Position) :
    (book.moved symbol position).exposure? other =
      if other = symbol then position.exposure?
      else book.exposure? other := by
  unfold exposure?
  rw [get?_moved]
  split <;> rfl

namespace Desk

open Reservation (Receipt Token)

/-- On a coherent desk an order works only for a position that waits for it. -/
theorem Coherent.working_eq_none
    {desk : Desk}
    (coherent : desk.Coherent)
    {symbol : Symbol}
    (idle : (desk.book.stateOf symbol).hasPendingOrder = false) :
    desk.working.find? symbol = none := by
  have cell := coherent.cell symbol
  cases found : desk.book.get? symbol with
  | none =>
    rw [found] at cell
    exact cell.unseen_of_none.2
  | some position =>
    rw [found] at cell
    rw [Book.stateOf_of_get? found] at idle
    generalize desk.reservations.ticketOf symbol = ticket at cell
    generalize desk.working.find? symbol = working at cell
    cases cell with
    | resting => rfl
    | entering _ state | reducing _ state | closing _ state =>
      simp [state, Position.State.hasPendingOrder] at idle

/-- No order works for a position that is open. -/
theorem Coherent.working_eq_none_of_opened
    {desk : Desk}
    (coherent : desk.Coherent)
    {symbol : Symbol}
    {position : Position}
    (found : desk.book.get? symbol = some position)
    (state : position.state = .opened) :
    desk.working.find? symbol = none := by
  refine coherent.working_eq_none ?_
  rw [Book.stateOf_of_get? found, state]
  rfl

/-! ## Orders between two desks -/

/-- A working order is the one that a dispatch carried. -/
structure Carries (dispatch : Venue.Dispatch) (order : WorkingOrder) :
    Prop where
  id : order.dispatch = dispatch.id
  asked : order.order = dispatch.order

/-- What a dispatch has to do with the order that works on its symbol. -/
inductive Placed (dispatch : Venue.Dispatch) (order : WorkingOrder) : Prop where
  /-- It carried the order. -/
  | carried (carries : Carries dispatch order)
  /-- It asks for the order, an entry, to be cancelled. -/
  | cancelling
      (entry : order.order.isEntry = true)
      (asked : dispatch.order = .cancelEntry order.dispatch)

theorem Placed.flagged
    {dispatch : Venue.Dispatch}
    {order : WorkingOrder}
    (placed : Placed dispatch order)
    (isCancelled : Bool) :
    Placed dispatch { order with isCancelled } := by
  cases placed with
  | carried carries => exact .carried ⟨carries.id, carries.asked⟩
  | cancelling entry asked => exact .cancelling entry asked

/-- The orders that a desk hands over on its way to another desk. -/
structure Issues (before after : Desk) (sent : List Venue.Dispatch) :
    Prop where
  /-- The dispatches are counted. -/
  issued : after.issued = before.issued + sent.length
  /-- The dispatches are named by their numbers. -/
  numbered :
    sent.map Venue.Dispatch.id =
      (List.range' (before.issued + 1) sent.length).map DispatchId.issued
  /-- An order that works goes on, and its position waits for it. -/
  kept : ∀ {symbol order},
    before.working.find? symbol = some order →
      after.book.get? symbol = before.book.get? symbol ∧
        ∃ isCancelled,
          after.working.find? symbol = some { order with isCancelled }
  /-- What is handed over works, or cancels what works. -/
  placed : ∀ {dispatch}, dispatch ∈ sent →
    ∃ order, after.working.find? dispatch.symbol = some order ∧
      Placed dispatch order
  /-- What works has worked before or was handed over. -/
  origin : ∀ {symbol order},
    after.working.find? symbol = some order →
      (∃ known isCancelled, before.working.find? symbol = some known ∧
        order = { known with isCancelled }) ∨
      ∃ dispatch ∈ sent, dispatch.symbol = symbol ∧ Carries dispatch order
  /-- What is held stays the same. -/
  exposure : ∀ symbol,
    after.book.exposure? symbol = before.book.exposure? symbol

/-- A change of what is merely kept hands nothing over. -/
theorem issues_of_same
    {before after : Desk}
    (book : after.book = before.book)
    (working : after.working = before.working)
    (issued : after.issued = before.issued) :
    Issues before after [] where
  issued := issued
  numbered := rfl
  kept {symbol order} found := by
    rw [book, working]
    exact ⟨rfl, order.isCancelled, found⟩
  placed member := by simp at member
  origin {symbol order} found := by
    rw [working] at found
    exact Or.inl ⟨order, order.isCancelled, found, rfl⟩
  exposure symbol := by rw [book]

theorem Issues.trans
    {first second third : Desk}
    {sent later : List Venue.Dispatch}
    (before : Issues first second sent)
    (after : Issues second third later) :
    Issues first third (sent ++ later) where
  issued := by
    rw [after.issued, before.issued, List.length_append, Nat.add_assoc]
  numbered := by
    rw [List.map_append, before.numbered, after.numbered, before.issued,
      ← List.map_append, List.length_append, Nat.add_right_comm,
      List.range'_append_1]
  -- a flag may change twice on the way, which the two steps hide
  kept found := by
    rcases before.kept found with ⟨stays, _, working⟩
    rcases after.kept working with ⟨remains, isCancelled, working⟩
    exact ⟨remains.trans stays, isCancelled, working⟩
  placed {dispatch} member := by
    rcases List.mem_append.mp member with here | there
    · rcases before.placed here with ⟨order, working, placed⟩
      rcases after.kept working with ⟨_, isCancelled, works⟩
      exact ⟨_, works, placed.flagged isCancelled⟩
    · exact after.placed there
  origin found := by
    rcases after.origin found with
      ⟨known, isCancelled, worked, same⟩ | ⟨dispatch, member, about, carries⟩
    · rcases before.origin worked with
        ⟨first, _, working, kept⟩ | ⟨dispatch, member, about, carries⟩
      · subst kept same
        exact Or.inl ⟨first, isCancelled, working, rfl⟩
      · refine Or.inr
          ⟨dispatch, List.mem_append_left _ member, about, ?_⟩
        subst same
        exact ⟨carries.id, carries.asked⟩
    · exact Or.inr
        ⟨dispatch, List.mem_append_right _ member, about, carries⟩
  exposure symbol := (after.exposure symbol).trans (before.exposure symbol)

/-- An order that is launched where none works is handed over. -/
theorem issues_launched
    {desk changed : Desk}
    {action : Action}
    (order : Venue.Order)
    (token : Option Token)
    (reservation : Option Receipt)
    (vacant : desk.working.find? action.symbol = none)
    (working : changed.working = desk.working)
    (issued : changed.issued = desk.issued)
    (elsewhere : ∀ other, other ≠ action.symbol →
      changed.book.get? other = desk.book.get? other)
    (held :
      changed.book.exposure? action.symbol =
        desk.book.exposure? action.symbol) :
    Issues desk (changed.launched action.symbol order token)
      [desk.issue action order reservation] where
  issued := by
    show changed.issued + 1 = _
    rw [issued]
    rfl
  numbered := rfl
  kept {symbol known} found := by
    have apart : symbol ≠ action.symbol := by
      rintro rfl
      rw [vacant] at found
      contradiction
    refine ⟨elsewhere symbol apart, known.isCancelled, ?_⟩
    rw [find?_working_launched, if_neg apart, working]
    exact found
  placed member := by
    rw [List.mem_singleton.mp member]
    refine ⟨_, (find?_working_launched ..).trans (if_pos rfl),
      .carried ⟨?_, rfl⟩⟩
    show DispatchId.issued (changed.issued + 1) = _
    rw [issued]
    rfl
  origin {symbol known} found := by
    rw [find?_working_launched] at found
    split at found
    · rename_i same
      cases found
      refine Or.inr ⟨_, List.mem_singleton_self _, same.symm, ?_, rfl⟩
      show DispatchId.issued (changed.issued + 1) = _
      rw [issued]
      rfl
    · rw [working] at found
      exact Or.inl ⟨known, known.isCancelled, found, rfl⟩
  exposure symbol := by
    by_cases here : symbol = action.symbol
    · rw [here]
      exact held
    · unfold Book.exposure?
      show (changed.book.get? symbol).bind _ = _
      rw [elsewhere symbol here]

/-- A working entry whose cancel is asked for goes on meanwhile. -/
theorem issues_cancelling
    {desk : Desk}
    {action : Action}
    {symbol : Symbol}
    {order : WorkingOrder}
    (about : action.symbol = symbol)
    (working : desk.cancellable? symbol = some order) :
    Issues desk (desk.cancelling symbol order)
      [desk.issue action (.cancelEntry order.dispatch) none] where
  issued := rfl
  numbered := rfl
  kept {other known} found := by
    refine ⟨rfl, ?_⟩
    rw [find?_working_cancelling]
    split
    · rename_i same
      rw [same, (find?_of_cancellable? working).1] at found
      cases found
      exact ⟨true, rfl⟩
    · exact ⟨known.isCancelled, found⟩
  placed member := by
    rw [List.mem_singleton.mp member]
    refine ⟨_, (find?_working_cancelling ..).trans (if_pos about),
      .cancelling (find?_of_cancellable? working).2.2 rfl⟩
  origin {other known} found := by
    rw [find?_working_cancelling] at found
    split at found
    · rename_i same
      cases found
      refine Or.inl ⟨order, true, ?_, rfl⟩
      rw [same]
      exact (find?_of_cancellable? working).1
    · exact Or.inl ⟨known, known.isCancelled, found, rfl⟩
  exposure _ := rfl

/-- A cancel that is turned down hands nothing over. -/
theorem issues_keepEntry
    (desk : Desk)
    (symbol : Symbol)
    (target : DispatchId) :
    Issues desk (desk.keepEntry symbol target) [] := by
  unfold keepEntry
  split
  · exact issues_of_same rfl rfl rfl
  rename_i order found
  split
  · constructor
    · rfl
    · rfl
    · intro other known working
      refine ⟨rfl, ?_⟩
      rw [find?_working_start]
      split
      · rename_i same
        rw [same, found] at working
        cases working
        exact ⟨false, rfl⟩
      · exact ⟨known.isCancelled, working⟩
    · simp
    · intro other known working
      rw [find?_working_start] at working
      split at working
      · rename_i same
        cases working
        rw [same]
        exact Or.inl ⟨order, false, found, rfl⟩
      · exact Or.inl ⟨known, known.isCancelled, working, rfl⟩
    · exact fun _ => rfl
  · exact issues_of_same rfl rfl rfl

/-! ## Rulings, runs and cycles -/

theorem Ruling.issues
    {round : Round}
    {desk after : Desk}
    {action : Action}
    {verdict : Risk.Verdict}
    {outcome : Outcome}
    {sent : List Venue.Dispatch}
    (coherent : desk.Coherent)
    (ruling : Ruling round desk action verdict after outcome sent) :
    Issues desk after sent := by
  cases ruling with
  | idle => exact issues_of_same rfl rfl rfl
  | refused => exact issues_of_same rfl rfl rfl
  | cancelled leaving state working =>
    exact issues_cancelling (symbol_ruled action verdict) working
  | entered wish kind checked unlatched directed state =>
    refine issues_launched _ _ _
      (coherent.working_eq_none (by rw [state]; rfl)) rfl rfl ?_ ?_
    · intro other apart
      rw [Book.get?_moved, if_neg apart]
    · rw [Book.exposure?_moved, if_pos rfl]
      unfold Book.stateOf at state
      unfold Book.exposure?
      cases found : desk.book.get? action.symbol with
      | none => rfl
      | some position =>
        simp only [found] at state
        simp [Position.exposure?, Position.entering, state,
          Position.State.hasExposure]
  | reduced wish kind found state positive =>
    refine issues_launched _ _ _
      (coherent.working_eq_none_of_opened found state) rfl rfl ?_ ?_
    · intro other apart
      rw [Book.get?_moved, if_neg apart]
    · rw [Book.exposure?_moved, if_pos rfl, Book.exposure?_of_get? found]
      simp [Position.exposure?, Position.reducing, Position.touched, state,
        Position.State.hasExposure]
  | exited leaving spent found state =>
    rename_i position registry store tally
    have same := symbol_ruled action verdict
    rw [← same] at found ⊢
    refine issues_launched _ _ _
      (coherent.working_eq_none_of_opened found state) rfl rfl ?_ ?_
    · intro other apart
      rw [Book.get?_moved, if_neg apart]
    · rw [Book.exposure?_moved, if_pos rfl, Book.exposure?_of_get? found]
      simp [Position.exposure?, Position.startClose, Position.touched, state,
        Position.State.hasExposure]

theorem Decided.issues
    {round : Round}
    {agenda : Agenda}
    {symbols : List Symbol}
    {desk last : Desk}
    {decisions : List Decision}
    {sent : List Venue.Dispatch}
    (run : Decided round agenda symbols desk last decisions sent) :
    Issues desk last sent := by
  induction run with
  | nil => exact issues_of_same rfl rfl rfl
  | cons new coherent asked ruling tail hypothesis =>
    rename_i symbol rest desk after outcome sent last decisions later
    have recorded :
        Issues after
          (after.record (decisionOn round agenda desk symbol outcome)) [] :=
      issues_of_same rfl rfl rfl
    exact (ruling.issues coherent).trans (recorded.trans hypothesis)

theorem Resent.issues
    {desk last : Desk}
    {sent : List Venue.Dispatch}
    (resent : Resent desk last sent) :
    Issues desk last sent := by
  induction resent with
  | done => exact issues_of_same rfl rfl rfl
  | @again desk position kind order _ _ _ _ vacant _ _ hypothesis =>
    have handed :
        Issues desk (desk.launched position.symbol order none)
          [desk.issue (resentAction position kind) order none] :=
      @issues_launched desk desk (resentAction position kind) order none none
        vacant rfl rfl (fun _ _ => rfl) rfl
    exact handed.trans hypothesis

section Worked

variable {desk : Desk} {parameters : Parameters} {limits : Risk.Limits}
variable {snapshot : Snapshot} {now : Instant} {turn : Turn}
variable {summary : CycleSummary}

theorem Worked.issues
    (worked : Worked desk parameters limits snapshot now turn summary) :
    Issues desk turn.desk turn.outbox := by
  rcases worked with ⟨expiry, run, resending, served⟩
  rename_i registry expired decided decisions sent last resent reading tally
  have started :
      Issues desk (desk.collected parameters registry now) [] := by
    rcases exists_collected_eq desk parameters registry now with ⟨halt, same⟩
    rw [same]
    exact issues_of_same rfl rfl rfl
  have ended : Issues last { last with reading, tally } [] :=
    issues_of_same rfl rfl rfl
  have passed :=
    started.trans ((run.issues.trans resending.issues).trans ended)
  rw [List.nil_append, List.append_nil] at passed
  exact passed

end Worked

/-- A cycle hands its orders over one after another, however it ends. -/
theorem Coherent.issues_runCycle
    {desk : Desk}
    (coherent : desk.Coherent)
    (parameters : Parameters)
    (limits : Risk.Limits)
    (feed : Feed)
    (now : Instant) :
    Issues desk (desk.runCycle parameters limits feed none now).1.desk
      (desk.runCycle parameters limits feed none now).1.outbox := by
  have cycled := coherent.cycled parameters limits feed now
  generalize (desk.runCycle parameters limits feed none now).1 = turn
    at cycled ⊢
  cases cycled with
  | idle => exact issues_of_same rfl rfl rfl
  | worked worked => exact worked.issues

/-! ## Names of dispatches -/

/-- A dispatch that is handed over has a number that was not used before. -/
theorem Issues.serial
    {before after : Desk}
    {sent : List Venue.Dispatch}
    (issues : Issues before after sent)
    {dispatch : Venue.Dispatch}
    (member : dispatch ∈ sent) :
    ∃ serial, dispatch.id = .issued serial ∧
      before.issued < serial ∧ serial ≤ after.issued := by
  have named : dispatch.id ∈ sent.map Venue.Dispatch.id :=
    List.mem_map_of_mem member
  rw [issues.numbered] at named
  rcases List.mem_map.mp named with ⟨serial, counted, same⟩
  rw [List.mem_range'_1] at counted
  refine ⟨serial, same.symm, by omega, ?_⟩
  rw [issues.issued]
  omega

theorem Issues.nodup_ids
    {before after : Desk}
    {sent : List Venue.Dispatch}
    (issues : Issues before after sent) :
    (sent.map Venue.Dispatch.id).Nodup := by
  rw [issues.numbered]
  have apart : (List.range' (before.issued + 1) sent.length).Nodup :=
    List.nodup_range'
  refine List.pairwise_map.mpr (List.Pairwise.imp ?_ apart)
  intro first second differ same
  exact differ (DispatchId.issued.inj same)

end Desk

end MandateDesk
