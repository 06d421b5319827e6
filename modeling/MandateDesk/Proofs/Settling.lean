import MandateDesk.Proofs.Coherence

/-!
# What a report does

A report names an order that works on its symbol, or it is turned down.  The
order that is named was not worked, and then it is forgotten and its position
waits for another one; or the report stands for an event.  A position that
takes the event moves on, and its order is withdrawn.  A position that does not
take it stays as it is, and so does its order.

`Settled` lists these four ways.  Other symbols are never concerned.
-/

namespace MandateDesk.Desk

/-- A position is filed under its own symbol, and an order has a position. -/
structure InPlace (desk : Desk) : Prop where
  keyed : ∀ {symbol position},
    desk.book.get? symbol = some position → position.symbol = symbol
  seen : ∀ {symbol order},
    desk.working.find? symbol = some order →
      (desk.book.get? symbol).isSome = true

theorem Coherent.inPlace
    {desk : Desk}
    (coherent : desk.Coherent) :
    desk.InPlace where
  keyed := coherent.keyed
  seen working := by
    rcases coherent.exists_position working with ⟨position, found⟩
    rw [found]
    rfl

/-- A report names the order that works on its symbol. -/
structure Names
    (desk : Desk)
    (report : Venue.Report)
    (order : WorkingOrder)
    (position : Position) :
    Prop where
  working : desk.working.find? report.symbol = some order
  named : order.dispatch = report.dispatch
  found : desk.book.get? report.symbol = some position

/-- A report names no two positions. -/
theorem Names.position_eq
    {desk : Desk}
    {report : Venue.Report}
    {order other : WorkingOrder}
    {position known : Position}
    (first : Names desk report order position)
    (second : Names desk report other known) :
    position = known :=
  Option.some.inj (first.found.symm.trans second.found)

/-- A report that goes with what works and is held names both. -/
theorem exists_names
    {desk : Desk}
    {symbol : Symbol}
    {dispatch : DispatchId}
    {asked : Venue.Order}
    {state : Position.State}
    {quantity : Decimal}
    (works :
      (desk.working.find? symbol).map
          (fun order => (order.dispatch, order.order)) =
        some (dispatch, asked))
    (held :
      (desk.book.get? symbol).map
          (fun position => (position.state, position.quantity)) =
        some (state, quantity))
    (outcome : Venue.Outcome) :
    ∃ order position,
      Names desk ⟨dispatch, symbol, outcome⟩ order position ∧
        order.order = asked ∧ position.state = state ∧
        position.quantity = quantity := by
  rcases Option.map_eq_some_iff.mp works with ⟨order, working, parts⟩
  rcases Option.map_eq_some_iff.mp held with ⟨position, found, shape⟩
  exact ⟨order, position, ⟨working, congrArg Prod.fst parts, found⟩,
    congrArg Prod.snd parts, congrArg Prod.fst shape,
    congrArg Prod.snd shape⟩

/-- All that a report can do to a desk. -/
inductive Settled (desk : Desk) (report : Venue.Report) (now : Instant) :
    Desk → Except Fault (Option Position.Transition) → Prop where
  /-- It names no order that works. -/
  | unheard
      (unnamed : desk.isWorking report.symbol report.dispatch = false) :
      Settled desk report now
        { desk with tally := desk.tally.withReport }
        (.error (.execution (.notWorking report.dispatch report.symbol)))
  /-- The order was not worked, and the position waits for another one. -/
  | unworked {order position}
      (names : Names desk report order position)
      (meaningless : eventOf? position.state report.outcome = none) :
      Settled desk report now
        (forget { desk with tally := desk.tally.withReport } report.symbol)
        (.ok none)
  /-- The position does not take the event. -/
  | refused {order position event fault}
      (names : Names desk report order position)
      (meant : eventOf? position.state report.outcome = some event)
      (refused : position.apply event now = .error fault) :
      Settled desk report now
        { desk with tally := desk.tally.withReport } (.error fault)
  /-- The position takes the event, and waits for nothing any more. -/
  | answered {order position event next transition after}
      (names : Names desk report order position)
      (meant : eventOf? position.state report.outcome = some event)
      (applied : position.apply event now = .ok next)
      (book : after.book = desk.book.moved report.symbol next)
      (working : ∀ other, after.working.find? other =
        if other = report.symbol then none else desk.working.find? other)
      (issued : after.issued = desk.issued) :
      Settled desk report now after (.ok (some transition))

/-- An order is withdrawn with its reservation, where there is one. -/
theorem withdraw_cases
    (desk : Desk)
    (symbol : Symbol) :
    (∃ reservations,
      desk.withdraw symbol = { desk.forget symbol with reservations }) ∨
    desk.working.find? symbol = none ∧ desk.withdraw symbol = desk := by
  unfold withdraw
  split
  · rename_i vacant
    exact Or.inr ⟨vacant, rfl⟩
  · split
    · exact Or.inl ⟨desk.reservations, rfl⟩
    · exact Or.inl ⟨_, rfl⟩

theorem book_withdraw
    (desk : Desk)
    (symbol : Symbol) :
    (desk.withdraw symbol).book = desk.book := by
  rcases withdraw_cases desk symbol with ⟨_, same⟩ | ⟨_, same⟩ <;> rw [same]
  rfl

theorem issued_withdraw
    (desk : Desk)
    (symbol : Symbol) :
    (desk.withdraw symbol).issued = desk.issued := by
  rcases withdraw_cases desk symbol with ⟨_, same⟩ | ⟨_, same⟩ <;> rw [same]
  rfl

theorem find?_working_withdraw
    (desk : Desk)
    (symbol other : Symbol) :
    (desk.withdraw symbol).working.find? other =
      if other = symbol then none else desk.working.find? other := by
  rcases withdraw_cases desk symbol with ⟨_, same⟩ | ⟨vacant, same⟩
  · rw [same]
    exact find?_working_forget desk symbol other
  · rw [same]
    split
    · rename_i here
      rw [here, vacant]
    · rfl

/-- A position that takes the answer of the venue gives its order back. -/
theorem exists_conclude
    {desk : Desk}
    {symbol : Symbol}
    {position next : Position}
    (found : desk.book.get? symbol = some position)
    {event : Position.Event}
    (answer : event.kind = .filled ∨ event.kind = .failed)
    {now : Instant}
    (applied : position.apply event now = .ok next) :
    ∃ after transition,
      desk.conclude symbol event now = (after, .ok transition) ∧
        after.book = desk.book.moved symbol next ∧
        (∀ other, after.working.find? other =
          if other = symbol then none else desk.working.find? other) ∧
        after.issued = desk.issued := by
  have current := Book.positionOf_of_get? found now
  rcases apply_of_ok desk symbol (by rw [current]; exact applied) with
    ⟨store, tally, saved⟩
  have done : next.state.hasPendingOrder = false := by
    rcases (Position.moves_of_apply applied).state_of_answer answer with
      state | state <;>
      simp [state, Position.State.hasPendingOrder]
  unfold conclude
  simp only [saved, done, Bool.false_eq_true, if_false]
  exact ⟨_, _, rfl, book_withdraw _ symbol, find?_working_withdraw _ symbol,
    issued_withdraw _ symbol⟩

/-- Taking a report does one of the things that are listed. -/
theorem InPlace.settled
    {desk : Desk}
    (inPlace : desk.InPlace)
    (report : Venue.Report)
    (now : Instant) :
    Settled desk report now (desk.settle report now).1
      (desk.settle report now).2 := by
  unfold Desk.settle
  simp only
  cases heard : desk.isWorking report.symbol report.dispatch with
  | false => exact .unheard heard
  | true =>
    simp only [if_true]
    unfold isWorking at heard
    cases working : desk.working.find? report.symbol with
    | none => simp [working] at heard
    | some order =>
      simp only [working, decide_eq_true_eq] at heard
      rcases Option.isSome_iff_exists.mp (inPlace.seen working) with
        ⟨position, found⟩
      have names : Names desk report order position :=
        ⟨working, heard, found⟩
      unfold settleWorking
      simp only [Book.stateOf_of_get? found]
      cases meant : eventOf? position.state report.outcome with
      | none => exact .unworked names meant
      | some event =>
        simp only
        cases applied : position.apply event now with
        | error fault =>
          have left :
              Desk.apply { desk with tally := desk.tally.withReport }
                  report.symbol event now =
                ({ desk with tally := desk.tally.withReport },
                  .error fault) :=
            apply_of_error found applied
          unfold Desk.conclude
          simp only [left]
          exact .refused names meant applied
        | ok next =>
          rcases
              @exists_conclude { desk with tally := desk.tally.withReport }
                report.symbol position next found event
                (kind_of_eventOf? meant) now applied with
            ⟨after, transition, concluded, book, gone, issued⟩
          simp only [concluded]
          exact .answered names meant applied book gone issued

theorem Coherent.settled
    {desk : Desk}
    (coherent : desk.Coherent)
    (report : Venue.Report)
    (now : Instant) :
    Settled desk report now (desk.settle report now).1
      (desk.settle report now).2 :=
  coherent.inPlace.settled report now

section Settled

variable {desk after : Desk} {report : Venue.Report} {now : Instant}
variable {answer : Except Fault (Option Position.Transition)}

theorem Settled.issued
    (settled : Settled desk report now after answer) :
    after.issued = desk.issued := by
  cases settled with
  | unheard => rfl
  | unworked => rfl
  | refused => rfl
  | answered _ _ _ _ _ issued => exact issued

theorem Settled.elsewhere
    (settled : Settled desk report now after answer)
    {symbol : Symbol}
    (apart : symbol ≠ report.symbol) :
    after.book.get? symbol = desk.book.get? symbol ∧
      after.working.find? symbol = desk.working.find? symbol := by
  cases settled with
  | unheard => exact ⟨rfl, rfl⟩
  | unworked =>
    refine ⟨rfl, ?_⟩
    rw [find?_working_forget, if_neg apart]
  | refused => exact ⟨rfl, rfl⟩
  | answered _ _ _ book working =>
    rw [book, working, Book.get?_moved, if_neg apart, if_neg apart]
    exact ⟨rfl, rfl⟩

/-- A report that names nothing that works changes no position. -/
theorem Settled.unnamed
    (settled : Settled desk report now after answer)
    (unnamed : ∀ order,
      desk.working.find? report.symbol = some order →
        order.dispatch ≠ report.dispatch) :
    after.book = desk.book ∧ after.working = desk.working := by
  cases settled with
  | unheard => exact ⟨rfl, rfl⟩
  | unworked names => exact absurd names.named (unnamed _ names.working)
  | refused names => exact absurd names.named (unnamed _ names.working)
  | answered names => exact absurd names.named (unnamed _ names.working)

/-- What works once a report was taken has worked before. -/
theorem Settled.still
    (settled : Settled desk report now after answer)
    {symbol : Symbol}
    {order : WorkingOrder}
    (working : after.working.find? symbol = some order) :
    desk.working.find? symbol = some order ∧
      after.book.get? symbol = desk.book.get? symbol := by
  cases settled with
  | unheard => exact ⟨working, rfl⟩
  | refused => exact ⟨working, rfl⟩
  | unworked =>
    rw [find?_working_forget] at working
    split at working
    · contradiction
    · exact ⟨working, rfl⟩
  | answered _ _ _ book gone =>
    rw [gone] at working
    split at working
    · contradiction
    · rename_i apart
      rw [book, Book.get?_moved, if_neg apart]
      exact ⟨working, rfl⟩

/-- What works goes on, unless the report names it. -/
theorem Settled.kept
    (settled : Settled desk report now after answer)
    {symbol : Symbol}
    {order : WorkingOrder}
    (working : desk.working.find? symbol = some order) :
    after.working.find? symbol = some order ∨
      order.dispatch = report.dispatch := by
  by_cases here : symbol = report.symbol
  · subst here
    have own {known : WorkingOrder} {position : Position}
        (names : Names desk report known position) :
        order.dispatch = report.dispatch := by
      rw [← Option.some.inj (names.working.symm.trans working)]
      exact names.named
    cases settled with
    | unheard => exact Or.inl working
    | unworked names => exact Or.inr (own names)
    | refused names => exact Or.inr (own names)
    | answered names => exact Or.inr (own names)
  · rw [(settled.elsewhere here).2]
    exact Or.inl working

/-- The event that a report stands for is not taken. -/
theorem Settled.turned_down
    (settled : Settled desk report now after answer)
    {order : WorkingOrder}
    {position : Position}
    (names : Names desk report order position)
    {event : Position.Event}
    (meant : eventOf? position.state report.outcome = some event)
    {fault : Fault}
    (refused : position.apply event now = .error fault) :
    after = { desk with tally := desk.tally.withReport } ∧
      answer = .error fault := by
  cases settled with
  | unheard unnamed =>
    simp [isWorking, names.working, names.named] at unnamed
  | unworked known meaningless =>
    rw [known.position_eq names, meant] at meaningless
    contradiction
  | refused known stands refuses =>
    rw [known.position_eq names] at stands refuses
    cases meant.symm.trans stands
    cases refused.symm.trans refuses
    exact ⟨rfl, rfl⟩
  | answered known stands applied =>
    rw [known.position_eq names] at stands applied
    cases meant.symm.trans stands
    cases refused.symm.trans applied

/-- The event that a report stands for is taken. -/
theorem Settled.taken
    (settled : Settled desk report now after answer)
    {order : WorkingOrder}
    {position next : Position}
    (names : Names desk report order position)
    {event : Position.Event}
    (meant : eventOf? position.state report.outcome = some event)
    (applied : position.apply event now = .ok next) :
    after.book = desk.book.moved report.symbol next ∧
      (∀ other, after.working.find? other =
        if other = report.symbol then none else desk.working.find? other) ∧
      ∃ transition, answer = .ok (some transition) := by
  cases settled with
  | unheard unnamed =>
    simp [isWorking, names.working, names.named] at unnamed
  | unworked known meaningless =>
    rw [known.position_eq names, meant] at meaningless
    contradiction
  | refused known stands refuses =>
    rw [known.position_eq names] at stands refuses
    cases meant.symm.trans stands
    cases applied.symm.trans refuses
  | answered known stands applies book working =>
    rw [known.position_eq names] at stands applies
    cases meant.symm.trans stands
    cases applied.symm.trans applies
    exact ⟨book, working, _, rfl⟩

end Settled

end MandateDesk.Desk
