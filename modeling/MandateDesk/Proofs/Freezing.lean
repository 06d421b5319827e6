import MandateDesk.Proofs.Changes
import MandateDesk.Proofs.Judging

/-!
# Cycles on a halted desk

While the latch is tripped a cycle enters nothing.  `Frozen` says what that
means for the turn of a cycle: whatever leaves the desk is no entry, the
reservations and the latch stay as they are, and what is flat stays flat.  It
holds of each stage of a cycle, on any desk and however many orders can be
handed over: the only stage that could do otherwise is the admission of an
entry, and it looks at the latch first.
-/

namespace MandateDesk

/-- An event that no flat position takes. -/
def Position.Event.SparesFlat (event : Position.Event) : Prop :=
  ∀ {position next : Position} {now : Instant},
    position.apply event now = .ok next → position.state ≠ .flat

theorem Position.sparesFlat_reduceAdmitted
    (quantity : Decimal) :
    (Event.reduceAdmitted quantity).SparesFlat := by
  intro position next now applied
  cases moves_of_apply applied with
  | startReduce state =>
    rw [state]
    decide

theorem Position.sparesFlat_exitAdmitted : Event.exitAdmitted.SparesFlat := by
  intro position next now applied
  cases moves_of_apply applied with
  | startClose state =>
    rw [state]
    decide

theorem Book.stateOf_moved
    (book : Book)
    (symbol other : Symbol)
    (position : Position) :
    (book.moved symbol position).stateOf other =
      if other = symbol then position.state else book.stateOf other := by
  unfold stateOf
  rw [get?_moved]
  by_cases here : other = symbol
  · rw [if_pos here, if_pos here]
  · rw [if_neg here, if_neg here]

/-- A book with a flat position for a new symbol is in the same states. -/
theorem Book.stateOf_holding
    (book : Book)
    (symbol other : Symbol)
    (now : Instant) :
    (book.holding symbol (book.positionOf symbol now)).stateOf other =
      book.stateOf other := by
  have found :
      (book.holding symbol (book.positionOf symbol now)).get? other =
        if other = symbol then some (book.positionOf symbol now)
        else book.get? other :=
    OrderedMap.find?_insert _ _ _ _
  by_cases here : other = symbol
  · rw [if_pos here] at found
    rw [stateOf_of_get? found, state_positionOf, here]
  · rw [if_neg here] at found
    unfold stateOf
    rw [found]

namespace Desk

/-- A turn that has entered nothing since. -/
structure Frozen (before after : Turn) : Prop where
  halt : after.desk.halt = before.desk.halt
  reservations : after.desk.reservations = before.desk.reservations
  flat : ∀ {symbol},
    before.desk.book.stateOf symbol = .flat →
      after.desk.book.stateOf symbol = .flat
  entryless : ∃ sent, after.outbox = before.outbox ++ sent ∧
    ∀ dispatch ∈ sent, dispatch.order.isEntry = false

theorem Frozen.refl (turn : Turn) : Frozen turn turn :=
  ⟨rfl, rfl, id, [], (List.append_nil _).symm, fun _ member => by
    simp at member⟩

theorem Frozen.trans
    {first second third : Turn}
    (before : Frozen first second)
    (after : Frozen second third) :
    Frozen first third where
  halt := after.halt.trans before.halt
  reservations := after.reservations.trans before.reservations
  flat state := after.flat (before.flat state)
  entryless := by
    rcases before.entryless with ⟨sent, outbox, entryless⟩
    rcases after.entryless with ⟨later, extended, others⟩
    refine ⟨sent ++ later, ?_, ?_⟩
    · rw [extended, outbox, List.append_assoc]
    · intro dispatch member
      rcases List.mem_append.mp member with here | there
      · exact entryless dispatch here
      · exact others dispatch there

/-- A turn in which nothing is handed over and no flat position moves. -/
theorem frozen_on
    {turn : Turn}
    {desk : Desk}
    (halt : desk.halt = turn.desk.halt)
    (reservations : desk.reservations = turn.desk.reservations)
    (flat : ∀ {symbol},
      turn.desk.book.stateOf symbol = .flat →
        desk.book.stateOf symbol = .flat) :
    Frozen turn (turn.on desk) :=
  ⟨halt, reservations, flat, [], (List.append_nil _).symm, fun _ member => by
    simp at member⟩

theorem frozen_andThen
    {α β : Type}
    {turn : Turn}
    {result : Turn × Except Fault α}
    (first : Frozen turn result.1)
    {next : Turn → α → Turn × Except Fault β}
    (goes : ∀ known value,
      Frozen turn known → Frozen known (next known value).1) :
    Frozen turn (Turn.andThen result next).1 := by
  rcases result with ⟨known, fault | value⟩
  · exact first
  · exact first.trans (goes known value first)

/-! ## Stages that enter nothing -/

theorem exists_apply_eq
    {event : Position.Event}
    (spares : event.SparesFlat)
    (desk : Desk)
    (symbol : Symbol)
    (now : Instant) :
    ∃ book store tally,
      (desk.apply symbol event now).1 = { desk with book, store, tally } ∧
        ∀ {other}, desk.book.stateOf other = .flat →
          book.stateOf other = .flat := by
  cases applied : (desk.book.positionOf symbol now).apply event now with
  | ok next =>
    rcases apply_of_ok desk symbol applied with ⟨store, tally, same⟩
    refine ⟨_, store, tally, congrArg Prod.fst same, fun {other} state => ?_⟩
    have exposed := spares applied
    rw [Book.state_positionOf] at exposed
    rw [Book.stateOf_moved]
    split
    · rename_i here
      rw [← here] at exposed
      exact absurd state exposed
    · exact state
  | error fault =>
    unfold Desk.apply
    rw [Book.apply_of_error applied]
    refine ⟨_, desk.store, desk.tally, rfl, fun state => ?_⟩
    rw [Book.stateOf_holding]
    exact state

theorem frozen_spend
    {event : Position.Event}
    (spares : event.SparesFlat)
    (turn : Turn)
    (action : Action)
    (now : Instant) :
    Frozen turn (turn.on (turn.desk.spend action event now).1) := by
  unfold spend
  split
  · exact .refl turn
  · rename_i spent consumed
    rcases exists_consume_eq consumed with ⟨registry, rfl⟩
    rcases
        exists_apply_eq spares { turn.desk with registry } action.symbol
          now with
      ⟨book, store, tally, same, flat⟩
    generalize Desk.apply _ _ _ _ = result at same
    rcases result with ⟨next, fault | transition⟩ <;> cases same <;>
      exact frozen_on rfl rfl flat

/-- An order without reservation leaves the desk, or is withdrawn. -/
theorem frozen_dispatch
    (turn : Turn)
    (action : Action)
    {order : Venue.Order}
    (other : order.isEntry = false) :
    Frozen turn (turn.dispatch action order none).1 := by
  rcases turn with ⟨desk, outbox, room⟩
  have launched (room : Option Nat) :
      Frozen ⟨desk, outbox, room⟩
        ⟨desk.launched action.symbol order none,
          outbox ++ [desk.issue action order none], room⟩ :=
    ⟨rfl, rfl, id, _, rfl, fun dispatch member => by
      rw [List.mem_singleton.mp member]
      exact other⟩
  cases room with
  | none => exact launched none
  | some left =>
    cases left with
    | succ left => exact ⟨rfl, rfl, id, (launched none).entryless⟩
    | zero =>
      have found :
          (desk.launched action.symbol order none).working.find?
              action.symbol =
            some ⟨desk.nextDispatch, order, none, false⟩ :=
        (find?_working_launched ..).trans (if_pos rfl)
      have withdrawn := withdraw_of_no_token found rfl
      exact @frozen_on ⟨desk, outbox, some 0⟩
        ((desk.launched action.symbol order none).withdraw action.symbol)
        (by rw [withdrawn]; rfl) (by rw [withdrawn]; rfl)
        (by rw [withdrawn]; exact id)

theorem frozen_requestCancel
    (turn : Turn)
    (action : Action) :
    Frozen turn (turn.requestCancel action).1 := by
  rcases turn with ⟨desk, outbox, room⟩
  unfold Turn.requestCancel
  simp only
  split
  · exact .refl _
  · rename_i order cancellable
    have sent :
        ∃ sent, outbox ++
            [desk.issue action (.cancelEntry order.dispatch) none] =
          outbox ++ sent ∧
          ∀ dispatch ∈ sent, dispatch.order.isEntry = false :=
      ⟨_, rfl, entryless_singleton rfl⟩
    cases room with
    | none => exact ⟨rfl, rfl, id, sent⟩
    | some left =>
      cases left with
      | succ left => exact ⟨rfl, rfl, id, sent⟩
      | zero => exact frozen_on rfl rfl id

theorem frozen_carryOut
    (round : Round)
    (action : Action)
    {event : Position.Event}
    (spares : event.SparesFlat)
    {order : Desk → Venue.Order}
    (other : ∀ desk, (order desk).isEntry = false)
    (turn : Turn) :
    Frozen turn (carryOut round action event order turn).1 := by
  have spent := frozen_spend spares turn action round.now
  unfold carryOut
  generalize turn.desk.spend action event round.now = result at spent
  rcases result with ⟨next, fault | done⟩
  · exact spent
  · exact spent.trans (frozen_dispatch (turn.on next) action (other next))

theorem frozen_close
    (round : Round)
    (action : Action)
    (turn : Turn) :
    Frozen turn (close round action turn).1 :=
  frozen_carryOut round action Position.sparesFlat_exitAdmitted
    (fun _ => rfl) turn

theorem frozen_admitReduce
    (round : Round)
    (action : Action)
    (turn : Turn) :
    Frozen turn (admitReduce round action turn).1 := by
  unfold admitReduce
  split
  · exact .refl turn
  · exact frozen_carryOut round action
      (Position.sparesFlat_reduceAdmitted _) (fun _ => rfl) turn

theorem frozen_admitExit
    (round : Round)
    (action : Action)
    (turn : Turn) :
    Frozen turn (admitExit round action turn).1 := by
  unfold admitExit
  split
  · exact frozen_requestCancel turn action
  · exact frozen_close round action turn
  · exact .refl turn

theorem frozen_forceExit
    (round : Round)
    (action : Action)
    (distance : Decimal)
    (turn : Turn) :
    Frozen turn (forceExit round action distance turn).1 := by
  unfold forceExit
  simp only
  split
  · exact frozen_close round action turn
  · exact frozen_requestCancel turn action
  · exact .refl turn
  · exact .refl turn

theorem frozen_resendOne
    (position : Position)
    (turn : Turn) :
    Frozen turn (resendOne position turn).1 := by
  unfold resendOne
  split
  · exact .refl turn
  split
  · exact .refl turn
  · rename_i kind order pending
    have other : order.isEntry = false := by
      rcases pendingOrder?_eq_some pending with ⟨_, rfl⟩ | ⟨_, rfl⟩ <;> rfl
    have sent :=
      frozen_dispatch turn (resentAction position kind) other
    generalize turn.dispatch (resentAction position kind) order none = result
      at sent
    rcases result with ⟨next, fault | id⟩ <;> exact sent

theorem frozen_resendAll
    (positions : List Position)
    (turn : Turn) :
    Frozen turn (resendAll positions turn).1 := by
  induction positions generalizing turn with
  | nil => exact .refl turn
  | cons position rest hypothesis =>
    rw [resendAll_cons]
    exact frozen_andThen (frozen_resendOne position turn)
      fun next _ _ => hypothesis next

/-! ## Decisions under the latch -/

section Halted

variable {turn : Turn}

/-- The latch is looked at before an entry is admitted. -/
theorem admitEntry_of_isHalted
    (halted : turn.desk.halt.isHalted = true)
    (round : Round)
    (action : Action) :
    admitEntry round action turn = (turn, .ok .halted) :=
  if_pos halted

theorem frozen_admitAction
    (halted : turn.desk.halt.isHalted = true)
    (round : Round)
    (action : Action) :
    Frozen turn (admitAction round action turn).1 := by
  unfold admitAction
  cases action.kind with
  | entry =>
    simp only [admitEntry_of_isHalted halted]
    exact .refl turn
  | reduce => exact frozen_admitReduce round action turn
  | exit => exact frozen_admitExit round action turn
  | hold => exact .refl turn
  | noAction => exact .refl turn

theorem frozen_refuse
    (turn : Turn)
    (action : Action) :
    Frozen turn (turn.on (turn.desk.refuse action)) := by
  rcases exists_refuse_eq turn.desk action with ⟨registry, same⟩
  rw [same]
  exact frozen_on rfl rfl id

theorem frozen_decideSymbol
    (halted : turn.desk.halt.isHalted = true)
    (round : Round)
    (agenda : Agenda)
    (symbol : Symbol) :
    Frozen turn (decideSymbol round agenda symbol turn).1 := by
  rw [decideSymbol_eq]
  refine frozen_andThen ?_ fun next outcome _ => frozen_on rfl rfl id
  cases judge round agenda turn.desk.book symbol with
  | accept => exact frozen_admitAction halted round _
  | reject rejection => exact frozen_refuse turn _
  | forceExit about distance => exact frozen_forceExit round _ distance turn

theorem frozen_decideAll
    (halted : turn.desk.halt.isHalted = true)
    (round : Round)
    (agenda : Agenda)
    (symbols : List Symbol) :
    Frozen turn (decideAll round agenda symbols turn).1 := by
  induction symbols generalizing turn with
  | nil => exact .refl turn
  | cons symbol rest hypothesis =>
    rw [decideAll_cons]
    refine frozen_andThen (frozen_decideSymbol halted round agenda symbol)
      fun next decision frozen => ?_
    exact frozen_andThen (hypothesis (frozen.halt ▸ halted))
      fun last decisions _ => .refl last

theorem frozen_gate
    (halted : turn.desk.halt.isHalted = true)
    (round : Round)
    (actions : OrderedMap Symbol Action) :
    Frozen turn (gate round actions turn).1 := by
  rw [gate_eq]
  refine frozen_andThen (frozen_decideAll halted round _ _)
    fun decided decisions _ => ?_
  exact frozen_andThen (frozen_resendAll _ decided)
    fun resent _ _ => frozen_on rfl rfl id

/--
A cycle that starts halted, or is halted by its own check of reservations,
enters nothing.
-/
theorem frozen_runCycle
    {desk : Desk}
    {parameters : Parameters}
    {now : Instant}
    (halted :
      (desk.tripOverdue parameters.reservationTimeout now).halt.isHalted =
        true)
    (limits : Risk.Limits)
    (feed : Feed)
    (room : Option Nat) :
    Frozen ⟨desk.tripOverdue parameters.reservationTimeout now, [], room⟩
      (desk.runCycle parameters limits feed room now).1 := by
  unfold runCycle
  simp only
  split
  · unfold decideOn
    simp only
    split
    · exact .refl _
    · rename_i snapshot fresh _ registry expired expiry
      have collected :
          Frozen
            ⟨desk.tripOverdue parameters.reservationTimeout now, [], room⟩
            ⟨desk.collected parameters registry now, [], room⟩ :=
        frozen_on rfl rfl id
      have gated :=
        @frozen_gate ⟨desk.collected parameters registry now, [], room⟩ halted
          (roundOf (desk.tripOverdue parameters.reservationTimeout now)
            parameters limits snapshot now)
          (arbitrate (desk.collected parameters registry now)
            parameters.aging now)
      unfold Desk.collected at gated collected
      unfold roundOf at gated
      simp only [Turn.on]
      generalize gate _ _ _ = result at gated ⊢
      rcases result with ⟨next, fault | decisions⟩
      · exact collected.trans gated
      · exact (collected.trans gated).trans (frozen_on rfl rfl id)
  · exact frozen_on rfl rfl id

end Halted

end Desk

end MandateDesk
