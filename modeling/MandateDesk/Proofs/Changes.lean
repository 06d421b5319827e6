import Mathlib.Logic.Relation
import MandateDesk.Proofs.Breakdown

/-!
# The changes that everything is made of

Much can be done to a desk, but its positions, what works, what is saved and
what is numbered change in few ways only.  `Change` lists them, and a desk
`Becomes` another one by any number of them.

A cycle is made of such changes, also where only so many orders can be handed
over and it is stopped in the middle; so is the answer to a report, and so is
each command of a session, whether its venue stands or not.  What every change
keeps is therefore kept by all that a session can be asked to do.
-/

namespace MandateDesk

namespace Desk

open Reservation (Token)

/-- One change of the positions, of what works, is saved or is numbered. -/
inductive Change (desk : Desk) : Desk → Prop where
  /-- Something else changes. -/
  | aside {after}
      (book : after.book = desk.book)
      (working : after.working = desk.working)
      (issued : after.issued = desk.issued)
      (memory : after.store.memory = desk.store.memory)
      (failures :
        after.tally.persistFailures = desk.tally.persistFailures) :
      Change desk after
  /-- A position takes an event, and is saved. -/
  | moved {symbol event now next}
      (applied :
        (desk.book.positionOf symbol now).apply event now = .ok next) :
      Change desk
        (persist { desk with book := desk.book.moved symbol next } symbol)
  /-- An order comes to work for a position. -/
  | launched {symbol}
      (seen : (desk.book.get? symbol).isSome = true)
      (order : Venue.Order)
      (token : Option Token) :
      Change desk (desk.launched symbol order token)
  /-- An order is marked, or its mark is taken off. -/
  | marked {symbol order}
      (working : desk.working.find? symbol = some order)
      (isCancelled : Bool) :
      Change desk (desk.start symbol { order with isCancelled })
  /-- No order works on a symbol any more. -/
  | forgotten (symbol : Symbol) : Change desk (desk.forget symbol)
  /-- A number is given. -/
  | numbered : Change desk { desk with issued := desk.issued + 1 }

/-- Any number of changes. -/
abbrev Becomes : Desk → Desk → Prop :=
  Relation.ReflTransGen Change

theorem inPlace_blank (store : Store) : (blank store).InPlace where
  keyed found := by simp [blank, Book.get?, Book.empty] at found
  seen working := by simp [blank] at working

/-! ## What every change keeps -/

/-- A position that takes an event stays about its symbol. -/
theorem InPlace.symbol_eq
    {desk : Desk}
    (inPlace : desk.InPlace)
    {symbol : Symbol}
    {event : Position.Event}
    {now : Instant}
    {next : Position}
    (applied :
      (desk.book.positionOf symbol now).apply event now = .ok next) :
    next.symbol = symbol := by
  rw [(Position.moves_of_apply applied).symbol_eq]
  unfold Book.positionOf
  cases found : desk.book.get? symbol with
  | none => rfl
  | some position => exact inPlace.keyed found

theorem working_persist
    (desk : Desk)
    (symbol : Symbol) :
    (desk.persist symbol).working = desk.working := by
  rcases exists_persist_eq desk symbol with ⟨store, tally, saved⟩
  rw [saved]

theorem issued_persist
    (desk : Desk)
    (symbol : Symbol) :
    (desk.persist symbol).issued = desk.issued := by
  rcases exists_persist_eq desk symbol with ⟨store, tally, saved⟩
  rw [saved]

section Change

variable {desk after : Desk}

/-- A symbol that the book knows is never dropped. -/
theorem Change.seen
    (change : Change desk after)
    {symbol : Symbol}
    (seen : (desk.book.get? symbol).isSome = true) :
    (after.book.get? symbol).isSome = true := by
  cases change with
  | aside book =>
    rw [book]
    exact seen
  | moved =>
    rw [book_persist, Book.get?_moved]
    split
    · rfl
    · exact seen
  | launched => exact seen
  | marked => exact seen
  | forgotten => exact seen
  | numbered => exact seen

theorem Becomes.seen
    (becomes : Becomes desk after)
    {symbol : Symbol}
    (seen : (desk.book.get? symbol).isSome = true) :
    (after.book.get? symbol).isSome = true := by
  induction becomes with
  | refl => exact seen
  | tail _ change hypothesis => exact change.seen hypothesis

theorem Change.inPlace
    (change : Change desk after)
    (inPlace : desk.InPlace) :
    after.InPlace := by
  constructor
  · intro symbol position found
    cases change with
    | aside book =>
      rw [book] at found
      exact inPlace.keyed found
    | moved applied =>
      rw [book_persist, Book.get?_moved] at found
      split at found
      · rename_i here
        cases found
        exact (inPlace.symbol_eq applied).trans here.symm
      · exact inPlace.keyed found
    | launched => exact inPlace.keyed found
    | marked => exact inPlace.keyed found
    | forgotten => exact inPlace.keyed found
    | numbered => exact inPlace.keyed found
  · intro symbol order working
    refine change.seen ?_
    cases change with
    | aside _ same =>
      rw [same] at working
      exact inPlace.seen working
    | moved =>
      rw [working_persist] at working
      exact inPlace.seen working
    | launched seen =>
      rw [find?_working_launched] at working
      split at working
      · rename_i here
        rw [here]
        exact seen
      · exact inPlace.seen working
    | marked known =>
      rw [find?_working_start] at working
      split at working
      · rename_i here
        rw [here]
        exact inPlace.seen known
      · exact inPlace.seen working
    | forgotten =>
      rw [find?_working_forget] at working
      split at working
      · contradiction
      · exact inPlace.seen working
    | numbered => exact inPlace.seen working

theorem Becomes.inPlace
    (becomes : Becomes desk after)
    (inPlace : desk.InPlace) :
    after.InPlace := by
  induction becomes with
  | refl => exact inPlace
  | tail _ change hypothesis => exact change.inPlace hypothesis

/-- What changes aside, changes once. -/
theorem becomes_aside
    (book : after.book = desk.book)
    (working : after.working = desk.working)
    (issued : after.issued = desk.issued)
    (memory : after.store.memory = desk.store.memory)
    (failures :
      after.tally.persistFailures = desk.tally.persistFailures) :
    Becomes desk after :=
  .single (.aside book working issued memory failures)

end Change

/-! ## Events and withdrawals -/

/-- A known position takes an event or not; a new one is to take it. -/
theorem becomes_apply
    {desk : Desk}
    {symbol : Symbol}
    {event : Position.Event}
    {now : Instant}
    (takes :
      (desk.book.get? symbol).isSome = true ∨
        ∃ next,
          (desk.book.positionOf symbol now).apply event now = .ok next) :
    Becomes desk (desk.apply symbol event now).1 := by
  cases applied : (desk.book.positionOf symbol now).apply event now with
  | ok next =>
    unfold Desk.apply
    rw [Book.apply_of_ok applied]
    exact .single (.moved applied)
  | error fault =>
    rcases takes with seen | ⟨next, taken⟩
    · rcases Option.isSome_iff_exists.mp seen with ⟨position, found⟩
      rw [Book.positionOf_of_get? found] at applied
      rw [apply_of_error found applied]
    · rw [applied] at taken
      contradiction

/-- A symbol whose position took an event is known to the book. -/
theorem seen_of_apply
    {desk next : Desk}
    {symbol : Symbol}
    {event : Position.Event}
    {now : Instant}
    {transition : Position.Transition}
    (applied : desk.apply symbol event now = (next, .ok transition)) :
    (next.book.get? symbol).isSome = true := by
  cases taken : (desk.book.positionOf symbol now).apply event now with
  | ok position =>
    rcases apply_of_ok desk symbol taken with ⟨store, tally, same⟩
    rw [same] at applied
    cases applied
    simp [Book.get?_moved]
  | error fault =>
    unfold Desk.apply at applied
    rw [Book.apply_of_error taken] at applied
    cases applied

theorem becomes_withdraw
    (desk : Desk)
    (symbol : Symbol) :
    Becomes desk (desk.withdraw symbol) := by
  rcases withdraw_cases desk symbol with ⟨_, same⟩ | ⟨_, same⟩ <;> rw [same]
  exact .tail (.single (.forgotten symbol)) (.aside rfl rfl rfl rfl rfl)

/-- Spending the mandate behind an action changes nothing but the registry. -/
theorem exists_consume_eq
    {desk spent : Desk}
    {action : Action}
    (consumed : desk.consume action = .ok spent) :
    ∃ registry, spent = { desk with registry } := by
  unfold consume at consumed
  split at consumed
  · cases consumed
    exact ⟨desk.registry, rfl⟩
  · split at consumed
    · contradiction
    · cases consumed
      exact ⟨_, rfl⟩

/-- Refusing an action changes nothing but the registry. -/
theorem exists_refuse_eq
    (desk : Desk)
    (action : Action) :
    ∃ registry, desk.refuse action = { desk with registry } := by
  unfold refuse
  split
  · exact ⟨desk.registry, rfl⟩
  · split
    · exact ⟨desk.registry, rfl⟩
    · exact ⟨_, rfl⟩

theorem becomes_spend
    {desk : Desk}
    {action : Action}
    {event : Position.Event}
    {now : Instant}
    (takes :
      (desk.book.get? action.symbol).isSome = true ∨
        ∃ next,
          (desk.book.positionOf action.symbol now).apply event now =
            .ok next) :
    Becomes desk (desk.spend action event now).1 := by
  unfold spend
  split
  · exact .refl
  · rename_i spent consumed
    rcases exists_consume_eq consumed with ⟨registry, rfl⟩
    have settled : Becomes desk { desk with registry } :=
      becomes_aside rfl rfl rfl rfl rfl
    have applied :=
      @becomes_apply { desk with registry } action.symbol event now takes
    generalize Desk.apply _ action.symbol event now = result at applied
    rcases result with ⟨next, fault | transition⟩ <;>
      exact settled.trans applied

theorem seen_of_spend
    {desk next : Desk}
    {action : Action}
    {event : Position.Event}
    {now : Instant}
    (spent : desk.spend action event now = (next, .ok ())) :
    (next.book.get? action.symbol).isSome = true := by
  unfold spend at spent
  split at spent
  · cases spent
  · split at spent
    · cases spent
    · rename_i applied
      cases spent
      exact seen_of_apply applied

/-! ## Turns -/

/-- A turn that goes on after some changes changes the desk further. -/
theorem becomes_andThen
    {α β : Type}
    {desk : Desk}
    {result : Turn × Except Fault α}
    (first : Becomes desk result.1.desk)
    {next : Turn → α → Turn × Except Fault β}
    (goes : ∀ turn value,
      Becomes desk turn.desk →
        Becomes turn.desk (next turn value).1.desk) :
    Becomes desk (Turn.andThen result next).1.desk := by
  rcases result with ⟨turn, fault | value⟩
  · exact first
  · exact first.trans (goes turn value first)

/-- An order is launched, and withdrawn where there is no room for it. -/
theorem becomes_dispatch
    {turn : Turn}
    {action : Action}
    (seen : (turn.desk.book.get? action.symbol).isSome = true)
    (order : Venue.Order)
    (token : Option Token) :
    Becomes turn.desk (turn.dispatch action order token).1.desk := by
  rcases turn with ⟨desk, outbox, room⟩
  have launched : Becomes desk (desk.launched action.symbol order token) :=
    .single (.launched seen order token)
  cases room with
  | none => exact launched
  | some left =>
    cases left with
    | zero => exact launched.trans (becomes_withdraw _ action.symbol)
    | succ left => exact launched

theorem becomes_requestCancel
    (turn : Turn)
    (action : Action) :
    Becomes turn.desk (turn.requestCancel action).1.desk := by
  rcases turn with ⟨desk, outbox, room⟩
  unfold Turn.requestCancel
  simp only
  split
  · exact .refl
  · rename_i order cancellable
    have asked : Becomes desk (desk.cancelling action.symbol order) :=
      .tail
        (.single (.marked (find?_of_cancellable? cancellable).1 true))
        .numbered
    cases room with
    | none => exact asked
    | some left => cases left <;> exact asked

theorem becomes_carryOut
    {round : Round}
    {action : Action}
    {turn : Turn}
    (seen : (turn.desk.book.get? action.symbol).isSome = true)
    (event : Position.Event)
    (order : Desk → Venue.Order) :
    Becomes turn.desk (carryOut round action event order turn).1.desk := by
  have spent :=
    @becomes_spend turn.desk action event round.now (Or.inl seen)
  unfold carryOut
  generalize turn.desk.spend action event round.now = result at spent
  rcases result with ⟨next, fault | done⟩
  · exact spent
  · exact spent.trans
      (@becomes_dispatch (turn.on next) action (spent.seen seen) (order next)
        none)

theorem becomes_enterWith
    {round : Round}
    {action : Action}
    {turn : Turn}
    (positive : Decimal.zero < action.quantity)
    (direction : Direction)
    (token : Token) :
    Becomes turn.desk
      (enterWith round action direction token turn).1.desk := by
  have takes :
      (turn.desk.book.get? action.symbol).isSome = true ∨
        ∃ next,
          (turn.desk.book.positionOf action.symbol round.now).apply
            (.entryAdmitted direction action.quantity) round.now =
              .ok next := by
    cases found : turn.desk.book.get? action.symbol with
    | some position => exact Or.inl rfl
    | none =>
      refine Or.inr ⟨_, Position.apply_entryAdmitted ?_ direction positive
        round.now⟩
      simp [Book.positionOf, found, Position.flat]
  have spent := becomes_spend takes
  unfold enterWith
  simp only
  split
  · rename_i next fault failed
    rw [failed] at spent
    exact spent.tail (.aside rfl rfl rfl rfl rfl)
  · rename_i next done
    have seen := seen_of_spend done
    rw [done] at spent
    exact spent.trans (@becomes_dispatch (turn.on next) action seen _ _)

theorem becomes_admitEntry
    {round : Round}
    {action : Action}
    {turn : Turn}
    (positive : Decimal.zero < action.quantity) :
    Becomes turn.desk (admitEntry round action turn).1.desk := by
  unfold admitEntry Desk.reserve
  split
  · exact .refl
  split
  · exact .refl
  have reserved (reservations : Reservations) :
      Becomes turn.desk { turn.desk with reservations } :=
    becomes_aside rfl rfl rfl rfl rfl
  generalize turn.desk.reservations.reserve _ _ _ = result
  rcases result with ⟨reservations, conflict | token⟩
  · exact reserved reservations
  · exact (reserved reservations).trans
      (@becomes_enterWith round action
        (turn.on { turn.desk with reservations }) positive _ token)

/-- A position in a state other than flat is known to the book. -/
theorem seen_of_stateOf
    {book : Book}
    {symbol : Symbol}
    (state : book.stateOf symbol ≠ .flat) :
    (book.get? symbol).isSome = true := by
  unfold Book.stateOf at state
  cases found : book.get? symbol with
  | none => simp [found] at state
  | some position => rfl

theorem becomes_close
    {round : Round}
    {action : Action}
    {turn : Turn}
    (state : turn.desk.book.stateOf action.symbol = .opened) :
    Becomes turn.desk (close round action turn).1.desk :=
  becomes_carryOut (seen_of_stateOf (by rw [state]; decide)) _ _

theorem becomes_admitReduce
    (round : Round)
    (action : Action)
    (turn : Turn) :
    Becomes turn.desk (admitReduce round action turn).1.desk := by
  unfold admitReduce
  split
  · exact .refl
  · rename_i held opened
    rcases Option.bind_eq_some_iff.mp opened with ⟨position, found, _⟩
    exact becomes_carryOut (by rw [found]; rfl) _ _

theorem becomes_admitExit
    (round : Round)
    (action : Action)
    (turn : Turn) :
    Becomes turn.desk (admitExit round action turn).1.desk := by
  unfold admitExit
  split
  · exact becomes_requestCancel turn action
  · rename_i state
    exact becomes_close state
  · exact .refl

theorem becomes_forceExit
    (round : Round)
    (action : Action)
    (distance : Decimal)
    (turn : Turn) :
    Becomes turn.desk (forceExit round action distance turn).1.desk := by
  unfold forceExit
  simp only
  split
  · rename_i state
    exact becomes_close state
  · exact becomes_requestCancel turn action
  · exact .refl
  · exact .refl

theorem becomes_admitAction
    {round : Round}
    {action : Action}
    {turn : Turn}
    (positive : action.kind = .entry → Decimal.zero < action.quantity) :
    Becomes turn.desk (admitAction round action turn).1.desk := by
  unfold admitAction
  cases kind : action.kind with
  | entry => exact becomes_admitEntry (positive kind)
  | reduce => exact becomes_admitReduce round action turn
  | exit => exact becomes_admitExit round action turn
  | hold => exact .refl
  | noAction => exact .refl

theorem becomes_refuse
    (desk : Desk)
    (action : Action) :
    Becomes desk (desk.refuse action) := by
  rcases exists_refuse_eq desk action with ⟨registry, same⟩
  rw [same]
  exact becomes_aside rfl rfl rfl rfl rfl

/-- An entry that the gate lets pass asks for something. -/
theorem positive_of_judge
    {round : Round}
    {agenda : Agenda}
    {book : Book}
    {symbol : Symbol}
    (accepted : judge round agenda book symbol = .accept)
    (kind : (agenda.actionOf symbol).kind = .entry) :
    Decimal.zero < (agenda.actionOf symbol).quantity := by
  unfold judge at accepted
  split at accepted
  · contradiction
  unfold Risk.judge at accepted
  split at accepted
  · contradiction
  unfold Risk.judgeAlone at accepted
  rw [if_pos kind] at accepted
  split at accepted
  · rename_i checked
    exact (positive_of_checkEntry checked).1
  · contradiction

theorem becomes_decideSymbol
    (round : Round)
    (agenda : Agenda)
    (symbol : Symbol)
    (turn : Turn) :
    Becomes turn.desk (decideSymbol round agenda symbol turn).1.desk := by
  rw [decideSymbol_eq]
  refine becomes_andThen ?_ fun next outcome _ =>
    becomes_aside rfl rfl rfl rfl rfl
  cases verdict : judge round agenda turn.desk.book symbol with
  | accept => exact becomes_admitAction (positive_of_judge verdict)
  | reject rejection => exact becomes_refuse turn.desk _
  | forceExit about distance => exact becomes_forceExit round _ distance turn

theorem becomes_decideAll
    (round : Round)
    (agenda : Agenda)
    (symbols : List Symbol)
    (turn : Turn) :
    Becomes turn.desk (decideAll round agenda symbols turn).1.desk := by
  induction symbols generalizing turn with
  | nil => exact .refl
  | cons symbol rest hypothesis =>
    rw [decideAll_cons]
    exact becomes_andThen (becomes_decideSymbol round agenda symbol turn)
      fun next decision _ =>
        becomes_andThen (hypothesis next) fun _ _ _ => .refl

theorem becomes_resendOne
    {position : Position}
    {turn : Turn}
    (seen : (turn.desk.book.get? position.symbol).isSome = true) :
    Becomes turn.desk (resendOne position turn).1.desk := by
  unfold resendOne
  split
  · exact .refl
  split
  · exact .refl
  · rename_i kind order pending
    have sent :=
      @becomes_dispatch turn (resentAction position kind) seen order none
    generalize turn.dispatch (resentAction position kind) order none = result
      at sent
    rcases result with ⟨next, fault | id⟩ <;> exact sent

theorem becomes_resendAll
    {positions : List Position}
    {turn : Turn}
    (seen : ∀ position ∈ positions,
      (turn.desk.book.get? position.symbol).isSome = true) :
    Becomes turn.desk (resendAll positions turn).1.desk := by
  induction positions generalizing turn with
  | nil => exact .refl
  | cons position rest hypothesis =>
    rw [resendAll_cons]
    have once := becomes_resendOne (seen position (List.mem_cons_self ..))
    exact becomes_andThen once fun next _ becomes =>
      hypothesis fun other member =>
        becomes.seen (seen other (List.mem_cons_of_mem _ member))

theorem InPlace.becomes_gate
    {turn : Turn}
    (inPlace : turn.desk.InPlace)
    (round : Round)
    (actions : OrderedMap Symbol Action) :
    Becomes turn.desk (gate round actions turn).1.desk := by
  rw [gate_eq]
  refine becomes_andThen (becomes_decideAll _ _ _ turn)
    fun decided _ becomes => ?_
  have kept := becomes.inPlace inPlace
  refine becomes_andThen (becomes_resendAll fun position member => ?_)
    fun resent _ _ => becomes_aside rfl rfl rfl rfl rfl
  rcases (OrderedMap.mem_values_iff _ _).mp member with ⟨symbol, found⟩
  rw [kept.keyed found]
  exact Option.isSome_iff_exists.mpr ⟨position, found⟩

/-! ## Cycles and reports -/

theorem persistFailures_withOutcome
    (tally : Tally)
    (outcome : Outcome) :
    (tally.withOutcome outcome).persistFailures = tally.persistFailures := by
  cases outcome <;> rfl

/-- A cycle that is counted does not count as a failed save. -/
theorem persistFailures_withCycle
    (tally : Tally)
    (summary : CycleSummary) :
    (tally.withCycle summary).persistFailures = tally.persistFailures := by
  have counted (decisions : List Decision) (known : Tally) :
      (decisions.foldl
        (fun known decision => known.withOutcome decision.outcome)
        known).persistFailures = known.persistFailures := by
    induction decisions generalizing known with
    | nil => rfl
    | cons decision rest hypothesis =>
      exact (hypothesis _).trans (persistFailures_withOutcome known _)
  exact counted _ _

theorem becomes_finish
    (summary : CycleSummary)
    (turn : Turn) :
    Becomes turn.desk (finish summary turn).1.desk :=
  becomes_aside rfl rfl rfl rfl (persistFailures_withCycle _ summary)

/-- A cycle is made of changes, however it ends. -/
theorem InPlace.becomes_runCycle
    {desk : Desk}
    (inPlace : desk.InPlace)
    (parameters : Parameters)
    (limits : Risk.Limits)
    (feed : Feed)
    (room : Option Nat)
    (now : Instant) :
    Becomes desk
      (desk.runCycle parameters limits feed room now).1.desk := by
  rcases exists_tripOverdue_eq desk parameters.reservationTimeout now with
    ⟨halt, tripped⟩
  have latched : Becomes desk { desk with halt } :=
    becomes_aside rfl rfl rfl rfl rfl
  unfold runCycle
  simp only [tripped]
  split
  · unfold decideOn
    simp only
    split
    · exact latched
    · rename_i snapshot fresh _ registry expired expiry
      have collected : Becomes desk { desk with halt, registry } :=
        becomes_aside rfl rfl rfl rfl rfl
      have gated :=
        @InPlace.becomes_gate ⟨{ desk with halt, registry }, [], room⟩
          (collected.inPlace inPlace)
          ⟨desk.tally.cycles + 1, snapshot.version,
            ⟨limits, snapshot.account, snapshot.prices⟩, parameters.holder,
            now⟩
          (arbitrate { desk with halt, registry } parameters.aging now)
      simp only [Turn.on]
      generalize gate _ _ _ = result at gated ⊢
      rcases result with ⟨next, fault | decisions⟩
      · exact collected.trans gated
      · exact (collected.trans gated).trans (becomes_finish _ next)
  · exact latched.trans (becomes_finish _ ⟨{ desk with halt }, [], room⟩)

/-- A report changes what it names, whatever it says. -/
theorem InPlace.becomes_settle
    {desk : Desk}
    (inPlace : desk.InPlace)
    (report : Venue.Report)
    (now : Instant) :
    Becomes desk (desk.settle report now).1 := by
  have counted :
      Becomes desk { desk with tally := desk.tally.withReport } :=
    becomes_aside rfl rfl rfl rfl rfl
  unfold Desk.settle
  simp only
  split
  · rename_i named
    refine counted.trans ?_
    unfold settleWorking Desk.conclude
    simp only
    split
    · exact .single (.forgotten _)
    · rename_i event meant
      have seen : (desk.book.get? report.symbol).isSome = true := by
        unfold isWorking at named
        split at named
        · contradiction
        · rename_i order working
          exact inPlace.seen working
      have applied :=
        @becomes_apply { desk with tally := desk.tally.withReport }
          report.symbol event now (Or.inl seen)
      generalize Desk.apply _ _ _ _ = result at applied
      rcases result with ⟨next, fault | transition⟩
      · exact applied
      · simp only
        split
        · exact applied
        · exact applied.trans (becomes_withdraw next report.symbol)
  · exact counted

theorem becomes_keepEntry
    (desk : Desk)
    (symbol : Symbol)
    (target : DispatchId) :
    Becomes desk (desk.keepEntry symbol target) := by
  unfold Desk.keepEntry
  split
  · exact .refl
  · rename_i order working
    split
    · exact .single (.marked working false)
    · exact .refl

end Desk

/-! ## Commands -/

namespace Session

open Desk (Becomes)

theorem becomes_settle
    {session : Session}
    (inPlace : session.desk.InPlace)
    (report : Venue.Report)
    (now : Instant) :
    Becomes session.desk (session.settle report now).1.desk := by
  cases running : session.phase.isRunning with
  | false =>
    rw [settle_of_ended running]
  | true =>
    rcases exists_settle_eq running report now with ⟨halt, phase, settled⟩
    rw [settled]
    exact (inPlace.becomes_settle report now).tail
      (.aside rfl rfl rfl rfl rfl)

theorem becomes_delivering
    (delivery : Delivery)
    (dispatch : Venue.Dispatch) :
    Becomes delivery.session.desk (delivery.next dispatch).session.desk := by
  unfold Delivery.next
  simp only
  split
  · exact .refl
  · split
    · exact Desk.becomes_keepEntry _ _ _
    · exact .refl

theorem becomes_deliver
    {session : Session}
    (inPlace : session.desk.InPlace)
    (outbox : List Venue.Dispatch)
    (now : Instant) :
    Becomes session.desk (session.deliver outbox now).1.desk := by
  refine @deliver_preserves (fun known => Becomes session.desk known.desk)
    (fun {delivery} dispatch becomes =>
      becomes.trans (becomes_delivering delivery dispatch))
    (fun {known} report moment becomes => ?_) session .refl outbox now
  exact becomes.trans
    (becomes_settle (becomes.inPlace inPlace) report moment)

theorem becomes_release
    {session : Session}
    (inPlace : session.desk.InPlace)
    (outbox : List Venue.Dispatch)
    (now : Instant) :
    Becomes session.desk (session.release outbox now).1.desk := by
  unfold release
  split
  · exact becomes_deliver inPlace outbox now
  · split
    · exact .refl
    · exact Desk.becomes_aside rfl rfl rfl rfl rfl

theorem becomes_runCycle
    {session : Session}
    (inPlace : session.desk.InPlace)
    (now : Instant) :
    Becomes session.desk (session.runCycle now).session.desk := by
  unfold Session.runCycle
  split
  · have worked :=
      inPlace.becomes_runCycle session.parameters session.limits session.feed
        session.room now
    generalize session.desk.runCycle _ _ _ _ now = result at worked
    rcases result with ⟨turn, ending⟩
    have concluded :
        Becomes session.desk
          (conclude
            { session with desk := turn.desk, feed := session.feed.read } now
            ending).1.desk := by
      cases ending with
      | done summary => exact worked
      | stopped fault => exact worked.tail (.aside rfl rfl rfl rfl rfl)
      | brokeDown => exact worked
    exact concluded.trans
      (becomes_release (concluded.inPlace inPlace) turn.outbox now)
  · exact .refl

/-- Whatever a session is asked to do is made of changes. -/
theorem becomes_step
    {session : Session}
    (inPlace : session.desk.InPlace)
    (now : Instant)
    (command : Command) :
    Becomes session.desk (session.step now command).session.desk := by
  have aside {after : Desk}
      (same : after = { session.desk with
        registry := after.registry, halt := after.halt, store := after.store })
      (memory : after.store.memory = session.desk.store.memory) :
      Becomes session.desk after := by
    rw [same]
    exact Desk.becomes_aside rfl rfl rfl memory rfl
  cases command with
  | submit mandate =>
    show Becomes session.desk (session.submit mandate).session.desk
    unfold submit
    split
    · exact .refl
    · exact aside rfl rfl
  | cancelSource source => exact aside rfl rfl
  | cycle => exact becomes_runCycle inPlace now
  | report report => exact becomes_settle inPlace report now
  | fill dispatch price =>
    exact @becomes_settle
      (session.withVenue (session.venue.fill dispatch price).1) inPlace _ now
  | fillPartially dispatch quantity price =>
    exact @becomes_settle
      (session.withVenue
        (session.venue.fillPartially dispatch quantity price).1) inPlace _ now
  | reject dispatch reason => exact becomes_settle inPlace _ now
  | publish snapshot => exact .refl
  | refuseNext => exact .refl
  | closeVenue => exact .refl
  | breakVenue => exact .refl
  | failStore isFailing => exact aside rfl rfl
  | halt reason => exact aside rfl rfl
  | clearHalt => exact aside rfl rfl
  | shutDown =>
    show Becomes session.desk session.shutDown.1.desk
    unfold shutDown
    split
    · exact .refl
    · exact .refl

end Session

namespace History

/-- Whatever happens to a session is made of changes. -/
theorem becomes_through
    {history : History}
    (inPlace : history.session.desk.InPlace)
    (commands : List (Instant × Session.Command)) :
    history.session.desk.Becomes (history.through commands).session.desk := by
  induction commands generalizing history with
  | nil => exact .refl
  | cons command rest hypothesis =>
    have once := Session.becomes_step inPlace command.1 command.2
    exact once.trans
      (@hypothesis (history.after command.1 command.2)
        (once.inPlace inPlace))

end History

end MandateDesk
