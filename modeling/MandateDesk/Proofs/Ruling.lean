import MandateDesk.Desk.Gate
import MandateDesk.Proofs.Coherence

/-!
# What one decision does

`Ruling` lists all that a decision of the gate can do to a coherent desk: which
check the action has passed, what the desk looks like afterwards, and which
order was handed over.

A ruling keeps the desk coherent, leaves all other symbols alone, and writes
the status of no other mandate than the one behind its action.
-/

namespace MandateDesk

namespace Decimal

theorem lt_min
    {bound first second : Decimal}
    (below : bound < first)
    (under : bound < second) :
    bound < min first second := by
  show bound < if second < first then second else first
  split
  · exact under
  · exact below

theorem min_le_right (first second : Decimal) : min first second ≤ second := by
  show (if second < first then second else first) ≤ second
  split
  · exact le_refl second
  · rename_i within
    exact not_lt.mp within

end Decimal

namespace Desk

open Reservation (Receipt Token)

/-! ## Handing an order over -/

/-- The name of the dispatch that a desk issues next. -/
def nextDispatch (desk : Desk) : DispatchId :=
  .issued (desk.issued + 1)

/-- The dispatch that a desk issues next. -/
def issue
    (desk : Desk)
    (action : Action)
    (order : Venue.Order)
    (reservation : Option Receipt) :
    Venue.Dispatch :=
  ⟨desk.nextDispatch, action.symbol, order, action, reservation⟩

/-- A desk that has handed over an order, which works from then on. -/
def launched
    (desk : Desk)
    (symbol : Symbol)
    (order : Venue.Order)
    (token : Option Token) :
    Desk :=
  { desk.start symbol ⟨desk.nextDispatch, order, token, false⟩ with
    issued := desk.issued + 1 }

theorem find?_working_launched
    (desk : Desk)
    (symbol other : Symbol)
    (order : Venue.Order)
    (token : Option Token) :
    (desk.launched symbol order token).working.find? other =
      if other = symbol then some ⟨desk.nextDispatch, order, token, false⟩
      else desk.working.find? other :=
  OrderedMap.find?_insert _ _ _ _

/-- A desk that has asked for an entry to be cancelled. -/
def cancelling
    (desk : Desk)
    (symbol : Symbol)
    (order : WorkingOrder) :
    Desk :=
  { desk.start symbol { order with isCancelled := true } with
    issued := desk.issued + 1 }

theorem find?_working_cancelling
    (desk : Desk)
    (symbol other : Symbol)
    (order : WorkingOrder) :
    (desk.cancelling symbol order).working.find? other =
      if other = symbol then some { order with isCancelled := true }
      else desk.working.find? other :=
  OrderedMap.find?_insert _ _ _ _

/-- As long as there is room, an order is handed over. -/
theorem dispatch_of_live
    (desk : Desk)
    (outbox : List Venue.Dispatch)
    (action : Action)
    (order : Venue.Order)
    (token : Option Token) :
    Turn.dispatch ⟨desk, outbox, none⟩ action order token =
      (⟨desk.launched action.symbol order token,
          outbox ++ [desk.issue action order (token.map Token.receipt)],
          none⟩,
        .ok desk.nextDispatch) :=
  rfl

theorem requestCancel_of_some
    {desk : Desk}
    {action : Action}
    {order : WorkingOrder}
    (working : desk.cancellable? action.symbol = some order)
    (outbox : List Venue.Dispatch) :
    Turn.requestCancel ⟨desk, outbox, none⟩ action =
      (⟨desk.cancelling action.symbol order,
          outbox ++ [desk.issue action (.cancelEntry order.dispatch) none],
          none⟩,
        .ok (some desk.nextDispatch)) := by
  unfold Turn.requestCancel
  simp only [working]
  rfl

theorem requestCancel_of_none
    {desk : Desk}
    {action : Action}
    (working : desk.cancellable? action.symbol = none)
    (outbox : List Venue.Dispatch) :
    Turn.requestCancel ⟨desk, outbox, none⟩ action =
      (⟨desk, outbox, none⟩, .ok none) := by
  unfold Turn.requestCancel
  simp only [working]

/-! ## Spending a mandate -/

/-- An action carries the intent of an active mandate on the desk. -/
structure Backs (desk : Desk) (action : Action) (mandate : Mandate) :
    Prop where
  stored : desk.registry.get? mandate.id = some mandate
  active : mandate.isActive = true
  action_eq : action = Action.ofMandate mandate
  kind : mandate.kind ≠ .block

/-- What an action leaves of the mandates when it is carried out. -/
inductive Spent (desk : Desk) (action : Action) : Registry → Prop where
  /-- Nobody asked for the action. -/
  | nobody (imposed : action.mandate = none) :
      Spent desk action desk.registry
  /-- The mandate behind the action is consumed. -/
  | consumed {mandate}
      (wish : Backs desk action mandate) :
      Spent desk action (desk.registry.settled mandate .consumed)

/-- An action takes over what its mandate says, but for a block. -/
theorem exists_ofMandate_eq
    {mandate : Mandate}
    (kind : mandate.kind ≠ .block) :
    ∃ named, Action.kindFor? mandate.kind = some named ∧
      Action.ofMandate mandate =
        { kind := named
          symbol := mandate.symbol
          mandate := some mandate.id
          direction := mandate.direction
          quantity := mandate.quantity
          origin := .arbitrated } := by
  unfold Action.ofMandate
  cases named : Action.kindFor? mandate.kind with
  | some found => exact ⟨found, rfl, rfl⟩
  | none =>
    unfold Action.kindFor? at named
    split at named <;> contradiction

theorem Backs.kindFor?_eq
    {desk : Desk}
    {action : Action}
    {mandate : Mandate}
    (wish : Backs desk action mandate) :
    Action.kindFor? mandate.kind = some action.kind := by
  rcases exists_ofMandate_eq wish.kind with ⟨named, asked, same⟩
  rw [wish.action_eq, same]
  exact asked

theorem Backs.mandate_eq
    {desk : Desk}
    {action : Action}
    {mandate : Mandate}
    (wish : Backs desk action mandate) :
    action.mandate = some mandate.id := by
  rcases exists_ofMandate_eq wish.kind with ⟨_, _, same⟩
  rw [wish.action_eq, same]

theorem Spent.consume_eq
    {desk : Desk}
    {action : Action}
    {registry : Registry}
    (spent : Spent desk action registry) :
    desk.consume action = .ok { desk with registry } := by
  unfold consume
  cases spent with
  | nobody imposed => simp only [imposed]
  | consumed wish =>
    simp only [wish.mandate_eq, Registry.update_eq wish.stored wish.active]

theorem Spent.consistent
    {desk : Desk}
    {action : Action}
    {registry : Registry}
    (spent : Spent desk action registry)
    (consistent : desk.registry.Consistent) :
    registry.Consistent := by
  cases spent with
  | nobody => exact consistent
  | consumed wish => exact consistent.settled wish.stored .consumed

/-- An action asks for the quantity of its mandate. -/
theorem quantity_ofMandate
    {mandate : Mandate}
    (kind : mandate.kind ≠ .block) :
    (Action.ofMandate mandate).quantity = mandate.quantity := by
  rcases exists_ofMandate_eq kind with ⟨_, _, same⟩
  rw [same]

/-- An action is spent on an event that the position takes. -/
theorem spend_of_ok
    {desk : Desk}
    {action : Action}
    {registry : Registry}
    (spent : Spent desk action registry)
    {event : Position.Event}
    {now : Instant}
    {next : Position}
    (applied :
      (desk.book.positionOf action.symbol now).apply event now = .ok next) :
    ∃ store tally,
      desk.spend action event now =
        ({ desk with
            book := desk.book.moved action.symbol next
            registry, store, tally },
          .ok ()) := by
  rcases apply_of_ok { desk with registry } action.symbol applied with
    ⟨store, tally, moved⟩
  refine ⟨store, tally, ?_⟩
  unfold spend
  simp only [spent.consume_eq, moved]

/-- A refused action leaves its mandate rejected. -/
theorem refuse_of_backs
    {desk : Desk}
    {action : Action}
    {mandate : Mandate}
    (wish : Backs desk action mandate) :
    desk.refuse action =
      { desk with registry := desk.registry.settled mandate .rejected } := by
  unfold refuse
  simp only [wish.mandate_eq, Registry.update_eq wish.stored wish.active]

/-! ## Rulings -/

/-- The position of a symbol is to be left, by a wish or by force. -/
inductive Leaving (action : Action) : Risk.Verdict → Prop where
  | wished (kind : action.kind = .exit) : Leaving action .accept
  | imposed {symbol distance} : Leaving action (.forceExit symbol distance)

/-- The outcome of a judgement whose order was handed over. -/
def handedOver (dispatch : DispatchId) : Risk.Verdict → Outcome
  | .forceExit _ distance => .forcedExit distance (some dispatch)
  | _ => .dispatched dispatch

theorem symbol_ruled
    (action : Action)
    (verdict : Risk.Verdict) :
    (ruled action verdict).symbol = action.symbol := by
  cases verdict <;> rfl

/-- A mandate behind what is carried out is behind the action. -/
theorem mandate_of_ruled
    {action : Action}
    {verdict : Risk.Verdict}
    {id : Identifier}
    (named : (ruled action verdict).mandate = some id) :
    action.mandate = some id := by
  cases verdict with
  | accept => exact named
  | reject => exact named
  | forceExit => contradiction

theorem dispatch?_handedOver
    (dispatch : DispatchId)
    (verdict : Risk.Verdict) :
    (handedOver dispatch verdict).dispatch? = some dispatch := by
  cases verdict <;> rfl

/-- Where a mandate is behind what is carried out, the order is dispatched. -/
theorem handedOver_of_mandate
    {action : Action}
    {verdict : Risk.Verdict}
    {id : Identifier}
    (named : (ruled action verdict).mandate = some id)
    (dispatch : DispatchId) :
    handedOver dispatch verdict = .dispatched dispatch := by
  cases verdict with
  | accept => rfl
  | reject => rfl
  | forceExit => contradiction

/-- Why a decision changes nothing. -/
inductive Idle (desk : Desk) (action : Action) :
    Risk.Verdict → Outcome → Prop where
  /-- Nothing is wished for. -/
  | content
      (kind : action.kind.isExecutable = false) :
      Idle desk action .accept .noAction
  /-- The latch holds the entry back. -/
  | halted
      (kind : action.kind = .entry)
      (latched : desk.halt.isHalted = true) :
      Idle desk action .accept .halted
  /-- No entry works that was not asked to be cancelled. -/
  | awaited {verdict}
      (leaving : Leaving action verdict)
      (state : desk.book.stateOf action.symbol = .entering)
      (working : desk.cancellable? action.symbol = none) :
      Idle desk action verdict (.deferred "entry cancel already requested")
  /-- There is nothing left to close. -/
  | flat {symbol distance}
      (state : desk.book.stateOf action.symbol = .flat) :
      Idle desk action (.forceExit symbol distance)
        (.forcedExit distance none)
  /-- A reduction or a close works already. -/
  | busy {symbol distance reason}
      (state :
        desk.book.stateOf action.symbol = .reducing ∨
          desk.book.stateOf action.symbol = .closing) :
      Idle desk action (.forceExit symbol distance) (.deferred reason)

/-- All that a judgement of an action can do to a desk. -/
inductive Ruling (round : Round) (desk : Desk) (action : Action) :
    Risk.Verdict → Desk → Outcome → List Venue.Dispatch → Prop where
  /-- Nothing changes. -/
  | idle {verdict outcome}
      (reason : Idle desk action verdict outcome) :
      Ruling round desk action verdict desk outcome []
  /-- An entry fails its check, and its mandate is rejected. -/
  | refused {mandate rejection}
      (wish : Backs desk action mandate)
      (kind : action.kind = .entry)
      (checked :
        Risk.checkEntry round.view desk.book.positions action =
          .error rejection) :
      Ruling round desk action (.reject rejection)
        { desk with registry := desk.registry.settled mandate .rejected }
        (.rejected rejection) []
  /-- The entry that works is to be cancelled; no mandate is spent on that. -/
  | cancelled {verdict order}
      (leaving : Leaving action verdict)
      (state : desk.book.stateOf action.symbol = .entering)
      (working : desk.cancellable? action.symbol = some order) :
      Ruling round desk action verdict
        (desk.cancelling action.symbol order)
        (handedOver desk.nextDispatch verdict)
        [desk.issue (ruled action verdict) (.cancelEntry order.dispatch) none]
  /-- An entry starts under a reservation. -/
  | entered {mandate direction store tally}
      (wish : Backs desk action mandate)
      (kind : action.kind = .entry)
      (checked :
        Risk.checkEntry round.view desk.book.positions action = .ok ())
      (unlatched : desk.halt.isHalted = false)
      (directed : action.direction = some direction)
      (state : desk.book.stateOf action.symbol = .flat) :
      Ruling round desk action .accept
        (launched
          { desk with
            book :=
              desk.book.moved action.symbol
                ((desk.book.positionOf action.symbol round.now).entering
                  direction action.quantity round.now)
            registry := desk.registry.settled mandate .consumed
            reservations :=
              (desk.reservations.reserve action.symbol round.holder
                round.now).1
            store, tally }
          action.symbol (.enter direction action.quantity)
          (some
            (desk.reservations.nextToken action.symbol round.holder
              round.now)))
        (.dispatched desk.nextDispatch)
        [desk.issue action (.enter direction action.quantity)
          (some
            (desk.reservations.nextToken action.symbol round.holder
              round.now).receipt)]
  /-- A reduction starts, of no more than what is held. -/
  | reduced {mandate position store tally}
      (wish : Backs desk action mandate)
      (kind : action.kind = .reduce)
      (found : desk.book.get? action.symbol = some position)
      (state : position.state = .opened)
      (positive : Decimal.zero < min action.quantity position.quantity) :
      Ruling round desk action .accept
        (launched
          { desk with
            book :=
              desk.book.moved action.symbol
                (position.reducing (min action.quantity position.quantity)
                  round.now)
            registry := desk.registry.settled mandate .consumed
            store, tally }
          action.symbol (.reduce (min action.quantity position.quantity))
          none)
        (.dispatched desk.nextDispatch)
        [desk.issue action
          (.reduce (min action.quantity position.quantity)) none]
  /-- The whole position is closed. -/
  | exited {verdict position registry store tally}
      (leaving : Leaving action verdict)
      (spent : Spent desk (ruled action verdict) registry)
      (found : desk.book.get? action.symbol = some position)
      (state : position.state = .opened) :
      Ruling round desk action verdict
        (launched
          { desk with
            book :=
              desk.book.moved action.symbol (position.startClose round.now)
            registry, store, tally }
          action.symbol (.close position.quantity) none)
        (handedOver desk.nextDispatch verdict)
        [desk.issue (ruled action verdict) (.close position.quantity) none]

/-- An entry that passes its check asks for something. -/
theorem positive_of_checkEntry
    {view : Risk.View}
    {positions : Positions}
    {action : Action}
    (checked : Risk.checkEntry view positions action = .ok ()) :
    Decimal.zero < action.quantity ∧
      ∃ direction, action.direction = some direction := by
  unfold Risk.checkEntry at checked
  simp only at checked
  split at checked
  · contradiction
  split at checked
  · contradiction
  rename_i sized
  rw [not_or] at sized
  exact ⟨Decimal.not_le.mp sized.1, Option.ne_none_iff_exists'.mp sized.2⟩

/-- On a coherent desk the slot of a symbol is free unless an entry works. -/
theorem Coherent.vacant
    {desk : Desk}
    (coherent : desk.Coherent)
    {symbol : Symbol}
    (state : desk.book.stateOf symbol ≠ .entering) :
    desk.reservations.ticketOf symbol = Reservations.free := by
  have cell := coherent.cell symbol
  cases found : desk.book.get? symbol with
  | none =>
    rw [found] at cell
    exact cell.unseen_of_none.1
  | some position =>
    rw [found] at cell
    rw [Book.stateOf_of_get? found] at state
    exact cell.free_of_state state

/-! ## What is written into the registry -/

/-- The mandates of a symbol stay as they are stored. -/
def KeepsMandates (symbol : Symbol) (before after : Registry) : Prop :=
  ∀ id mandate, mandate.symbol = symbol →
    before.get? id = some mandate → after.get? id = some mandate

theorem KeepsMandates.trans
    {symbol : Symbol}
    {first second third : Registry}
    (before : KeepsMandates symbol first second)
    (after : KeepsMandates symbol second third) :
    KeepsMandates symbol first third :=
  fun id mandate about stored =>
    after id mandate about (before id mandate about stored)

theorem keepsMandates_settled
    {registry : Registry}
    {mandate : Mandate}
    (stored : registry.get? mandate.id = some mandate)
    {symbol : Symbol}
    (apart : mandate.symbol ≠ symbol)
    (status : Mandate.Status) :
    KeepsMandates symbol registry (registry.settled mandate status) := by
  intro id other about found
  rw [Registry.get?_settled]
  split
  · rename_i same
    rw [same, stored] at found
    cases found
    exact absurd about apart
  · exact found

/-- What is told of an action on which no mandate is spent. -/
inductive Spares (desk : Desk) (action : Action) :
    Risk.Verdict → Outcome → List Venue.Dispatch → Prop where
  /-- No mandate is behind the action. -/
  | unasked {verdict outcome sent}
      (imposed : action.mandate = none) :
      Spares desk action verdict outcome sent
  /-- The risk gate imposes an exit in its place. -/
  | overridden {symbol distance outcome sent} :
      Spares desk action (.forceExit symbol distance) outcome sent
  /-- Nothing is wished for. -/
  | content
      (kind : action.kind.isExecutable = false) :
      Spares desk action .accept .noAction []
  /-- The latch holds the entry back. -/
  | halted
      (kind : action.kind = .entry) :
      Spares desk action .accept .halted []
  /-- The exit waits for an entry that is being cancelled. -/
  | awaited {reason}
      (kind : action.kind = .exit)
      (state : desk.book.stateOf action.symbol = .entering) :
      Spares desk action .accept (.deferred reason) []
  /-- The exit asks for the entry to be cancelled. -/
  | cancelled {order}
      (kind : action.kind = .exit)
      (state : desk.book.stateOf action.symbol = .entering) :
      Spares desk action .accept (.dispatched desk.nextDispatch)
        [desk.issue action (.cancelEntry order) none]

/-- What a ruling writes into the registry, and what it tells of that. -/
inductive Written (desk : Desk) (action : Action) :
    Risk.Verdict → Outcome → List Venue.Dispatch → Registry → Prop where
  /-- No mandate is spent. -/
  | nothing {verdict outcome sent}
      (spares : Spares desk action verdict outcome sent) :
      Written desk action verdict outcome sent desk.registry
  /-- The mandate behind an order is consumed. -/
  | consumed {mandate order reservation}
      (wish : Backs desk action mandate)
      (state :
        desk.book.stateOf action.symbol = .flat ∨
          desk.book.stateOf action.symbol = .opened)
      (moves : ∀ entry, order ≠ .cancelEntry entry) :
      Written desk action .accept (.dispatched desk.nextDispatch)
        [desk.issue action order reservation]
        (desk.registry.settled mandate .consumed)
  /-- The mandate behind a refused entry is rejected. -/
  | rejected {mandate rejection}
      (wish : Backs desk action mandate) :
      Written desk action (.reject rejection) (.rejected rejection) []
        (desk.registry.settled mandate .rejected)

/-! ## What a ruling leaves alone -/

/-- An order that is launched concerns its own symbol only. -/
theorem agreesOff_launched
    (desk : Desk)
    (symbol : Symbol)
    (position : Position)
    (registry : Registry)
    (reservations : Reservations)
    (store : Store)
    (tally : Tally)
    (order : Venue.Order)
    (token : Option Token)
    (slots : ∀ other, other ≠ symbol →
      reservations.ticketOf other = desk.reservations.ticketOf other) :
    AgreesOff symbol desk
      (launched
        { desk with
          book := desk.book.moved symbol position
          registry, reservations, store, tally }
        symbol order token) := by
  intro other apart
  refine ⟨?_, slots other apart, ?_⟩
  · show (desk.book.moved symbol position).get? other = _
    rw [Book.get?_moved, if_neg apart]
  · show OrderedMap.find? (desk.working.insert symbol _) other = _
    rw [OrderedMap.find?_insert, if_neg apart]

/-- An order may be launched where it belongs to the position. -/
theorem Coherent.launched
    {desk : Desk}
    (coherent : desk.Coherent)
    {symbol : Symbol}
    {position : Position}
    {registry : Registry}
    {reservations : Reservations}
    {store : Store}
    {tally : Tally}
    {order : Venue.Order}
    {token : Option Token}
    (consistent : registry.Consistent)
    (keyed : position.symbol = symbol)
    (slots : ∀ other, other ≠ symbol →
      reservations.ticketOf other = desk.reservations.ticketOf other)
    (cell :
      Cell (some position) (reservations.ticketOf symbol)
        (some ⟨desk.nextDispatch, order, token, false⟩)) :
    (Desk.launched
      { desk with
        book := desk.book.moved symbol position
        registry, reservations, store, tally }
      symbol order token).Coherent := by
  refine coherent.changedAt symbol
    (agreesOff_launched desk symbol position registry reservations store tally
      order token slots) ?_ ?_ consistent
  · intro filed same
    have here : (desk.book.moved symbol position).get? symbol = some filed :=
      same
    rw [Book.get?_moved, if_pos rfl] at here
    cases here
    exact keyed
  · show Cell ((desk.book.moved symbol position).get? symbol)
      (reservations.ticketOf symbol)
      (OrderedMap.find? (desk.working.insert symbol _) symbol)
    rw [Book.get?_moved, if_pos rfl, OrderedMap.find?_insert, if_pos rfl]
    exact cell

theorem find?_of_cancellable?
    {desk : Desk}
    {symbol : Symbol}
    {order : WorkingOrder}
    (working : desk.cancellable? symbol = some order) :
    desk.working.find? symbol = some order ∧
      order.isCancelled = false ∧ order.order.isEntry = true := by
  unfold cancellable? at working
  rcases Option.filter_eq_some_iff.mp working with ⟨found, passed⟩
  simp only [Bool.and_eq_true, Bool.not_eq_true'] at passed
  exact ⟨found, passed.1, passed.2⟩

section Outcomes

variable {round : Round} {desk after : Desk} {action : Action}
variable {verdict : Risk.Verdict} {outcome : Outcome}
variable {sent : List Venue.Dispatch}

/-- A ruling concerns the symbol of its action only. -/
theorem Ruling.agreesOff
    (coherent : desk.Coherent)
    (ruling : Ruling round desk action verdict after outcome sent) :
    AgreesOff action.symbol desk after := by
  cases ruling with
  | idle => exact fun _ _ => ⟨rfl, rfl, rfl⟩
  | refused => exact fun _ _ => ⟨rfl, rfl, rfl⟩
  | cancelled leaving state working =>
    intro other apart
    refine ⟨rfl, rfl, ?_⟩
    show OrderedMap.find? (desk.working.insert action.symbol _) other = _
    rw [OrderedMap.find?_insert, if_neg apart]
  | entered wish kind checked unlatched directed state =>
    refine agreesOff_launched desk _ _ _ _ _ _ _ _ fun other apart => ?_
    rw [Reservations.ticketOf_reserve_of_free
      (coherent.vacant (by rw [state]; decide)), if_neg apart]
  | reduced => exact agreesOff_launched desk _ _ _ _ _ _ _ _ fun _ _ => rfl
  | exited => exact agreesOff_launched desk _ _ _ _ _ _ _ _ fun _ _ => rfl

/-- A ruling keeps the desk coherent. -/
theorem Ruling.coherent
    (coherent : desk.Coherent)
    (ruling : Ruling round desk action verdict after outcome sent) :
    after.Coherent := by
  have elsewhere := ruling.agreesOff coherent
  cases ruling with
  | idle => exact coherent
  | refused wish =>
    exact ⟨coherent.keyed, coherent.cell,
      coherent.registry.settled wish.stored .rejected⟩
  | cancelled leaving state working =>
    rename_i order
    have cell := coherent.cell action.symbol
    rw [(find?_of_cancellable? working).1] at cell
    refine coherent.changedAt action.symbol elsewhere
      (fun _ => coherent.keyed) ?_ coherent.registry
    show Cell (desk.book.get? action.symbol)
      (desk.reservations.ticketOf action.symbol)
      (OrderedMap.find? (desk.working.insert action.symbol _) action.symbol)
    rw [OrderedMap.find?_insert, if_pos rfl]
    exact cell.flagged true
  | entered wish kind checked unlatched directed state =>
    rename_i mandate direction store tally
    rcases positive_of_checkEntry checked with ⟨positive, _⟩
    have vacant := coherent.vacant (by rw [state]; decide)
    have slots :=
      Reservations.ticketOf_reserve_of_free vacant round.holder round.now
    have flat :
        (desk.book.positionOf action.symbol round.now).state = .flat := by
      rw [Book.state_positionOf]
      exact state
    have own := coherent.symbol_positionOf action.symbol round.now
    have shaped :=
      Position.wellFormed_of_apply
        (Position.apply_entryAdmitted flat direction positive round.now)
    refine coherent.launched (coherent.registry.settled wish.stored .consumed)
      own (fun other apart => ?_) ?_
    · rw [slots, if_neg apart]
    · rw [slots, if_pos rfl]
      exact @Cell.entering _ _ direction
        (desk.reservations.nextToken action.symbol round.holder round.now) _
        shaped rfl rfl (Nat.succ_ne_zero _) own.symm
  | reduced wish kind found state positive =>
    rename_i mandate position store tally
    have cell := coherent.cell action.symbol
    rw [found] at cell
    have keyed : position.symbol = action.symbol := coherent.keyed found
    have shaped :=
      Position.wellFormed_of_apply
        (Position.apply_reduceAdmitted cell.wellFormed state positive
          (Decimal.min_le_right action.quantity position.quantity) round.now)
    refine coherent.launched (coherent.registry.settled wish.stored .consumed)
      keyed (fun _ _ => rfl) ?_
    rw [cell.free_of_state (by rw [state]; decide)]
    exact @Cell.reducing _ _ _ shaped rfl
  | exited leaving spent found state =>
    rename_i position registry store tally
    have cell := coherent.cell action.symbol
    rw [found] at cell
    have shaped :=
      Position.wellFormed_of_apply
        (Position.apply_exitAdmitted cell.wellFormed state round.now)
    have keyed : position.symbol = action.symbol := coherent.keyed found
    refine coherent.launched (spent.consistent coherent.registry) keyed
      (fun _ _ => rfl) ?_
    rw [cell.free_of_state (by rw [state]; decide)]
    exact @Cell.closing _ _ _ shaped rfl

theorem Idle.spares
    (idle : Idle desk action verdict outcome) :
    Spares desk action verdict outcome [] := by
  cases idle with
  | content kind => exact .content kind
  | halted kind => exact .halted kind
  | awaited leaving state =>
    cases leaving with
    | wished kind => exact .awaited kind state
    | imposed => exact .overridden
  | flat => exact .overridden
  | busy => exact .overridden

theorem Ruling.written
    (ruling : Ruling round desk action verdict after outcome sent) :
    Written desk action verdict outcome sent after.registry := by
  cases ruling with
  | idle reason => exact .nothing reason.spares
  | refused wish => exact .rejected wish
  | cancelled leaving state =>
    cases leaving with
    | wished kind => exact .nothing (.cancelled kind state)
    | imposed => exact .nothing .overridden
  | entered wish kind checked unlatched directed state =>
    exact .consumed wish (Or.inl state) nofun
  | reduced wish kind found state =>
    exact .consumed wish (Or.inr ((Book.stateOf_of_get? found).trans state))
      nofun
  | exited leaving spent found state =>
    cases leaving with
    | wished =>
      cases spent with
      | nobody imposed => exact .nothing (.unasked imposed)
      | consumed wish =>
        exact .consumed wish
          (Or.inr ((Book.stateOf_of_get? found).trans state)) nofun
    | imposed =>
      cases spent with
      | nobody => exact .nothing .overridden
      | consumed wish =>
        exact absurd wish.mandate_eq (by simp [ruled, Action.forcedExit])

/-- A ruling leaves the mandates of all other symbols alone. -/
theorem Ruling.keepsMandates
    (ruling : Ruling round desk action verdict after outcome sent)
    {symbol : Symbol}
    (apart : symbol ≠ action.symbol) :
    KeepsMandates symbol desk.registry after.registry := by
  have named {mandate : Mandate} (wish : Backs desk action mandate) :
      mandate.symbol ≠ symbol := by
    rw [← Action.symbol_ofMandate, ← wish.action_eq]
    exact apart.symm
  have written := ruling.written
  generalize after.registry = registry at written ⊢
  cases written with
  | nothing => exact fun _ _ _ stored => stored
  | consumed wish =>
    exact keepsMandates_settled wish.stored (named wish) .consumed
  | rejected wish =>
    exact keepsMandates_settled wish.stored (named wish) .rejected

/-- A ruling hands over at most one order, which its outcome names. -/
theorem Ruling.exists_issue_of_sent
    (ruling : Ruling round desk action verdict after outcome sent)
    {dispatch : Venue.Dispatch}
    (member : dispatch ∈ sent) :
    ∃ order reservation,
      dispatch = desk.issue (ruled action verdict) order reservation ∧
      outcome = handedOver dispatch.id verdict := by
  cases ruling with
  | idle => cases member
  | refused => cases member
  | cancelled =>
    cases List.mem_singleton.mp member
    exact ⟨_, _, rfl, rfl⟩
  | entered =>
    cases List.mem_singleton.mp member
    exact ⟨_, _, rfl, rfl⟩
  | reduced =>
    cases List.mem_singleton.mp member
    exact ⟨_, _, rfl, rfl⟩
  | exited =>
    cases List.mem_singleton.mp member
    exact ⟨_, _, rfl, rfl⟩

/-- The orders of a ruling are on the symbol of its action. -/
theorem Ruling.symbol_of_sent
    (ruling : Ruling round desk action verdict after outcome sent)
    {dispatch : Venue.Dispatch}
    (member : dispatch ∈ sent) :
    dispatch.symbol = action.symbol := by
  rcases ruling.exists_issue_of_sent member with ⟨order, reservation, rfl, _⟩
  exact symbol_ruled action verdict

end Outcomes

end Desk

end MandateDesk
