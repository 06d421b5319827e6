import MandateDesk.Proofs.Checks
import MandateDesk.Proofs.Reachability

/-!
# Entries that are admitted together

The check of an entry only sees its own quantity and the book as it stands.
That several entries of one cycle stay within the limits together is due to
the order in which things happen: an entry that is admitted is part of the
book before the next symbol is decided on, and counts there with the quantity
that it asks for.  Nothing else that a cycle does changes the load of the book.
So the load at the end is the one that the last entry was checked with.
-/

namespace MandateDesk

/-! ## What changes the load of a book -/

namespace Book

open Risk (load exposedQuantity)

theorem find?_load_of_get?
    {book : Book}
    {symbol : Symbol}
    {position : Position}
    (found : book.get? symbol = some position)
    (holds : position.isFlat = false) :
    (load book.positions).find? symbol = some (exposedQuantity position) := by
  have known : book.positions.find? symbol = some position := found
  rw [Risk.find?_load, known]
  simp [holds]

theorem find?_load_of_flat
    {book : Book}
    {symbol : Symbol}
    (state : book.stateOf symbol = .flat) :
    (load book.positions).find? symbol = none := by
  rw [Risk.find?_load]
  change ((book.get? symbol).filter _).map _ = none
  unfold stateOf at state
  cases found : book.get? symbol with
  | none => rfl
  | some position =>
    rw [found] at state
    simp_all [Position.isFlat]

/-- A position that is not flat loads the book with what it exposes. -/
theorem load_moved
    (book : Book)
    (symbol : Symbol)
    {position : Position}
    (holds : position.isFlat = false) :
    load (book.moved symbol position).positions =
      (load book.positions).insert symbol (exposedQuantity position) := by
  apply OrderedMap.eq_of_find?_eq
  intro other
  rw [Risk.find?_load, OrderedMap.find?_insert, Risk.find?_load]
  change (((book.moved symbol position).get? other).filter _).map _ = _
  rw [get?_moved]
  by_cases same : other = symbol
  · rw [if_pos same, if_pos same]
    simp [holds]
  · rw [if_neg same, if_neg same]
    rfl

/-- A position that goes on exposing the same leaves the load as it is. -/
theorem load_moved_of_same
    {book : Book}
    {symbol : Symbol}
    {position next : Position}
    (found : book.get? symbol = some position)
    (held : position.isFlat = false)
    (holds : next.isFlat = false)
    (same : exposedQuantity next = exposedQuantity position) :
    load (book.moved symbol next).positions = load book.positions := by
  rw [load_moved book symbol holds, same]
  apply OrderedMap.eq_of_find?_eq
  intro other
  rw [OrderedMap.find?_insert]
  by_cases here : other = symbol
  · rw [if_pos here, here, find?_load_of_get? found held]
  · rw [if_neg here]

end Book

namespace Desk

open Risk (load exposedQuantity)

/-! ## The symbols that are entered -/

/-- The symbols that orders enter. -/
def enteredSymbols (outbox : List Venue.Dispatch) : List Symbol :=
  (outbox.filter fun dispatch => dispatch.order.isEntry).map
    Venue.Dispatch.symbol

theorem enteredSymbols_append
    (first second : List Venue.Dispatch) :
    enteredSymbols (first ++ second) =
      enteredSymbols first ++ enteredSymbols second := by
  unfold enteredSymbols
  rw [List.filter_append, List.map_append]

theorem enteredSymbols_of_entryless
    {outbox : List Venue.Dispatch}
    (entryless : ∀ dispatch ∈ outbox, dispatch.order.isEntry = false) :
    enteredSymbols outbox = [] := by
  unfold enteredSymbols
  rw [List.map_eq_nil_iff, List.filter_eq_nil_iff]
  intro dispatch member
  rw [entryless dispatch member]
  exact Bool.false_ne_true

theorem entryless_singleton
    {single : Venue.Dispatch}
    (other : single.order.isEntry = false) :
    ∀ dispatch ∈ [single], dispatch.order.isEntry = false := by
  intro dispatch member
  rw [List.mem_singleton.mp member]
  exact other

theorem enteredSymbols_singleton
    {dispatch : Venue.Dispatch}
    (entry : dispatch.order.isEntry = true) :
    enteredSymbols [dispatch] = [dispatch.symbol] := by
  unfold enteredSymbols
  rw [List.filter_singleton, entry]
  rfl

/-! ## What a ruling does to the load -/

/-- An entry passes its check on a desk, and its order is handed over. -/
structure Admitted (round : Round) (desk : Desk) (action : Action)
    (dispatch : Venue.Dispatch) : Prop where
  coherent : desk.Coherent
  checked :
    Risk.checkEntry round.view desk.book.positions action = .ok ()
  flat : desk.book.stateOf action.symbol = .flat
  symbol_eq : dispatch.symbol = action.symbol
  order_eq : ∃ direction,
    dispatch.order = .enter direction action.quantity

theorem Admitted.isEntry
    {round : Round}
    {desk : Desk}
    {action : Action}
    {dispatch : Venue.Dispatch}
    (admitted : Admitted round desk action dispatch) :
    dispatch.order.isEntry = true := by
  rcases admitted.order_eq with ⟨direction, order⟩
  rw [order]
  rfl

/-- What a ruling does to the load of the book. -/
inductive Loading (round : Round) (desk after : Desk) (action : Action) :
    List Venue.Dispatch → Prop where
  /-- The load stays as it is, and nothing is entered. -/
  | kept {sent}
      (same : load after.book.positions = load desk.book.positions)
      (entryless : ∀ dispatch ∈ sent, dispatch.order.isEntry = false) :
      Loading round desk after action sent
  /-- The load grows by the quantity of an entry. -/
  | grown {dispatch}
      (admitted : Admitted round desk action dispatch)
      (more :
        load after.book.positions =
          (load desk.book.positions).insert action.symbol
            action.quantity) :
      Loading round desk after action [dispatch]

theorem Ruling.loading
    {round : Round}
    {desk after : Desk}
    {action : Action}
    {verdict : Risk.Verdict}
    {outcome : Outcome}
    {sent : List Venue.Dispatch}
    (coherent : desk.Coherent)
    (ruling : Ruling round desk action verdict after outcome sent) :
    Loading round desk after action sent := by
  cases ruling with
  | idle => exact .kept rfl (by simp)
  | refused => exact .kept rfl (by simp)
  | cancelled => exact .kept rfl (entryless_singleton rfl)
  | entered wish kind checked unlatched directed state =>
    refine .grown ⟨coherent, checked, state, rfl, _, rfl⟩ ?_
    exact Book.load_moved desk.book action.symbol rfl
  | reduced wish kind found state =>
    refine .kept ?_ (entryless_singleton rfl)
    apply Book.load_moved_of_same found
    · simp [Position.isFlat, state]
    · rfl
    · simp [exposedQuantity, state]
      rfl
  | exited leaving spent found state =>
    refine .kept ?_ (entryless_singleton rfl)
    apply Book.load_moved_of_same found
    · simp [Position.isFlat, state]
    · rfl
    · simp [exposedQuantity, state]
      rfl

/-- What a symbol is loaded with is not changed by a ruling. -/
theorem Loading.find?_load
    {round : Round}
    {desk after : Desk}
    {action : Action}
    {sent : List Venue.Dispatch}
    (loading : Loading round desk after action sent)
    {symbol : Symbol}
    {quantity : Decimal}
    (loaded : (load desk.book.positions).find? symbol = some quantity) :
    (load after.book.positions).find? symbol = some quantity := by
  cases loading with
  | kept same =>
    rw [same]
    exact loaded
  | grown admitted more =>
    rw [more, OrderedMap.find?_insert_of_ne _ _ ?_]
    · exact loaded
    · intro here
      rw [here, Book.find?_load_of_flat admitted.flat] at loaded
      contradiction

/-! ## What a run does to the load -/

section Run

variable {round : Round} {agenda : Agenda} {symbols : List Symbol}
variable {desk last : Desk} {decisions : List Decision}
variable {sent : List Venue.Dispatch}

/-- What a symbol is loaded with is not changed by a run. -/
theorem Decided.find?_load
    (run : Decided round agenda symbols desk last decisions sent)
    {symbol : Symbol}
    {quantity : Decimal}
    (loaded : (load desk.book.positions).find? symbol = some quantity) :
    (load last.book.positions).find? symbol = some quantity := by
  induction run with
  | nil => exact loaded
  | cons new coherent asked ruling tail hypothesis =>
    apply hypothesis
    exact (ruling.loading coherent).find?_load loaded

/-- Every entry of a run was admitted, and is part of the load in the end. -/
theorem Decided.admitted
    (run : Decided round agenda symbols desk last decisions sent)
    {dispatch : Venue.Dispatch}
    (member : dispatch ∈ sent)
    (entry : dispatch.order.isEntry = true) :
    ∃ before action,
      Admitted round before action dispatch ∧
      (load last.book.positions).find? action.symbol =
        some action.quantity := by
  induction run with
  | nil => simp at member
  | cons new coherent asked ruling tail hypothesis =>
    rename_i symbol rest desk after outcome sent last decisions later
    rcases List.mem_append.mp member with here | later
    · cases ruling.loading coherent with
      | kept same entryless =>
        rw [entryless dispatch here] at entry
        contradiction
      | grown admitted more =>
        rw [List.mem_singleton.mp here]
        refine ⟨_, _, admitted, ?_⟩
        apply tail.find?_load
        show (load after.book.positions).find? _ = _
        rw [more]
        exact OrderedMap.find?_insert_self _ _ _
    · exact hypothesis later

/--
A run that enters nothing keeps the load.  Otherwise the load in the end is
the one that the last entry was checked with.
-/
theorem Decided.loading
    (run : Decided round agenda symbols desk last decisions sent) :
    (load last.book.positions = load desk.book.positions ∧
      enteredSymbols sent = []) ∨
    ∃ before action dispatch,
      Admitted round before action dispatch ∧
      (enteredSymbols sent).getLast? = some action.symbol ∧
      load last.book.positions =
        (load before.book.positions).insert action.symbol
          action.quantity := by
  induction run with
  | nil => exact Or.inl ⟨rfl, rfl⟩
  | cons new coherent asked ruling tail hypothesis =>
    rw [enteredSymbols_append]
    rcases hypothesis with ⟨same, none⟩ | ⟨before, action, dispatch,
      admitted, latest, more⟩
    · rw [none, List.append_nil]
      cases ruling.loading coherent with
      | kept equal entryless =>
        exact Or.inl ⟨same.trans equal,
          enteredSymbols_of_entryless entryless⟩
      | grown admitted more =>
        refine Or.inr ⟨_, _, _, admitted, ?_, same.trans more⟩
        rw [enteredSymbols_singleton admitted.isEntry, admitted.symbol_eq]
        rfl
    · refine Or.inr ⟨before, action, dispatch, admitted, ?_, more⟩
      rw [List.getLast?_append, latest]
      rfl

end Run

/-! ## The limits at the end of a cycle -/

/-- A symbol that an entry finds flat exposes nothing. -/
theorem Admitted.vacant
    {round : Round}
    {desk : Desk}
    {action : Action}
    {dispatch : Venue.Dispatch}
    (admitted : Admitted round desk action dispatch)
    (position : Position)
    (found : desk.book.positions.find? action.symbol = some position) :
    (exposedQuantity position).isZero = true := by
  have known : desk.book.get? action.symbol = some position := found
  have cell := admitted.coherent.cell action.symbol
  rw [known] at cell
  have state := admitted.flat
  rw [Book.stateOf_of_get? known] at state
  unfold exposedQuantity
  rw [state]
  exact Position.isZero_of_flat cell.wellFormed state

section Gate

variable {round : Round} {agenda : Agenda} {symbols : List Symbol}
variable {desk decided last : Desk} {decisions : List Decision}
variable {sent resent : List Venue.Dispatch} {latest : Symbol}

/-- Nothing is entered by handing orders over again. -/
theorem Resent.enteredSymbols_append
    (resending : Resent decided last resent)
    (sent : List Venue.Dispatch) :
    enteredSymbols (sent ++ resent) = enteredSymbols sent := by
  rw [Desk.enteredSymbols_append,
    enteredSymbols_of_entryless fun _ member => resending.entryless member,
    List.append_nil]

/-- After a run that enters anything, the book is within the limits. -/
theorem Decided.withinLimits
    (run : Decided round agenda symbols desk decided decisions sent)
    (resending : Resent decided last resent)
    (enters : (enteredSymbols (sent ++ resent)).getLast? = some latest)
    (exact : Risk.Exact round.view (load last.book.positions) latest) :
    Risk.WithinLimits round.view last.book.positions := by
  rw [resending.enteredSymbols_append] at enters
  rcases run.loading with ⟨_, none⟩ | ⟨before, action, dispatch, admitted,
    entered, more⟩
  · rw [none] at enters
    contradiction
  · rw [entered] at enters
    cases enters
    have passed := Risk.passed_of_checkEntry admitted.checked
    rw [← resending.book] at more
    exact passed.withinLimits admitted.coherent.keyed resending.coherent.keyed
      (Book.find?_load_of_flat admitted.flat) more exact

/-- What a run enters is loaded in the end, within the share of its symbol. -/
theorem Decided.share_le
    (run : Decided round agenda symbols desk decided decisions sent)
    (resending : Resent decided last resent)
    (exact : Risk.Exact round.view (load last.book.positions) latest)
    {dispatch : Venue.Dispatch}
    (member : dispatch ∈ sent ++ resent)
    {direction : Direction}
    {quantity : Decimal}
    (order : dispatch.order = .enter direction quantity) :
    (load last.book.positions).find? dispatch.symbol = some quantity ∧
      quantity.value * Risk.markOf round.view.prices dispatch.symbol ≤
        round.view.limits.symbolLeverage.value *
          round.view.account.equity.value := by
  have entry : dispatch.order.isEntry = true := by
    rw [order]
    rfl
  have handed : dispatch ∈ sent := by
    rcases List.mem_append.mp member with here | again
    · exact here
    · rw [resending.entryless again] at entry
      contradiction
  rcases run.admitted handed entry with ⟨before, action, admitted, loaded⟩
  rcases admitted.order_eq with ⟨_, asked⟩
  rw [order] at asked
  cases asked
  rw [← resending.book] at loaded
  have term :=
    exact.whole.terms _ ((OrderedMap.mem_entries_iff _ _ _).mpr loaded)
  have passed := Risk.passed_of_checkEntry admitted.checked
  rw [admitted.symbol_eq]
  exact ⟨loaded, passed.share_le admitted.vacant term exact.limit⟩

end Gate

/--
On every desk that can occur, a cycle that enters anything leaves the book
within the limits: its gross exposure is the exact one, its leverage is at most
the largest one, and it leaves no margin uncovered.  Each symbol that was
entered is loaded with the quantity of its order, within its share of the
equity.  This holds however many entries there are, where none of the products
and sums behind the limits is rounded.
-/
theorem entries_within_limits
    {parameters : Parameters}
    {limits : Risk.Limits}
    {desk : Desk}
    (reached : Reachable parameters limits desk)
    {feed : Feed}
    {snapshot : Snapshot}
    {now : Instant}
    (fresh : feed.fresh parameters.oldestSnapshot now = .ok snapshot)
    {turn : Turn}
    {ending : CycleEnd}
    (ran :
      desk.runCycle parameters limits feed none now = (turn, ending))
    {latest : Symbol}
    (enters : (enteredSymbols turn.outbox).getLast? = some latest)
    (exact :
      Risk.Exact ⟨limits, snapshot.account, snapshot.prices⟩
        (load turn.desk.book.positions) latest) :
    Risk.WithinLimits ⟨limits, snapshot.account, snapshot.prices⟩
        turn.desk.book.positions ∧
      ∀ dispatch ∈ turn.outbox, ∀ {direction quantity},
        dispatch.order = .enter direction quantity →
        (load turn.desk.book.positions).find? dispatch.symbol =
          some quantity ∧
        quantity.value * Risk.markOf snapshot.prices dispatch.symbol ≤
          limits.symbolLeverage.value * snapshot.account.equity.value := by
  rcases runCycle_of_fresh reached.coherent parameters limits fresh with
    ⟨_, broke⟩ | ⟨turn', summary, worked, done⟩
  · rw [ran] at broke
    cases broke
    contradiction
  · rw [ran] at done
    cases done
    rcases worked with ⟨_, run, resending, _⟩
    have limited := run.withinLimits resending enters exact
    refine ⟨limited, ?_⟩
    intro dispatch member direction quantity order
    have share := run.share_le resending exact member order
    exact share

/-! ## Two entries in one cycle -/

namespace Sample

/-- A second instrument. -/
def other : Symbol :=
  ⟨"ETH"⟩

/-- The wish to enter the second instrument. -/
def otherEntry : Mandate :=
  { wish ⟨3, by decide⟩ .entry with symbol := other }

/-- The desk once both entries were wished for. -/
def pairing : Desk :=
  { wishing with registry := wishing.registry.adding otherEntry }

/-- Market data with quotes for both instruments. -/
def market : Snapshot :=
  { snapshot with prices := snapshot.prices.insert other ⟨hundred, none⟩ }

/-- The cycle that enters both instruments. -/
def paired : Turn × CycleEnd :=
  pairing.runCycle .standard .standard (Feed.start market) none (moment 1)

/-- What the figures of the market are computed from. -/
def view : Risk.View :=
  ⟨.standard, market.account, market.prices⟩

theorem reachable_pairing : Reachable .standard .standard pairing :=
  .step reachable_wishing
    (.submit
      ((Registry.register_eq_ok_iff _ _ _).mpr
        ⟨(Mandate.defect?_eq_none_iff otherEntry).mp rfl, by decide +kernel,
          rfl⟩))

theorem load_paired :
    (load paired.1.desk.book.positions).entries =
      [(symbol, one), (other, one)] := by
  decide +kernel

theorem exposureOf_paired
    (entry : Symbol × Decimal)
    (member : entry ∈ [(symbol, one), (other, one)]) :
    Risk.exposureOf view.prices entry = 100 := by
  have first : view.prices.find? symbol = some ⟨hundred, none⟩ := by
    decide +kernel
  have second : view.prices.find? other = some ⟨hundred, none⟩ := by
    decide +kernel
  have mark : hundred.value = 100 := by
    simp [Decimal.value, Decimal.numerator, hundred]
  have unit : one.value = 1 :=
    Decimal.value_one
  unfold Risk.exposureOf Risk.markOf
  rcases List.mem_pair.mp member with rfl | rfl
  · simp [first, mark, unit]
  · simp [second, mark, unit]

/-- All figures of the cycle are whole numbers. -/
theorem exact_paired :
    Risk.Exact view (load paired.1.desk.book.positions) other := by
  have grid {load : OrderedMap Symbol Decimal}
      (listed : load.entries.Sublist [(symbol, one), (other, one)])
      (entry : Symbol × Decimal) (member : entry ∈ load.entries) :
      Risk.exposureOf view.prices entry =
        ((100 : Nat) : ℚ) / (tenTo 0 : ℚ) := by
    rw [exposureOf_paired entry (listed.subset member)]
    simp
  have all := load_paired
  have first :
      ((load paired.1.desk.book.positions).erase other).entries =
        [(symbol, one)] := by
    decide +kernel
  have gross :
      Risk.total view.prices (load paired.1.desk.book.positions).entries =
        200 := by
    rw [Risk.total_of_grid (grid (by rw [all])), all]
    simp
  have rate : view.limits.marginRate.value = 5 / 1000 := by
    simp [Decimal.value, Decimal.numerator, view, Risk.Limits.standard]
    norm_num [tenTo]
  have equity : view.account.equity.value = 1000 := by
    simp [Decimal.value, Decimal.numerator, view, market, snapshot, thousand]
  have share : view.limits.symbolLeverage.value = 3 := by
    simp [Decimal.value, Decimal.numerator, view, Risk.Limits.standard]
  constructor
  · apply Risk.summable_of_grid (Nat.zero_le 28) (fun _ => 100)
      (grid (by rw [all]))
    rw [all]
    decide
  · apply Risk.summable_of_grid (Nat.zero_le 28) (fun _ => 100)
      (grid (by rw [first]; exact List.sublist_append_left _ [_]))
    rw [first]
    decide
  · rw [gross, rate]
    convert Decimal.representable_natCast (show 1 < _ by decide) using 1
    norm_num
  · rw [gross, rate, equity]
    convert Decimal.representable_natCast (show 999 < _ by decide) using 1
    norm_num
  · rw [share, equity]
    convert Decimal.representable_natCast (show 3000 < _ by decide) using 1
    norm_num

end Sample

/-- Two entries of one cycle are within the limits together. -/
theorem entries_within_limits_paired :
    enteredSymbols Sample.paired.1.outbox =
        [Sample.symbol, Sample.other] ∧
      Risk.WithinLimits Sample.view Sample.paired.1.desk.book.positions := by
  have entered :
      enteredSymbols Sample.paired.1.outbox =
        [Sample.symbol, Sample.other] := by
    decide +kernel
  have fresh :
      (Feed.start Sample.market).fresh Parameters.standard.oldestSnapshot
        (Sample.moment 1) = .ok Sample.market := rfl
  have ran :
      Sample.pairing.runCycle .standard .standard (Feed.start Sample.market)
        none (Sample.moment 1) = (Sample.paired.1, Sample.paired.2) := rfl
  have limited :=
    entries_within_limits Sample.reachable_pairing fresh ran
      (congrArg List.getLast? entered) Sample.exact_paired
  exact ⟨entered, limited.1⟩

end Desk

end MandateDesk
