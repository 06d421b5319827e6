import MandateDesk.Proofs.Breakdown
import MandateDesk.Proofs.Correspondence
import MandateDesk.Proofs.Judging

/-!
# When an exit is forced

The gate forces an exit on a position that the scan at the beginning of the
cycle found critical.  Apart from that it looks at each position again, in the
book as the decisions before it left it.  Where the exchange does not report a
liquidation price, the price is estimated by the margin that the whole book
leaves, so an entry on an earlier symbol can bring a position below the
critical distance.  Nothing else can: reductions and exits count with what
they close until they are filled.
-/

namespace MandateDesk

/-- The quantity that an order enters. -/
def Venue.Order.entered? : Venue.Order → Option Decimal
  | .enter _ quantity => some quantity
  | _ => none

namespace Desk

open Risk (load)

/-! ## What a run adds to the load -/

/-- The symbols and the quantities that orders enter. -/
def entriesOf (outbox : List Venue.Dispatch) : List (Symbol × Decimal) :=
  outbox.filterMap fun dispatch =>
    dispatch.order.entered?.map fun quantity => (dispatch.symbol, quantity)

theorem entriesOf_append
    (first second : List Venue.Dispatch) :
    entriesOf (first ++ second) = entriesOf first ++ entriesOf second :=
  List.filterMap_append

theorem entriesOf_of_entryless
    {outbox : List Venue.Dispatch}
    (entryless : ∀ dispatch ∈ outbox, dispatch.order.isEntry = false) :
    entriesOf outbox = [] := by
  unfold entriesOf
  rw [List.filterMap_eq_nil_iff]
  intro dispatch member
  have other := entryless dispatch member
  cases order : dispatch.order <;> rw [order] at other
  · contradiction
  all_goals rfl

/-- What orders enter on the symbols before a symbol. -/
def entriesBefore
    (symbol : Symbol)
    (outbox : List Venue.Dispatch) :
    List (Symbol × Decimal) :=
  (entriesOf outbox).filter fun entry => compare entry.1 symbol = .lt

theorem exists_of_mem_entriesOf
    {outbox : List Venue.Dispatch}
    {entry : Symbol × Decimal}
    (member : entry ∈ entriesOf outbox) :
    ∃ dispatch ∈ outbox, dispatch.symbol = entry.1 ∧
      dispatch.order.isEntry = true := by
  rcases List.mem_filterMap.mp member with ⟨dispatch, listed, entered⟩
  rcases Option.map_eq_some_iff.mp entered with ⟨quantity, order, rfl⟩
  refine ⟨dispatch, listed, rfl, ?_⟩
  cases asked : dispatch.order <;> rw [asked] at order
  · rfl
  all_goals contradiction

/-- In symbol order, what is entered before a symbol comes before its order. -/
theorem entriesBefore_amid
    {front rest : List Symbol}
    {symbol : Symbol}
    (sorted :
      (front ++ symbol :: rest).Pairwise fun first second =>
        compare first second = .lt)
    {earlier own later resent : List Venue.Dispatch}
    (before : ∀ dispatch ∈ earlier, dispatch.symbol ∈ front)
    (here : ∀ dispatch ∈ own, dispatch.symbol = symbol)
    (after : ∀ dispatch ∈ later, dispatch.symbol ∈ rest)
    (entryless : ∀ dispatch ∈ resent, dispatch.order.isEntry = false) :
    entriesBefore symbol (earlier ++ (own ++ later) ++ resent) =
      entriesOf earlier := by
  rcases List.pairwise_append.mp sorted with ⟨_, following, preceding⟩
  have first (entry : Symbol × Decimal) (member : entry ∈ entriesOf earlier) :
      compare entry.1 symbol = .lt := by
    rcases exists_of_mem_entriesOf member with ⟨dispatch, listed, about, _⟩
    exact preceding _ (about ▸ before dispatch listed) _
      (List.mem_cons_self ..)
  have last (entry : Symbol × Decimal)
      (member : entry ∈ entriesOf (own ++ later)) :
      compare entry.1 symbol ≠ .lt := by
    rcases exists_of_mem_entriesOf member with ⟨dispatch, listed, about, _⟩
    rw [← about]
    rcases List.mem_append.mp listed with among | among
    · rw [here dispatch among, Std.ReflOrd.compare_self]
      decide
    · have behind :=
        (List.pairwise_cons.mp following).1 _ (after dispatch among)
      rw [Std.OrientedCmp.gt_of_lt behind]
      decide
  unfold entriesBefore
  rw [entriesOf_append, entriesOf_of_entryless entryless, List.append_nil,
    entriesOf_append, List.filter_append,
    List.filter_eq_self.mpr fun entry member =>
      decide_eq_true (first entry member),
    List.filter_eq_nil_iff.mpr fun entry member =>
      mt of_decide_eq_true (last entry member),
    List.append_nil]

theorem Admitted.entriesOf_eq
    {round : Round}
    {desk : Desk}
    {action : Action}
    {dispatch : Venue.Dispatch}
    (admitted : Admitted round desk action dispatch) :
    entriesOf [dispatch] = [(action.symbol, action.quantity)] := by
  rcases admitted.order_eq with ⟨direction, order⟩
  simp [entriesOf, Venue.Order.entered?, order, admitted.symbol_eq]

section Run

variable {round : Round} {agenda : Agenda} {symbols : List Symbol}
variable {desk last : Desk} {decisions : List Decision}
variable {sent : List Venue.Dispatch}

/-- A run adds to the load what it enters, and nothing else. -/
theorem Decided.load_eq_insertAll
    (run : Decided round agenda symbols desk last decisions sent) :
    load last.book.positions =
      (load desk.book.positions).insertAll (entriesOf sent) := by
  induction run with
  | nil => rfl
  | cons new coherent asked ruling tail hypothesis =>
    rw [entriesOf_append]
    refine hypothesis.trans ?_
    cases ruling.loading coherent with
    | kept same entryless =>
      rw [entriesOf_of_entryless entryless]
      exact congrArg (OrderedMap.insertAll · _) same
    | grown admitted more =>
      rw [admitted.entriesOf_eq]
      exact congrArg (OrderedMap.insertAll · _) more

/-- What the mandates come to is never imposed by the risk gate. -/
theorem Asked.isForced_eq_false
    {symbol : Symbol}
    {action : Action}
    (asked : Asked desk symbol action) :
    action.isForced = false := by
  cases asked with
  | nothing => rfl
  | wish backs =>
    rw [backs.action_eq]
    unfold Action.ofMandate
    split <;> rfl

end Run

/-! ## Positions that entries endanger -/

/--
A position becomes critical in the course of a cycle: of what the entries
before it leave of the margin, too little falls on it.
-/
structure Strained
    (view : Risk.View)
    (book : Book)
    (symbol : Symbol)
    (entries : List (Symbol × Decimal)) :
    Prop where
  /-- Something was entered. -/
  entered : entries ≠ []
  /-- The exchange does not report the liquidation price. -/
  unreported : ∀ quote,
    view.prices.find? symbol = some quote → quote.liquidation = none
  /-- With the entries as part of the load, the position is critical. -/
  critical : ∃ position positions distance,
    book.get? symbol = some position ∧
    Risk.Filed positions ∧
    load positions = (load book.positions).insertAll entries ∧
    Risk.criticalDistance? view positions position = some distance

/-- The symbols of an agenda are decided on in their order. -/
theorem Agenda.pairwise_symbols
    (agenda : Agenda) :
    agenda.symbols.Pairwise fun first second =>
      compare first second = .lt :=
  OrderedMap.keys_pairwise _

section Forced

variable {round : Round} {agenda : Agenda} {symbols : List Symbol}
variable {desk last : Desk} {decisions : List Decision}
variable {sent : List Venue.Dispatch}

/-- An exit is forced by the scan, or by the check of the position itself. -/
theorem critical_of_judge
    {book : Book}
    {symbol about : Symbol}
    {distance : Decimal}
    (concerns : (agenda.actionOf symbol).symbol = symbol)
    (imposed :
      judge round agenda book symbol = .forceExit about distance) :
    agenda.critical.find? symbol = some distance ∨
      ∃ position, book.get? symbol = some position ∧
        Risk.criticalDistance? round.view book.positions position =
          some distance := by
  unfold judge at imposed
  split at imposed
  · rename_i known scanned
    cases imposed
    unfold Agenda.override? at scanned
    split at scanned
    · contradiction
    · exact Or.inl scanned
  · right
    unfold Risk.judge at imposed
    split at imposed
    · rename_i known checked
      cases imposed
      unfold Risk.override? at checked
      split at checked
      · contradiction
      · rw [concerns] at checked
        exact Option.bind_eq_some_iff.mp checked
    · unfold Risk.judgeAlone at imposed
      split at imposed
      · split at imposed <;> contradiction
      · contradiction

/-- A decision of a run that imposes an exit was judged to impose it. -/
theorem exists_forceExit_of_isForced
    {before : Desk}
    {symbol : Symbol}
    {outcome : Outcome}
    (asked : Asked before symbol (agenda.actionOf symbol))
    (forced :
      (decisionOn round agenda before symbol outcome).action.isForced =
        true) :
    ∃ about distance,
      judge round agenda before.book symbol = .forceExit about distance := by
  have plain := asked.isForced_eq_false
  rw [action_decisionOn] at forced
  cases verdict : judge round agenda before.book symbol with
  | forceExit about distance => exact ⟨about, distance, rfl⟩
  | accept =>
    rw [verdict] at forced
    exact absurd (plain.symm.trans forced) Bool.false_ne_true
  | reject =>
    rw [verdict] at forced
    exact absurd (plain.symm.trans forced) Bool.false_ne_true

/-- A position that is critical after a run was so before, or is strained. -/
theorem Decided.critical_or_strained
    (run : Decided round agenda symbols desk last decisions sent)
    (coherent : desk.Coherent)
    {symbol : Symbol}
    (new : symbol ∉ symbols)
    {position : Position}
    (found : last.book.get? symbol = some position)
    {distance : Decimal}
    (critical :
      Risk.criticalDistance? round.view last.book.positions position =
        some distance) :
    symbol ∈
        (Risk.criticalPositions round.view desk.book.positions).map Prod.fst ∨
      Strained round.view desk.book symbol (entriesOf sent) := by
  rw [(run.untouched new).agrees.book] at found
  have listed (known : Decimal)
      (measured :
        Risk.criticalDistance? round.view desk.book.positions position =
          some known) :
      symbol ∈
        (Risk.criticalPositions round.view desk.book.positions).map
          Prod.fst := by
    refine List.mem_map_of_mem
      ((Risk.mem_criticalPositions_iff coherent.keyed round.view symbol
        known).mpr ?_)
    exact Option.bind_eq_some_iff.mpr ⟨position, found, measured⟩
  by_cases scanned :
      symbol ∈
        (Risk.criticalPositions round.view desk.book.positions).map Prod.fst
  · exact Or.inl scanned
  · right
    refine ⟨?_, ?_, position, last.book.positions, distance, found,
      (run.coherent coherent).keyed, run.load_eq_insertAll, critical⟩
    · intro still
      refine scanned (listed distance ?_)
      rw [← critical]
      refine (Risk.criticalDistance?_congr ?_ position).symm
      refine
        Risk.grossExposure_congr (run.coherent coherent).keyed coherent.keyed
          ?_ _
      rw [run.load_eq_insertAll, still]
      rfl
    · intro quote quoted
      cases reported : quote.liquidation with
      | none => rfl
      | some price =>
        refine absurd (listed distance ?_) scanned
        rw [← critical]
        unfold Risk.criticalDistance?
        rw [← coherent.keyed found] at quoted
        rw [Risk.distance?_of_reported quoted (by rw [reported]; rfl)]

end Forced

/-- What a run forces was critical before it, or its entries made it so. -/
theorem Decided.forced
    {round : Round}
    {desk last : Desk}
    {actions : OrderedMap Symbol Action}
    {decisions : List Decision}
    {sent resent : List Venue.Dispatch}
    (run :
      Decided round (agenda round desk.book actions)
        (agenda round desk.book actions).symbols desk last decisions sent)
    (coherent : desk.Coherent)
    (entryless : ∀ dispatch ∈ resent, dispatch.order.isEntry = false)
    {decision : Decision}
    (member : decision ∈ decisions)
    (forced : decision.action.isForced = true) :
    decision.symbol ∈
        (Risk.criticalPositions round.view desk.book.positions).map Prod.fst ∨
      Strained round.view desk.book decision.symbol
        (entriesBefore decision.symbol (sent ++ resent)) := by
  have sorted := Agenda.pairwise_symbols (agenda round desk.book actions)
  have distinct := Agenda.nodup_symbols (agenda round desk.book actions)
  have listed :
      decision.symbol ∈ (agenda round desk.book actions).symbols := by
    rw [← run.map_symbol]
    exact List.mem_map_of_mem member
  rcases run.decidedAmid listed with
    ⟨order, former, new, -, asked, ruling, latter, -, told, handed⟩
  rename_i front rest before after outcome past earlier own future later
  have same :
      decision =
        decisionOn round (agenda round desk.book actions) before
          decision.symbol outcome := by
    rw [← run.map_symbol] at distinct
    refine List.inj_on_of_nodup_map distinct member ?_ rfl
    rw [told]
    exact List.mem_append_right _ (List.mem_cons_self ..)
  have imposed :=
    exists_forceExit_of_isForced asked
      ((congrArg (fun known : Decision => known.action.isForced)
        same).symm.trans forced)
  rcases imposed with ⟨about, distance, judged⟩
  have preceding :
      entriesBefore decision.symbol (sent ++ resent) = entriesOf earlier := by
    rw [order] at sorted
    rw [handed]
    exact entriesBefore_amid sorted
      (fun _ among => former.symbol_of_sent among)
      (fun _ among => (ruling.symbol_of_sent among).trans asked.symbol_eq)
      (fun _ among => latter.symbol_of_sent among) entryless
  rcases critical_of_judge asked.symbol_eq judged with
    scanned | ⟨position, found, critical⟩
  · have filed :=
      Risk.find?_criticalPositions coherent.keyed round.view decision.symbol
    left
    exact List.mem_map_of_mem
      ((Risk.mem_criticalPositions_iff coherent.keyed _ _ distance).mpr
        (filed.symm.trans scanned))
  · rw [preceding]
    exact former.critical_or_strained coherent new found critical

/--
A cycle forces an exit only where the scan at its beginning finds the position
critical, or where entries of the same cycle make it so: they are handed over on
symbols that come before, the exchange reports no liquidation price, and with
these entries as part of the load the position is critical.
-/
theorem exits_are_forced_when_critical
    {parameters : Parameters}
    {limits : Risk.Limits}
    {desk : Desk}
    (reached : Reachable parameters limits desk)
    {feed : Feed}
    {snapshot : Snapshot}
    {room : Option Nat}
    {now : Instant}
    (fresh : feed.fresh parameters.oldestSnapshot now = .ok snapshot)
    {turn : Turn}
    {summary : CycleSummary}
    (ran :
      desk.runCycle parameters limits feed room now =
        (turn, .done summary))
    {decision : Decision}
    (member : decision ∈ summary.decisions)
    (forced : decision.action.isForced = true) :
    decision.symbol ∈
        (Risk.criticalPositions
          ⟨limits, snapshot.account, snapshot.prices⟩
          desk.book.positions).map Prod.fst ∨
      Strained ⟨limits, snapshot.account, snapshot.prices⟩ desk.book
        decision.symbol (entriesBefore decision.symbol turn.outbox) := by
  rcases exists_runCycle_of_done ran with ⟨free, freed, _, handed⟩
  rw [← handed]
  rcases runCycle_of_fresh reached.coherent parameters limits fresh with
    ⟨_, failed⟩ | ⟨_, _, worked, works⟩
  · rw [freed] at failed
    cases failed
  · rw [freed] at works
    cases works
    rcases worked with ⟨expiry, run, resending, -⟩
    have ready :=
      reached.coherent.collected
        (consistent_expire reached.coherent.registry expiry) parameters now
    have decided :=
      run.forced ready (fun _ => resending.entryless) member forced
    rw [book_collected] at decided
    exact decided

namespace Sample

/-- Limits under which a single entry makes a difference. -/
def wide : Risk.Limits :=
  { Risk.Limits.standard with
    maxLeverage := ⟨false, 50, 0, by decide, Decimal.scale_zero_le⟩
    symbolLeverage := ⟨false, 40, 0, by decide, Decimal.scale_zero_le⟩ }

/-- A quantity that is just not critical. -/
def held : Decimal :=
  ⟨false, 180, 0, by decide, Decimal.scale_zero_le⟩

/-- A reconciliation that recovers a position in the second instrument. -/
def restored : Store × Book × Except Fault Reconciliation.Summary :=
  Reconciliation.run (Store.working default)
    (PaperVenue.holding [⟨other, .long, held, hundred⟩]) Book.empty (moment 0)

/-- The desk with this position. -/
def bearing : Desk :=
  { blank restored.1 with book := restored.2.1 }

/-- The wish to enter as much of the first instrument as the limits allow. -/
def largeEntry : Mandate :=
  { entry with quantity := hundred }

/-- The wish to hold the position. -/
def holding : Mandate :=
  { wish ⟨9, by decide⟩ .hold with symbol := other }

/-- The desk once the entry was wished for. -/
def tempted : Desk :=
  { bearing with registry := bearing.registry.adding largeEntry }

/-- The desk once both were wished for. -/
def crowding : Desk :=
  { tempted with registry := tempted.registry.adding holding }

/-- The cycle that enters the first instrument. -/
def crowdedCycle : Turn × CycleEnd :=
  crowding.runCycle .standard wide (Feed.start market) none (moment 1)

theorem reachable_bearing : Reachable .standard wide bearing := by
  have recovered : restored.2.2.isOk = true := by decide +kernel
  cases result : restored.2.2 with
  | error fault =>
    rw [result] at recovered
    contradiction
  | ok summary =>
    exact .recovered
      (show restored = (restored.1, restored.2.1, .ok summary) by
        rw [← result])

theorem reachable_crowding : Reachable .standard wide crowding :=
  .step
    (.step reachable_bearing
      (.submit
        ((Registry.register_eq_ok_iff _ _ _).mpr
          ⟨(Mandate.defect?_eq_none_iff largeEntry).mp rfl,
            by decide +kernel, rfl⟩)))
    (.submit
      ((Registry.register_eq_ok_iff _ _ _).mpr
        ⟨(Mandate.defect?_eq_none_iff holding).mp rfl,
          by decide +kernel, rfl⟩))

/-- The scan finds nothing critical. -/
theorem criticalPositions_crowding :
    Risk.criticalPositions ⟨wide, market.account, market.prices⟩
      crowding.book.positions = [] := by
  decide +kernel

/-- The first instrument is entered, and the second one is to be left. -/
theorem decisions_crowdedCycle :
    crowdedCycle.2.summary?.map (fun summary =>
      summary.decisions.map fun decision =>
        (decision.symbol, decision.action.kind,
          decision.action.isForced)) =
      some [(symbol, .entry, false), (other, .exit, true)] := by
  decide +kernel

/-- The exit is forced by the entry. -/
theorem exits_are_forced_when_critical_crowding :
    Strained ⟨wide, market.account, market.prices⟩ crowding.book other
      (entriesBefore other crowdedCycle.1.outbox) := by
  have told := decisions_crowdedCycle
  have present : crowdedCycle.2.summary?.isSome = true := by
    rw [← Option.isSome_map, told]
    rfl
  rcases CycleEnd.exists_of_summary? present with ⟨summary, ended, current⟩
  rw [ended] at told
  simp only [CycleEnd.summary?, current, Bool.false_eq_true, if_false,
    Option.map_some, Option.some.injEq] at told
  have among :
      (other, Action.Kind.exit, true) ∈
        summary.decisions.map fun decision =>
          (decision.symbol, decision.action.kind,
            decision.action.isForced) := by
    rw [told]
    exact List.mem_cons_of_mem _ (List.mem_singleton_self _)
  rcases List.mem_map.mp among with ⟨decision, member, same⟩
  simp only [Prod.mk.injEq] at same
  rcases same with ⟨about, _, forced⟩
  have fresh :
      (Feed.start market).fresh Parameters.standard.oldestSnapshot
        (moment 1) = .ok market := rfl
  rw [← about]
  rcases
      exits_are_forced_when_critical reachable_crowding fresh
        (show crowdedCycle = (crowdedCycle.1, .done summary) by rw [← ended])
        member forced with
    scanned | strained
  · rw [criticalPositions_crowding] at scanned
    contradiction
  · exact strained

/-- No position is critical, and yet an entry leads to a forced exit. -/
theorem entry_forces_exit :
    wide.Valid ∧ Reachable .standard wide crowding ∧
      Risk.criticalPositions ⟨wide, market.account, market.prices⟩
        crowding.book.positions = [] ∧
      enteredSymbols crowdedCycle.1.outbox = [symbol] ∧
      crowdedCycle.2.summary?.map (fun summary =>
        summary.decisions.map fun decision =>
          (decision.symbol, decision.action.kind,
            decision.action.isForced)) =
        some [(symbol, .entry, false), (other, .exit, true)] :=
  ⟨by decide +kernel, reachable_crowding, criticalPositions_crowding,
    by decide +kernel, decisions_crowdedCycle⟩

end Sample

end Desk

end MandateDesk
