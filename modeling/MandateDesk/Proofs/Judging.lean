import MandateDesk.Proofs.Leverage

/-!
# What a judgement depends on

Of the book the gate reads the position of the symbol that it judges, and the
gross exposure, which only depends on the load.  So a decision in the midst of
a run is judged as it would have been at the start, unless an entry came
before it in the same run.
-/

namespace MandateDesk

namespace Risk

/-! ## Books that are judged alike -/

/-- Of a position the gross exposure takes its symbol and what it exposes. -/
theorem foldl_including_congr
    {first second : List Position}
    (same :
      (first.map fun position =>
        (position.symbol, exposedQuantity position)) =
      second.map fun position =>
        (position.symbol, exposedQuantity position))
    (prices : Prices)
    (exposure : GrossExposure) :
    first.foldl (GrossExposure.including prices) exposure =
      second.foldl (GrossExposure.including prices) exposure := by
  induction first generalizing second exposure with
  | nil =>
    rw [List.map_nil, eq_comm, List.map_eq_nil_iff] at same
    rw [same]
  | cons position rest hypothesis =>
    cases second with
    | nil => simp at same
    | cons other others =>
      simp only [List.map_cons, List.cons.injEq, Prod.mk.injEq] at same
      rcases same with ⟨⟨symbol, quantity⟩, later⟩
      have step :
          GrossExposure.including prices exposure position =
            GrossExposure.including prices exposure other := by
        unfold GrossExposure.including exposure?
        rw [symbol, quantity]
      rw [List.foldl_cons, List.foldl_cons, step]
      exact hypothesis later _

/-- Books with the same load have the same gross exposure. -/
theorem grossExposure_congr
    {first second : Positions}
    (filed : Filed first)
    (refiled : Filed second)
    (same : load first = load second)
    (prices : Prices) :
    grossExposure first prices = grossExposure second prices := by
  refine foldl_including_congr ?_ prices _
  have entries := congrArg OrderedMap.entries same
  rw [entries_load filed, entries_load refiled] at entries
  exact entries

/-- The distance of a position depends on the gross exposure of its book. -/
theorem distance?_congr
    {view : View}
    {first second : Positions}
    (gross :
      grossExposure first view.prices = grossExposure second view.prices)
    (position : Position) :
    distance? view first position = distance? view second position := by
  unfold distance? liquidationPrice estimatedLiquidation
  rw [gross]

theorem criticalDistance?_congr
    {view : View}
    {first second : Positions}
    (gross :
      grossExposure first view.prices = grossExposure second view.prices)
    (position : Position) :
    criticalDistance? view first position =
      criticalDistance? view second position := by
  unfold criticalDistance?
  rw [distance?_congr gross]

/-- Where the exchange reports a liquidation price, the book does not matter. -/
theorem distance?_of_reported
    {view : View}
    {position : Position}
    {quote : Quote}
    (quoted : view.prices.find? position.symbol = some quote)
    (reported : quote.liquidation.isSome = true)
    (first second : Positions) :
    distance? view first position = distance? view second position := by
  rcases Option.isSome_iff_exists.mp reported with ⟨price, known⟩
  unfold distance? liquidationPrice
  simp only [quoted, known]

theorem checkEntry_congr
    {view : View}
    {first second : Positions}
    {action : Action}
    (gross :
      grossExposure first view.prices = grossExposure second view.prices)
    (own : first.find? action.symbol = second.find? action.symbol) :
    checkEntry view first action = checkEntry view second action := by
  unfold checkEntry checkLimits checkSymbol heldExposure
  rw [gross, own]

/-- An action is judged by its own position and by the gross exposure. -/
theorem judge_congr
    {view : View}
    {first second : Positions}
    {action : Action}
    (gross :
      grossExposure first view.prices = grossExposure second view.prices)
    (own : first.find? action.symbol = second.find? action.symbol) :
    judge view first action = judge view second action := by
  have critical :
      criticalDistance? view first = criticalDistance? view second :=
    funext (criticalDistance?_congr gross)
  unfold judge override? judgeAlone
  rw [own, critical, checkEntry_congr gross own]

/-- What is flat has no liquidation that could override an action. -/
theorem judge_of_flat
    {book : Book}
    {action : Action}
    (state : book.stateOf action.symbol = .flat)
    (view : View) :
    judge view book.positions action =
      judgeAlone view book.positions action := by
  have free : override? view book.positions action = none := by
    unfold override?
    split
    · rfl
    · rw [Option.bind_eq_none_iff]
      intro position found
      rw [Book.stateOf_of_get? found] at state
      have unmeasured : distance? view book.positions position = none := by
        unfold distance?
        rw [state]
        rfl
      unfold criticalDistance?
      rw [unmeasured]
      rfl
  unfold judge
  rw [free]

/-- An entry is let pass or refused; no exit takes its place. -/
theorem judge_of_entry
    {book : Book}
    {action : Action}
    (state : book.stateOf action.symbol = .flat)
    (kind : action.kind = .entry)
    (view : View) :
    judge view book.positions action = .accept ∨
      ∃ rejection, judge view book.positions action = .reject rejection := by
  rw [judge_of_flat state]
  unfold judgeAlone
  rw [if_pos kind]
  cases checkEntry view book.positions action with
  | ok => exact Or.inl rfl
  | error rejection => exact Or.inr ⟨rejection, rfl⟩

/-! ## What is measured of a book -/

/-- The figures of the positions of a book, under their symbols. -/
def readings
    (positions : Positions)
    (measure : Position → Option Decimal) :
    List (Symbol × Decimal) :=
  positions.values.filterMap fun position =>
    (measure position).map fun figure => (position.symbol, figure)

/-- A figure is listed under the symbol under which its position is found. -/
theorem mem_readings_iff
    {positions : Positions}
    (filed : Filed positions)
    (measure : Position → Option Decimal)
    (symbol : Symbol)
    (figure : Decimal) :
    (symbol, figure) ∈ readings positions measure ↔
      (positions.find? symbol).bind measure = some figure := by
  unfold readings
  rw [List.mem_filterMap, Option.bind_eq_some_iff]
  constructor
  · rintro ⟨position, member, measured⟩
    rcases Option.map_eq_some_iff.mp measured with ⟨known, found, same⟩
    cases same
    rcases (OrderedMap.mem_values_iff _ position).mp member with ⟨key, listed⟩
    exact ⟨position, filed listed ▸ listed, found⟩
  · rintro ⟨position, found, measured⟩
    refine ⟨position, ?_, ?_⟩
    · exact (OrderedMap.mem_values_iff _ position).mpr ⟨symbol, found⟩
    · rw [measured, filed found]
      rfl

/-- The figures answer for a symbol as a measurement of its position would. -/
theorem find?_readings
    {positions : Positions}
    (filed : Filed positions)
    (measure : Position → Option Decimal)
    (symbol : Symbol) :
    (OrderedMap.ofList (readings positions measure)).find? symbol =
      (positions.find? symbol).bind measure := by
  cases answered :
      (OrderedMap.ofList (readings positions measure)).find? symbol with
  | some figure =>
    have gathered :
        (OrderedMap.empty.insertAll (readings positions measure)).find? symbol =
          some figure :=
      answered
    rcases OrderedMap.mem_of_find?_insertAll gathered with earlier | member
    · simp at earlier
    · exact ((mem_readings_iff filed measure _ _).mp member).symm
  | none =>
    cases measured : (positions.find? symbol).bind measure with
    | none => rfl
    | some figure =>
      have listed := (mem_readings_iff filed measure symbol figure).mpr measured
      have present :=
        (OrderedMap.isSome_find?_ofList _ symbol).mpr
          (List.mem_map_of_mem listed)
      rw [answered] at present
      contradiction

/-- The scan lists the positions that are critical, with their distances. -/
theorem mem_criticalPositions_iff
    {positions : Positions}
    (filed : Filed positions)
    (view : View)
    (symbol : Symbol)
    (distance : Decimal) :
    (symbol, distance) ∈ criticalPositions view positions ↔
      (positions.find? symbol).bind (criticalDistance? view positions) =
        some distance :=
  mem_readings_iff filed _ symbol distance

/-- The scan answers for a symbol as a check of its position would. -/
theorem find?_criticalPositions
    {positions : Positions}
    (filed : Filed positions)
    (view : View)
    (symbol : Symbol) :
    (OrderedMap.ofList (criticalPositions view positions)).find? symbol =
      (positions.find? symbol).bind (criticalDistance? view positions) :=
  find?_readings filed _ symbol

end Risk

namespace Desk

open Risk (load)

/-- On the book of the scan, the scan and the check of an action agree. -/
theorem judge_agenda
    {book : Book}
    (filed : Risk.Filed book.positions)
    (round : Round)
    (actions : OrderedMap Symbol Action)
    {symbol : Symbol}
    (about :
      ((agenda round book actions).actionOf symbol).symbol = symbol) :
    judge round (agenda round book actions) book symbol =
      Risk.judge round.view book.positions
        ((agenda round book actions).actionOf symbol) := by
  have scanned :
      (agenda round book actions).override? symbol =
        Risk.override? round.view book.positions
          ((agenda round book actions).actionOf symbol) := by
    unfold Agenda.override? Risk.override?
    rw [about]
    exact congrArg (ite _ none)
      (Risk.find?_criticalPositions filed round.view symbol)
  unfold judge Risk.judge
  rw [scanned, about]
  cases Risk.override? round.view book.positions
      ((agenda round book actions).actionOf symbol) <;> rfl

/-- The action of a decision is what the judgement leads to. -/
theorem action_decisionOn
    (round : Round)
    (agenda : Agenda)
    (desk : Desk)
    (symbol : Symbol)
    (outcome : Outcome) :
    (decisionOn round agenda desk symbol outcome).action =
      ruled (agenda.actionOf symbol)
        (judge round agenda desk.book symbol) :=
  rfl

/-! ## Runs around one decision -/

/-- A run up to a symbol, the ruling on the symbol, and the rest of the run. -/
inductive DecidedAmid (round : Round) (agenda : Agenda) (symbol : Symbol)
    (symbols : List Symbol) (desk last : Desk) (decisions : List Decision)
    (sent : List Venue.Dispatch) : Prop where
  | intro {front rest before after outcome past earlier own future later}
      (order : symbols = front ++ symbol :: rest)
      (former : Decided round agenda front desk before past earlier)
      (new : symbol ∉ front)
      (coherent : before.Coherent)
      (asked : Asked before symbol (agenda.actionOf symbol))
      (ruling :
        Ruling round before (agenda.actionOf symbol)
          (judge round agenda before.book symbol) after outcome own)
      (latter :
        Decided round agenda rest
          (after.record (decisionOn round agenda before symbol outcome)) last
          future later)
      (once : symbol ∉ rest)
      (listed :
        decisions =
          past ++ decisionOn round agenda before symbol outcome :: future)
      (handed : sent = earlier ++ (own ++ later))

section Amid

variable {round : Round} {agenda : Agenda} {symbols : List Symbol}
variable {desk last : Desk} {decisions : List Decision}
variable {sent : List Venue.Dispatch} {symbol : Symbol}

theorem Decided.decidedAmid
    (run : Decided round agenda symbols desk last decisions sent)
    (member : symbol ∈ symbols) :
    DecidedAmid round agenda symbol symbols desk last decisions sent := by
  induction run with
  | nil => simp at member
  | cons fresh coherent asked ruling tail hypothesis =>
    rename_i here rest desk after outcome sent last decisions later
    by_cases same : symbol = here
    · subst same
      exact .intro rfl .nil List.not_mem_nil coherent asked ruling tail fresh
        rfl rfl
    · rcases hypothesis ((List.mem_cons.mp member).resolve_left same) with
        ⟨order, former, new, coherent', asked', ruling', latter, once, listed,
          handed⟩
      refine .intro (by rw [order]; rfl)
        (.cons ?_ coherent asked ruling former) ?_ coherent' asked' ruling'
        latter once (by rw [listed]; rfl)
        (by rw [handed, List.append_assoc])
      · intro among
        exact fresh (order ▸ List.mem_append_left _ among)
      · rw [List.mem_cons, not_or]
        exact ⟨same, new⟩

/-- As long as nothing is entered, the load stays as it was. -/
theorem Decided.load_eq
    (run : Decided round agenda symbols desk last decisions sent)
    (entryless : ∀ dispatch ∈ sent, dispatch.order.isEntry = false) :
    load last.book.positions = load desk.book.positions := by
  rcases run.loading with ⟨same, _⟩ | ⟨_, _, _, _, latest, _⟩
  · exact same
  · rw [enteredSymbols_of_entryless entryless] at latest
    contradiction

/-- A run that enters nothing changes no gross exposure. -/
theorem Decided.grossExposure_eq
    (run : Decided round agenda symbols desk last decisions sent)
    (coherent : desk.Coherent)
    (entryless : ∀ dispatch ∈ sent, dispatch.order.isEntry = false)
    (prices : Prices) :
    Risk.grossExposure last.book.positions prices =
      Risk.grossExposure desk.book.positions prices :=
  Risk.grossExposure_congr (run.coherent coherent).keyed coherent.keyed
    (run.load_eq entryless) prices

/-- After a run that enters nothing, a new symbol is judged as before it. -/
theorem Decided.judge_eq
    (run : Decided round agenda symbols desk last decisions sent)
    (coherent : desk.Coherent)
    (entryless : ∀ dispatch ∈ sent, dispatch.order.isEntry = false)
    (new : symbol ∉ symbols)
    (about : (agenda.actionOf symbol).symbol = symbol) :
    judge round agenda last.book symbol =
      judge round agenda desk.book symbol := by
  have own := (run.untouched new).agrees.book
  rw [← about] at own
  unfold judge
  split
  · rfl
  · exact Risk.judge_congr
      (run.grossExposure_eq coherent entryless round.view.prices) own

end Amid

/-- Until something is entered, a cycle judges by the book that it found. -/
theorem Decided.judge_collected
    {desk before : Desk}
    {parameters : Parameters}
    {limits : Risk.Limits}
    {snapshot : Snapshot}
    {registry : Registry}
    {now : Instant}
    {front : List Symbol}
    {past : List Decision}
    {earlier : List Venue.Dispatch}
    (run :
      Decided (desk.roundOf parameters limits snapshot now)
        (desk.agendaOf parameters limits snapshot registry now) front
        (desk.collected parameters registry now) before past earlier)
    (ready : (desk.collected parameters registry now).Coherent)
    (entryless : ∀ dispatch ∈ earlier, dispatch.order.isEntry = false)
    {symbol : Symbol}
    (new : symbol ∉ front)
    (about :
      ((desk.agendaOf parameters limits snapshot registry now).actionOf
        symbol).symbol = symbol) :
    judge (desk.roundOf parameters limits snapshot now)
        (desk.agendaOf parameters limits snapshot registry now) before.book
        symbol =
      Risk.judge ⟨limits, snapshot.account, snapshot.prices⟩
        desk.book.positions
        ((desk.agendaOf parameters limits snapshot registry now).actionOf
          symbol) := by
  rw [run.judge_eq ready entryless new about,
    ← book_collected desk parameters registry now]
  exact judge_agenda ready.keyed _ _ about

end Desk

end MandateDesk
