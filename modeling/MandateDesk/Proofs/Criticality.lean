import MandateDesk.Proofs.Judging

/-!
# What is critical

Three passes over a book compare the distances of its positions with a bound:
the gate for the position of the action that it judges, the scan for the whole
book, and the risk figures.  They mean the same positions by critical, with the
same distances.
-/

namespace MandateDesk.Risk

/-! ## Books -/

theorem filed_empty : Filed OrderedMap.empty := by
  intro symbol position found
  simp at found

/-- A book stays filed with a position under its own symbol. -/
theorem Filed.insert
    {positions : Positions}
    (filed : Filed positions)
    (position : Position) :
    Filed (OrderedMap.insert positions position.symbol position) := by
  intro symbol known found
  rw [OrderedMap.find?_insert] at found
  split at found
  · rename_i same
    cases found
    exact same.symm
  · exact filed found

/-! ## The scan and the figures -/

/-- The scan is what is measured below the critical distance. -/
theorem criticalPositions_eq_filter
    (view : View)
    (positions : Positions) :
    criticalPositions view positions =
      (measured view positions).filter fun entry =>
        decide (entry.2 < view.limits.criticalDistance) := by
  unfold criticalPositions measured criticalDistance?
  rw [List.filter_filterMap]
  congr 1
  funext position
  cases distance? view positions position with
  | none => rfl
  | some distance =>
    simp only [Option.filter_some, Option.map_some]
    split <;> rfl

/-- The figures name the symbols of the scan, in its order. -/
theorem belowCritical_eq_map
    (view : View)
    (positions : Positions) :
    (metrics view positions).belowCritical =
      (criticalPositions view positions).map Prod.fst := by
  rw [criticalPositions_eq_filter]
  rfl

/-- The figures have the distance of every position that has one. -/
theorem find?_distances
    {positions : Positions}
    (filed : Filed positions)
    (view : View)
    (symbol : Symbol) :
    (metrics view positions).distances.find? symbol =
      (positions.find? symbol).bind (distance? view positions) :=
  find?_readings filed _ symbol

/-- What is critical has a distance, which is below the bound. -/
theorem criticalDistance?_eq_some_iff
    {view : View}
    {positions : Positions}
    {position : Position}
    {distance : Decimal} :
    criticalDistance? view positions position = some distance ↔
      distance? view positions position = some distance ∧
        distance < view.limits.criticalDistance := by
  unfold criticalDistance?
  rw [Option.filter_eq_some_iff, decide_eq_true_iff]

theorem find?_distances_of_mem
    {positions : Positions}
    (filed : Filed positions)
    {view : View}
    {symbol : Symbol}
    {distance : Decimal}
    (listed : (symbol, distance) ∈ criticalPositions view positions) :
    (metrics view positions).distances.find? symbol = some distance := by
  have critical := (mem_criticalPositions_iff filed view _ _).mp listed
  rcases Option.bind_eq_some_iff.mp critical with ⟨position, found, below⟩
  rw [find?_distances filed, found]
  exact (criticalDistance?_eq_some_iff.mp below).1

/-- What is below a bound is below every larger one. -/
theorem symbolsBelow_sublist
    {lower upper : Decimal}
    (within : lower ≤ upper)
    (measured : List (Symbol × Decimal)) :
    (symbolsBelow lower measured).Sublist (symbolsBelow upper measured) := by
  refine (List.monotone_filter_right measured ?_).map Prod.fst
  intro entry below
  rw [decide_eq_true_iff] at below ⊢
  rw [← Decimal.value_lt_iff] at below ⊢
  rw [← Decimal.value_le_iff] at within
  exact below.trans_le within

/-- The critical distance of consistent limits is no more than the safe one. -/
theorem Limits.Valid.criticalDistance_le
    {limits : Limits}
    (valid : limits.Valid) :
    limits.criticalDistance ≤ limits.safeDistance := by
  have clean := (Limits.valid_iff limits).mp valid .criticalDistance
  simp only [Limits.has, Bool.or_eq_false_iff, decide_eq_false_iff_not]
    at clean
  exact (Decimal.le_total _ _).resolve_left clean.2

/-! ## The gate -/

section Gate

variable {view : View} {positions : Positions} {action : Action}

/-- An action is overridden if its symbol is in the scan. -/
theorem override?_eq_some_iff
    (filed : Filed positions)
    (stays : action.kind ≠ .exit)
    (distance : Decimal) :
    override? view positions action = some distance ↔
      (action.symbol, distance) ∈ criticalPositions view positions := by
  rw [mem_criticalPositions_iff filed, override?, if_neg stays]

theorem judgeAlone_ne_forceExit
    (symbol : Symbol)
    (distance : Decimal) :
    judgeAlone view positions action ≠ .forceExit symbol distance := by
  unfold judgeAlone
  split
  · split <;> simp
  · simp

/-- The gate forces an exit of the symbols of the scan. -/
theorem judge_eq_forceExit_iff
    (filed : Filed positions)
    (stays : action.kind ≠ .exit)
    (symbol : Symbol)
    (distance : Decimal) :
    judge view positions action = .forceExit symbol distance ↔
      symbol = action.symbol ∧
        (symbol, distance) ∈ criticalPositions view positions := by
  have overridden := @override?_eq_some_iff view positions action filed stays
  unfold judge
  cases override : override? view positions action with
  | none =>
    refine iff_of_false (judgeAlone_ne_forceExit symbol distance) ?_
    rintro ⟨rfl, listed⟩
    rw [← overridden, override] at listed
    contradiction
  | some nearest =>
    simp only [Verdict.forceExit.injEq]
    constructor
    · rintro ⟨rfl, rfl⟩
      exact ⟨rfl, (overridden _).mp override⟩
    · rintro ⟨rfl, listed⟩
      have same := (overridden _).mpr listed
      rw [override, Option.some.injEq] at same
      exact ⟨rfl, same⟩

theorem judge_of_exit
    (leaves : action.kind = .exit) :
    judge view positions action = .accept := by
  unfold judge override? judgeAlone
  simp [leaves]

/-- Nothing but an entry is refused. -/
theorem kind_of_judge_eq_reject
    {rejection : Rejection}
    (refused : judge view positions action = .reject rejection) :
    action.kind = .entry := by
  unfold judge judgeAlone at refused
  split at refused
  · contradiction
  · split at refused
    · assumption
    · contradiction

end Gate

/--
The gate, the scan and the risk figures agree on what is critical.  An action
that is no exit is replaced by a forced exit exactly if the scan lists its
symbol, and with the distance of the scan.  The figures name the symbols of the
scan in the same order, have each of these distances, and name every symbol that
is critical among those that are not safe.  An exit is always accepted, and
nothing but an entry is ever rejected.
-/
theorem scan_gate_and_metrics_agree
    {view : View}
    {positions : Positions}
    (valid : view.limits.Valid)
    (filed : Filed positions) :
    (∀ action symbol distance,
      action.kind ≠ .exit →
        (judge view positions action = .forceExit symbol distance ↔
          symbol = action.symbol ∧
            (symbol, distance) ∈ criticalPositions view positions)) ∧
    (criticalPositions view positions).map Prod.fst =
        (metrics view positions).belowCritical ∧
    (∀ symbol distance,
      (symbol, distance) ∈ criticalPositions view positions →
        (metrics view positions).distances.find? symbol = some distance) ∧
    (metrics view positions).belowCritical.Sublist
        (metrics view positions).belowSafe ∧
    (∀ action,
      action.kind = .exit → judge view positions action = .accept) ∧
    ∀ action rejection,
      judge view positions action = .reject rejection →
        action.kind = .entry := by
  refine ⟨?_, (belowCritical_eq_map view positions).symm, ?_, ?_, ?_, ?_⟩
  · intro action symbol distance stays
    exact judge_eq_forceExit_iff filed stays symbol distance
  · intro symbol distance listed
    exact find?_distances_of_mem filed listed
  · exact symbolsBelow_sublist valid.criticalDistance_le _
  · intro action leaves
    exact judge_of_exit leaves
  · intro action rejection refused
    exact kind_of_judge_eq_reject refused

namespace Sample

open Desk.Sample (hundred moment one symbol thousand)

/-- A second instrument. -/
def neighbour : Symbol :=
  ⟨"ETH"⟩

/-- A price that is two percent away. -/
def near : Decimal :=
  ⟨false, 98, 0, by decide, Decimal.scale_zero_le⟩

/-- A price that is seven percent away. -/
def further : Decimal :=
  ⟨false, 93, 0, by decide, Decimal.scale_zero_le⟩

theorem twoPercent_mantissa : 2 < Decimal.mantissaBound := by decide

theorem twoPercent_scale : 2 ≤ 28 := by decide

/-- Two percent. -/
def twoPercent : Decimal :=
  ⟨false, 2, 2, twoPercent_mantissa, twoPercent_scale⟩

/-- One unit of an instrument, held at a hundred. -/
def unit (symbol : Symbol) : Position :=
  { symbol
    state := .opened
    direction := some .long
    quantity := one
    entryPrice := some hundred
    pendingQuantity := Decimal.zero
    updatedAt := moment 0 }

/-- A unit of each of two instruments. -/
def pair : Positions :=
  (OrderedMap.empty.insert symbol (unit symbol)).insert neighbour
    (unit neighbour)

/-- One instrument is about to be liquidated, and the other is not safe. -/
def falling : View where
  limits := .standard
  account := ⟨thousand⟩
  prices :=
    (OrderedMap.empty.insert symbol ⟨hundred, some near⟩).insert neighbour
      ⟨hundred, some further⟩

theorem filed_pair : Filed pair :=
  Filed.insert (Filed.insert filed_empty (unit symbol)) (unit neighbour)

theorem criticalPositions_pair :
    criticalPositions falling pair = [(symbol, twoPercent)] := by
  decide +kernel

/-- Only the instrument that is about to be liquidated is critical. -/
theorem scan_gate_and_metrics_agree_pair :
    judge falling pair (Action.noAction symbol) =
        .forceExit symbol twoPercent ∧
      (∀ distance,
        judge falling pair (Action.noAction neighbour) ≠
          .forceExit neighbour distance) ∧
      (metrics falling pair).belowCritical = [symbol] ∧
      (metrics falling pair).distances.find? symbol = some twoPercent ∧
      [symbol].Sublist (metrics falling pair).belowSafe ∧
      judge falling pair (Action.forcedExit symbol) = .accept := by
  have valid : falling.limits.Valid := Limits.standard_valid
  rcases scan_gate_and_metrics_agree valid filed_pair with
    ⟨gate, figures, distances, safe, leaving, _⟩
  have scanned : (symbol, twoPercent) ∈ criticalPositions falling pair := by
    rw [criticalPositions_pair]
    exact List.mem_singleton_self _
  have apart (distance : Decimal) :
      (neighbour, distance) ∉ criticalPositions falling pair := by
    rw [criticalPositions_pair]
    simp [neighbour, symbol]
  rw [criticalPositions_pair] at figures
  refine ⟨?_, ?_, figures.symm, distances _ _ scanned, ?_, leaving _ rfl⟩
  · exact (gate _ _ _ (by decide)).mpr ⟨rfl, scanned⟩
  · intro distance forced
    exact apart distance ((gate _ _ _ (by decide)).mp forced).2
  · rw [← figures] at safe
    exact safe

end Sample

end MandateDesk.Risk
