import MandateDesk.Proofs.Maps
import MandateDesk.Proofs.Sums
import MandateDesk.Risk.Gate

/-!
# Exposures and the check of an entry

The gross exposure of a book depends on its load only: the quantity that is
exposed on each symbol.  Where no exposure and no partial sum is rounded, it is
the sum of the exposures, whatever their order.

An entry is checked on the load of the book with its own quantity added.  A
book that carries this load later is therefore within the limits that the
entry was checked against.
-/

namespace MandateDesk.Risk

/-! ## The load of a book -/

/-- The quantity that is exposed on each symbol. -/
def load (positions : Positions) : OrderedMap Symbol Decimal :=
  (positions.filter fun _ position => !position.isFlat).mapValues
    fun _ position => exposedQuantity position

/-- Each position is filed under its own symbol. -/
def Filed (positions : Positions) : Prop :=
  ∀ {symbol position},
    positions.find? symbol = some position → position.symbol = symbol

theorem find?_load
    (positions : Positions)
    (symbol : Symbol) :
    (load positions).find? symbol =
      ((positions.find? symbol).filter fun position =>
        !position.isFlat).map exposedQuantity := by
  unfold load
  rw [OrderedMap.find?_mapValues, OrderedMap.find?_filter]

/-- The positions that are not flat, in symbol order. -/
def exposed (positions : Positions) : List Position :=
  positions.values.filter fun position => !position.isFlat

theorem entries_load
    {positions : Positions}
    (filed : Filed positions) :
    (load positions).entries =
      (exposed positions).map fun position =>
        (position.symbol, exposedQuantity position) := by
  unfold load exposed OrderedMap.values
  rw [List.filter_map, List.map_map]
  apply List.map_congr_left
  rintro ⟨symbol, position⟩ member
  have found : positions.find? symbol = some position :=
    (positions.mem_entries_iff symbol position).mp
      (List.mem_filter.mp member).1
  show (symbol, exposedQuantity position) =
    (position.symbol, exposedQuantity position)
  rw [filed found]

/-! ## Exact exposures -/

/-- The mark price of a symbol; zero where it has no quote. -/
def markOf (prices : Prices) (symbol : Symbol) : ℚ :=
  match prices.find? symbol with
  | some quote => quote.mark.value
  | none => 0

/-- The exact exposure of a quantity of a symbol. -/
def exposureOf (prices : Prices) (entry : Symbol × Decimal) : ℚ :=
  |entry.2.value * markOf prices entry.1|

/-- The exact exposure of several quantities. -/
def total (prices : Prices) (entries : List (Symbol × Decimal)) : ℚ :=
  (entries.map (exposureOf prices)).sum

/-- No exposure of a load and no partial sum of them needs rounding. -/
structure Summable (prices : Prices) (load : OrderedMap Symbol Decimal) :
    Prop where
  terms : ∀ entry ∈ load.entries,
    Decimal.Representable (exposureOf prices entry)
  sums : ∀ part, part <+: load.entries →
    Decimal.Representable (total prices part)

theorem total_of_grid
    {prices : Prices}
    {entries : List (Symbol × Decimal)}
    {scale : Nat}
    {units : Symbol × Decimal → Nat}
    (placed : ∀ entry ∈ entries,
      exposureOf prices entry = (units entry : ℚ) / (tenTo scale : ℚ)) :
    total prices entries =
      ((entries.map units).sum : ℚ) / (tenTo scale : ℚ) := by
  unfold total
  induction entries with
  | nil => simp
  | cons entry rest hypothesis =>
    rw [List.map_cons, List.map_cons, List.sum_cons, List.sum_cons,
      placed entry (List.mem_cons_self ..),
      hypothesis fun other member =>
        placed other (List.mem_cons_of_mem _ member),
      Nat.cast_add, add_div]

/-- Exposures on a grid are summable as long as all of them together fit. -/
theorem summable_of_grid
    {prices : Prices}
    {load : OrderedMap Symbol Decimal}
    {scale : Nat}
    (bounded : scale ≤ 28)
    (units : Symbol × Decimal → Nat)
    (placed : ∀ entry ∈ load.entries,
      exposureOf prices entry = (units entry : ℚ) / (tenTo scale : ℚ))
    (fits : (load.entries.map units).sum < Decimal.mantissaBound) :
    Summable prices load := by
  have sized (entries : List (Symbol × Decimal))
      (listed : entries.Sublist load.entries) :
      Decimal.Representable (total prices entries) := by
    have small : (entries.map units).sum < Decimal.mantissaBound :=
      Nat.lt_of_le_of_lt
        ((listed.map units).sum_le_sum fun _ _ => Nat.zero_le _) fits
    refine ⟨⟨false, _, scale, small, bounded⟩, ?_⟩
    rw [Decimal.value_of_unsigned rfl]
    exact (total_of_grid fun entry member =>
      placed entry (listed.subset member)).symm
  constructor
  · intro entry member
    have single := sized [entry] (List.singleton_sublist.mpr member)
    unfold total at single
    rw [List.map_singleton, List.sum_singleton] at single
    exact single
  · intro part prior
    exact sized part prior.sublist

/-- The exposure of a quantity of a symbol as the gate computes it. -/
def figure? (prices : Prices) (entry : Symbol × Decimal) : Option Decimal :=
  (prices.find? entry.1).bind fun quote =>
    (entry.2.mul? quote.mark).map Decimal.magnitude

/-- The exposure of a quantity of a symbol; zero where there is none. -/
def figure (prices : Prices) (entry : Symbol × Decimal) : Decimal :=
  (figure? prices entry).getD Decimal.zero

/-- An exposure that is representable is computed without rounding. -/
theorem figure?_eq
    {prices : Prices}
    {entry : Symbol × Decimal}
    {quote : Quote}
    (priced : prices.find? entry.1 = some quote)
    (representable : Decimal.Representable (exposureOf prices entry)) :
    figure? prices entry = some (figure prices entry) ∧
      (figure prices entry).value = exposureOf prices entry ∧
      Decimal.Compact (figure prices entry).scale (figure prices entry) := by
  have mark : markOf prices entry.1 = quote.mark.value := by
    unfold markOf
    rw [priced]
  unfold exposureOf at representable ⊢
  rw [mark] at representable ⊢
  rcases Decimal.exists_mul? (Decimal.representable_abs_iff.mp representable)
    with ⟨product, multiplied, same, bare⟩
  have computed : figure? prices entry = some product.magnitude := by
    unfold figure?
    rw [priced, Option.bind_some, multiplied]
    rfl
  have equal : figure prices entry = product.magnitude := by
    unfold figure
    rw [computed]
    rfl
  rw [equal]
  refine ⟨computed, ?_, Decimal.compact_magnitude bare⟩
  rw [Decimal.value_magnitude, same]

/-! ## The gross exposure -/

/-- Sums that stay in range are added up with no note of anything else. -/
theorem foldl_including
    {prices : Prices}
    {positions : List Position}
    (priced : ∀ position ∈ positions,
      figure? prices (position.symbol, exposedQuantity position) =
        some (figure prices (position.symbol, exposedQuantity position)))
    {gross sum : Decimal}
    (added :
      (positions.map fun position =>
        figure prices (position.symbol, exposedQuantity position)).foldlM
          Decimal.add? gross = some sum) :
    positions.foldl (GrossExposure.including prices) ⟨gross, [], none⟩ =
      ⟨sum, [], none⟩ := by
  induction positions generalizing gross with
  | nil =>
    cases added
    rfl
  | cons position rest hypothesis =>
    rw [List.map_cons, List.foldlM_cons] at added
    rcases Option.bind_eq_some_iff.mp added with ⟨next, here, later⟩
    have computed := priced position (List.mem_cons_self ..)
    unfold figure? at computed
    rcases Option.bind_eq_some_iff.mp computed with ⟨quote, found, product⟩
    have step :
        GrossExposure.including prices ⟨gross, [], none⟩ position =
          ⟨next, [], none⟩ := by
      unfold GrossExposure.including exposure?
      simp only [found, product, GrossExposure.sum?, Option.bind_some, here]
    rw [List.foldl_cons, step]
    exact hypothesis
      (fun other member => priced other (List.mem_cons_of_mem _ member)) later

/-- Where nothing is listed as unpriced, everything has a quote. -/
theorem priced_of_foldl_including
    {prices : Prices}
    {positions : List Position}
    {exposure : GrossExposure}
    (known :
      (positions.foldl (GrossExposure.including prices) exposure).unpriced =
        []) :
    exposure.unpriced = [] ∧ ∀ position ∈ positions,
      ∃ quote, prices.find? position.symbol = some quote := by
  induction positions generalizing exposure with
  | nil => exact ⟨known, fun _ member => by simp at member⟩
  | cons position rest hypothesis =>
    rcases hypothesis known with ⟨before, others⟩
    unfold GrossExposure.including at before
    cases found : prices.find? position.symbol with
    | none => simp [found] at before
    | some quote =>
      simp only [found] at before
      constructor
      · cases sum : GrossExposure.sum? exposure.gross
            (exposure? position quote.mark) with
        | none => simpa only [sum] using before
        | some gross => simpa only [sum] using before
      · intro other member
        rcases List.mem_cons.mp member with rfl | later
        · exact ⟨quote, found⟩
        · exact others other later

/-- The exposures of a load as the gate computes them. -/
def figures (prices : Prices) (load : OrderedMap Symbol Decimal) :
    List Decimal :=
  load.entries.map (figure prices)

theorem value_figures
    {prices : Prices}
    {entries : List (Symbol × Decimal)}
    (exact : ∀ entry ∈ entries,
      (figure prices entry).value = exposureOf prices entry) :
    ((entries.map (figure prices)).map Decimal.value).sum =
      total prices entries := by
  unfold total
  rw [List.map_map]
  exact congrArg List.sum (List.map_congr_left exact)

/-- A load that is priced and summable has its exact gross exposure. -/
theorem exists_gross
    {positions : Positions}
    (filed : Filed positions)
    {prices : Prices}
    (priced : ∀ {symbol quantity},
      (load positions).find? symbol = some quantity →
        ∃ quote, prices.find? symbol = some quote)
    (summable : Summable prices (load positions)) :
    ∃ gross,
      grossExposure positions prices = ⟨gross, [], none⟩ ∧
      gross.value = total prices (load positions).entries ∧
      Decimal.Compact (Decimal.mostDigits (figures prices (load positions)))
        gross := by
  have computed (entry : Symbol × Decimal)
      (member : entry ∈ (load positions).entries) :
      figure? prices entry = some (figure prices entry) ∧
        (figure prices entry).value = exposureOf prices entry ∧
        Decimal.Compact (figure prices entry).scale (figure prices entry) := by
    rcases priced (((load positions).mem_entries_iff _ _).mp member) with
      ⟨quote, found⟩
    exact figure?_eq found (summable.terms entry member)
  have parts (part : List Decimal)
      (prior : part <+: figures prices (load positions)) :
      Decimal.Representable (part.map Decimal.value).sum := by
    rcases List.prefix_map_iff.mp prior with ⟨entries, listed, rfl⟩
    rw [value_figures fun entry member =>
      (computed entry (listed.subset member)).2.1]
    exact summable.sums entries listed
  rcases Decimal.exists_foldlM (fun term member => by
      rcases List.mem_map.mp member with ⟨entry, listed, rfl⟩
      exact (computed entry listed).2.2) parts with
    ⟨gross, folded, same, compact⟩
  refine ⟨gross, ?_, ?_, compact⟩
  · apply foldl_including
    · intro position member
      apply (computed _ _).1
      rw [entries_load filed]
      exact List.mem_map_of_mem member
    · unfold figures at folded
      rw [entries_load filed, List.map_map] at folded
      exact folded
  · rw [same]
    exact value_figures fun entry member => (computed entry member).2.1

/-- Where no symbol is listed as unpriced, the whole load has quotes. -/
theorem priced_of_known
    {positions : Positions}
    (filed : Filed positions)
    {prices : Prices}
    (known : (grossExposure positions prices).unpriced = [])
    {symbol : Symbol}
    {quantity : Decimal}
    (loaded : (load positions).find? symbol = some quantity) :
    ∃ quote, prices.find? symbol = some quote := by
  rw [← OrderedMap.mem_entries_iff, entries_load filed] at loaded
  rcases List.mem_map.mp loaded with ⟨position, member, same⟩
  cases same
  exact (priced_of_foldl_including known).2 position member

end MandateDesk.Risk
