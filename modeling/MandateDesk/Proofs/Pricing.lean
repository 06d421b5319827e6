import MandateDesk.Proofs.Checks
import MandateDesk.Proofs.Criticality

/-!
# Entries and the prices of a book

An entry is only accepted on a book whose exposure is known: every position
that is not flat has a quote, its exposure is in range, and so are all sums of
exposures.

The mark price of the entry itself has to be positive.  Those of the book have
not: a position with a mark price of zero counts as an exposure of nothing.
-/

namespace MandateDesk.Risk

/-! ## Known exposures -/

/-- A quote that is found and gives an exposure in range. -/
theorem figure?_eq_some_iff
    {prices : Prices}
    {position : Position}
    {exposure : Decimal} :
    figure? prices (position.symbol, exposedQuantity position) =
        some exposure ↔
      ∃ quote,
        prices.find? position.symbol = some quote ∧
          exposure? position quote.mark = some exposure :=
  Option.bind_eq_some_iff

/-- One more position leaves the exposure known if it can be added. -/
theorem including_eq_known
    {prices : Prices}
    {exposure : GrossExposure}
    {position : Position}
    (unlisted :
      (GrossExposure.including prices exposure position).unpriced = [])
    (inRange :
      (GrossExposure.including prices exposure position).overflow = none) :
    exposure.unpriced = [] ∧ exposure.overflow = none ∧
      ∃ added,
        figure? prices (position.symbol, exposedQuantity position) =
            some added ∧
          exposure.gross.add? added =
            some (GrossExposure.including prices exposure position).gross := by
  unfold GrossExposure.including at unlisted inRange ⊢
  cases quoted : prices.find? position.symbol with
  | none => simp [quoted] at unlisted
  | some quote =>
    cases summed :
        GrossExposure.sum? exposure.gross (exposure? position quote.mark) with
    | none => simp [quoted, summed] at inRange
    | some gross =>
      simp only [quoted, summed] at unlisted inRange ⊢
      rcases Option.bind_eq_some_iff.mp summed with ⟨added, exposed, sum⟩
      exact ⟨unlisted, inRange, added,
        figure?_eq_some_iff.mpr ⟨quote, quoted, exposed⟩, sum⟩

/-- A known exposure is the sum of all that is exposed. -/
theorem foldlM_of_foldl_including
    {prices : Prices}
    {positions : List Position}
    {exposure : GrossExposure}
    {sum : Decimal}
    (known :
      positions.foldl (GrossExposure.including prices) exposure =
        ⟨sum, [], none⟩) :
    exposure.unpriced = [] ∧ exposure.overflow = none ∧
      (∀ position ∈ positions,
        figure? prices (position.symbol, exposedQuantity position) =
          some (figure prices (position.symbol, exposedQuantity position))) ∧
      (positions.map fun position =>
        figure prices (position.symbol, exposedQuantity position)).foldlM
          Decimal.add? exposure.gross = some sum := by
  induction positions generalizing exposure with
  | nil =>
    rw [List.foldl_nil] at known
    subst known
    exact ⟨rfl, rfl, fun _ member => by simp at member, rfl⟩
  | cons position rest hypothesis =>
    rcases hypothesis known with ⟨unlisted, inRange, priced, summed⟩
    rcases including_eq_known unlisted inRange with
      ⟨before, sooner, added, computed, sum⟩
    have same :
        figure prices (position.symbol, exposedQuantity position) = added := by
      unfold figure
      rw [computed]
      rfl
    refine ⟨before, sooner, ?_, ?_⟩
    · intro other member
      rcases List.mem_cons.mp member with rfl | later
      · rw [same]
        exact computed
      · exact priced other later
    · rw [List.map_cons, List.foldlM_cons, same, sum]
      exact summed

/--
The gross exposure is known exactly if every position that is not flat has a
quote and an exposure in range, and these can be added up.
-/
theorem grossExposure_eq_known_iff
    (positions : Positions)
    (prices : Prices)
    (gross : Decimal) :
    grossExposure positions prices = ⟨gross, [], none⟩ ↔
      (∀ position ∈ exposed positions,
        figure? prices (position.symbol, exposedQuantity position) =
          some (figure prices (position.symbol, exposedQuantity position))) ∧
      ((exposed positions).map fun position =>
        figure prices (position.symbol, exposedQuantity position)).foldlM
          Decimal.add? Decimal.zero = some gross := by
  constructor
  · intro known
    exact (foldlM_of_foldl_including known).2.2
  · rintro ⟨priced, summed⟩
    exact foldl_including priced summed

/-! ## Accepted entries -/

/-- An entry that is accepted passed its check. -/
theorem checkEntry_of_accept
    {view : View}
    {positions : Positions}
    {action : Action}
    (enters : action.kind = .entry)
    (accepted : judge view positions action = .accept) :
    checkEntry view positions action = .ok () := by
  unfold judge judgeAlone at accepted
  split at accepted
  · contradiction
  · rw [if_pos enters] at accepted
    cases checked : checkEntry view positions action with
    | ok => rfl
    | error rejection =>
      rw [checked] at accepted
      contradiction

/--
An entry is accepted only if its symbol has a positive mark price, and every
position that is not flat has a quote and an exposure in range, counted in the
gross exposure that the entry was checked with.  The mark price of a position
is positive if the entry is about its symbol; of the others the gate does not
ask that.
-/
theorem accepted_entry_counts_the_book
    {view : View}
    {positions : Positions}
    {action : Action}
    (enters : action.kind = .entry)
    (accepted : judge view positions action = .accept) :
    (∃ quote,
      view.prices.find? action.symbol = some quote ∧
        Decimal.zero < quote.mark) ∧
    (∀ position ∈ positions.values,
      position.isFlat = false →
        ∃ quote,
          view.prices.find? position.symbol = some quote ∧
            (exposure? position quote.mark).isSome = true ∧
            (position.symbol = action.symbol →
              Decimal.zero < quote.mark)) ∧
    ∃ gross,
      grossExposure positions view.prices = ⟨gross, [], none⟩ ∧
        ((exposed positions).map fun position =>
          figure view.prices
            (position.symbol, exposedQuantity position)).foldlM
              Decimal.add? Decimal.zero = some gross := by
  have passed :=
    passed_of_checkEntry (checkEntry_of_accept enters accepted)
  rcases passed with ⟨_, _, quoted, marked, known, _⟩
  rcases (grossExposure_eq_known_iff _ _ _).mp known with ⟨priced, summed⟩
  refine ⟨⟨_, quoted, marked⟩, ?_, _, known, summed⟩
  intro position member exposes
  have listed : position ∈ exposed positions :=
    List.mem_filter.mpr ⟨member, by simp [exposes]⟩
  rcases figure?_eq_some_iff.mp (priced position listed) with
    ⟨quote, found, counted⟩
  refine ⟨quote, found, Option.isSome_of_eq_some counted, ?_⟩
  intro same
  rw [same, quoted, Option.some.injEq] at found
  rw [← found]
  exact marked

namespace Sample

open Desk.Sample (entry hundred symbol thousand)

/-- The market for two instruments, the second of which is at a price. -/
def market (price : Decimal) : View where
  limits := .standard
  account := ⟨thousand⟩
  prices :=
    (OrderedMap.empty.insert symbol ⟨hundred, none⟩).insert neighbour
      ⟨price, none⟩

/-- A unit of the second instrument. -/
def held : Positions :=
  OrderedMap.empty.insert neighbour (unit neighbour)

/-- The action to enter the first instrument. -/
def entering : Action :=
  Action.ofMandate entry

/-- The first instrument is entered beside the second one, which has a price. -/
theorem accepted_entry_counts_the_book_held :
    judge (market hundred) held entering = .accept ∧
      (∃ quote,
        (market hundred).prices.find? entering.symbol = some quote ∧
          Decimal.zero < quote.mark) ∧
      ∃ quote,
        (market hundred).prices.find? neighbour = some quote ∧
          (exposure? (unit neighbour) quote.mark).isSome = true := by
  have accepted : judge (market hundred) held entering = .accept := by
    decide +kernel
  rcases accepted_entry_counts_the_book rfl accepted with ⟨own, book, _⟩
  rcases book (unit neighbour) (by decide +kernel) rfl with
    ⟨quote, found, counted, _⟩
  exact ⟨accepted, own, quote, found, counted⟩

/--
An entry is accepted beside a position whose mark price is zero, which counts
as an exposure of nothing.
-/
theorem entry_beside_a_price_of_zero :
    judge (market Decimal.zero) held entering = .accept ∧
      entering.kind = .entry ∧
      unit neighbour ∈ held.values ∧
      (unit neighbour).isFlat = false ∧
      (∀ quote,
        (market Decimal.zero).prices.find? (unit neighbour).symbol =
            some quote →
          ¬ Decimal.zero < quote.mark) ∧
      grossExposure held (market Decimal.zero).prices =
        ⟨Decimal.zero, [], none⟩ := by
  refine ⟨by decide +kernel, rfl, by decide +kernel, rfl, ?_,
    by decide +kernel⟩
  intro quote found
  have known :
      (market Decimal.zero).prices.find? (unit neighbour).symbol =
        some ⟨Decimal.zero, none⟩ := by
    decide +kernel
  rw [known, Option.some.injEq] at found
  rw [← found]
  decide

end Sample

end MandateDesk.Risk
