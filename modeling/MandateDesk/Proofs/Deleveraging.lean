import MandateDesk.Proofs.Relaxing
import MandateDesk.Risk.Deleverage

/-!
# Reductions down to the aim

The suggestions go through the open positions by exposure, the largest first,
until nothing is left of the excess.  Each takes off what the excess needs, but
at least a fixed share of the position and at most all of it, so that what it
removes is in range whenever the exposure of the position is.  `IsPlan` says
what has been suggested from an excess on: one more suggestion keeps it, and
the whole list has it.
-/

namespace MandateDesk.Risk

/-! ## The order of the candidates -/

/-- The size of a candidate, if it is in range. -/
def Candidate.size? (candidate : Candidate) : Option ℚ :=
  (exposure? candidate.position candidate.mark).map Decimal.value

theorem compareExposures_eq
    (first second : Option Decimal) :
    compareExposures first second =
      compare (first.map Decimal.value) (second.map Decimal.value) := by
  cases first with
  | none => cases second <;> rfl
  | some first =>
    cases second with
    | none => rfl
    | some second =>
      show (if first < second then .lt else if second < first then .gt
        else .eq) = compare first.value second.value
      simp only [← Decimal.value_lt_iff]
      rcases lt_trichotomy first.value second.value with less | same | more
      · rw [if_pos less, compare_lt_iff_lt.mpr less]
      · rw [if_neg same.not_lt, if_neg same.not_gt, compare_eq_iff_eq.mpr same]
      · rw [if_neg more.not_gt, if_pos more, compare_gt_iff_gt.mpr more]

theorem candidateOrder_eq :
    candidateOrder =
      compareLex
        (fun first second => compare second.size? first.size?)
        (compareOn fun candidate => candidate.position.symbol) := by
  funext first second
  unfold candidateOrder
  rw [compareExposures_eq]
  rfl

instance : Std.TransCmp candidateOrder := by
  rw [candidateOrder_eq]
  have sizes : Std.TransCmp fun first second : Candidate =>
      compare second.size? first.size? :=
    @Std.TransCmp.opposite _ (compareOn Candidate.size?) _
  exact inferInstance

/--
A candidate comes before another one if it is larger, or if both have the same
size and its symbol comes first.
-/
def Precedes (first second : Candidate) : Prop :=
  ∃ larger smaller,
    exposure? first.position first.mark = some larger ∧
    exposure? second.position second.mark = some smaller ∧
    (smaller < larger ∨
      smaller.value = larger.value ∧
        compare first.position.symbol second.position.symbol = .lt)

theorem precedes_of_isLE
    {first second : Candidate}
    (counted : (exposure? first.position first.mark).isSome = true)
    (counted' : (exposure? second.position second.mark).isSome = true)
    (apart : first.position.symbol ≠ second.position.symbol)
    (ordered : (candidateOrder first second).isLE = true) :
    Precedes first second := by
  rcases Option.isSome_iff_exists.mp counted with ⟨larger, known⟩
  rcases Option.isSome_iff_exists.mp counted' with ⟨smaller, known'⟩
  refine ⟨larger, smaller, known, known', ?_⟩
  unfold candidateOrder at ordered
  rw [known, known', compareExposures_eq, Option.map_some, Option.map_some]
    at ordered
  change ((compare smaller.value larger.value).then _).isLE = true at ordered
  rw [← Decimal.value_lt_iff]
  rcases lt_trichotomy smaller.value larger.value with less | same | more
  · exact Or.inl less
  · refine Or.inr ⟨same, ?_⟩
    rw [compare_eq_iff_eq.mpr same] at ordered
    change (compare _ _).isLE = true at ordered
    cases symbols : compare first.position.symbol second.position.symbol with
    | lt => rfl
    | eq => exact absurd (Std.LawfulEqOrd.eq_of_compare symbols) apart
    | gt =>
      rw [symbols] at ordered
      contradiction
  · rw [compare_gt_iff_gt.mpr more] at ordered
    contradiction

section Candidates

variable {prices : Prices} {positions : Positions}

/-- The candidate that a position is, if it is one. -/
def candidate? (prices : Prices) (position : Position) : Option Candidate :=
  if position.state = .opened then
    match prices.find? position.symbol with
    | some quote =>
      if Decimal.zero < quote.mark then some ⟨position, quote.mark⟩
      else none
    | none => none
  else none

theorem openCandidates_eq
    (prices : Prices)
    (positions : Positions) :
    openCandidates prices positions =
      positions.values.filterMap (candidate? prices) :=
  rfl

theorem candidate?_eq_some_iff
    {position : Position}
    {candidate : Candidate} :
    candidate? prices position = some candidate ↔
      candidate.position = position ∧
      position.state = .opened ∧
      ∃ quote,
        prices.find? position.symbol = some quote ∧
        Decimal.zero < quote.mark ∧
        candidate.mark = quote.mark := by
  constructor
  · intro known
    unfold candidate? at known
    split at known
    · rename_i opened
      split at known
      · rename_i quote quoted
        split at known
        · rename_i marked
          cases known
          exact ⟨rfl, opened, quote, quoted, marked, rfl⟩
        · contradiction
      · contradiction
    · contradiction
  · rintro ⟨rfl, opened, quote, quoted, marked, same⟩
    unfold candidate?
    rw [if_pos opened, quoted]
    simp only
    rw [if_pos marked, ← same]

theorem mem_openCandidates_iff
    (candidate : Candidate) :
    candidate ∈ openCandidates prices positions ↔
      candidate.position ∈ positions.values ∧
      candidate.position.state = .opened ∧
      ∃ quote,
        prices.find? candidate.position.symbol = some quote ∧
        Decimal.zero < quote.mark ∧
        candidate.mark = quote.mark := by
  rw [openCandidates_eq, List.mem_filterMap]
  simp only [candidate?_eq_some_iff]
  constructor
  · rintro ⟨position, member, rfl, priced⟩
    exact ⟨member, priced⟩
  · rintro ⟨member, priced⟩
    exact ⟨candidate.position, member, rfl, priced⟩

/-- No symbol has two candidates. -/
theorem openCandidates_nodup
    (filed : Filed positions) :
    ((openCandidates prices positions).map fun candidate =>
      candidate.position.symbol).Nodup := by
  have distinct : (positions.values.map Position.symbol).Nodup := by
    rw [OrderedMap.map_values_eq_keys fun _ _ found => filed found]
    exact positions.keys_nodup
  rw [List.Nodup, List.pairwise_map] at distinct ⊢
  rw [openCandidates_eq, List.pairwise_filterMap]
  refine distinct.imp ?_
  intro position other apart candidate known candidate' known'
  rw [(candidate?_eq_some_iff.mp known).1, (candidate?_eq_some_iff.mp known').1]
  exact apart

/-- The candidates of a book in the order of suggestions. -/
structure Ranked
    (prices : Prices)
    (positions : Positions)
    (candidates : List Candidate) :
    Prop where
  mem_iff : ∀ candidate,
    candidate ∈ candidates ↔
      candidate.position ∈ positions.values ∧
      candidate.position.state = .opened ∧
      ∃ quote,
        prices.find? candidate.position.symbol = some quote ∧
        Decimal.zero < quote.mark ∧
        candidate.mark = quote.mark
  distinct : (candidates.map fun candidate => candidate.position.symbol).Nodup
  ordered : candidates.Pairwise Precedes

theorem ranked_orderedCandidates
    (filed : Filed positions)
    (counted : ∀ candidate ∈ openCandidates prices positions,
      (exposure? candidate.position candidate.mark).isSome = true) :
    Ranked prices positions (orderedCandidates prices positions) := by
  have perm : (orderedCandidates prices positions).Perm
      (openCandidates prices positions) :=
    List.mergeSort_perm _ _
  have distinct :=
    (perm.map fun candidate => candidate.position.symbol).nodup_iff.mpr
      (openCandidates_nodup filed)
  have sorted : (orderedCandidates prices positions).Pairwise
      fun first second => (candidateOrder first second).isLE = true := by
    apply List.pairwise_mergeSort
    · intro first second third earlier later
      exact Std.TransCmp.isLE_trans earlier later
    · intro first second
      rw [@Std.OrientedCmp.eq_swap _ candidateOrder _ first second]
      cases candidateOrder second first <;> rfl
  refine ⟨?_, distinct, ?_⟩
  · intro candidate
    rw [perm.mem_iff, mem_openCandidates_iff]
  · have apart := List.pairwise_map.mp distinct
    refine (sorted.and apart).imp_of_mem ?_
    rintro first second member member' ⟨before, differ⟩
    exact precedes_of_isLE (counted first (perm.mem_iff.mp member))
      (counted second (perm.mem_iff.mp member')) differ before

end Candidates

/-! ## What a suggestion removes -/

/--
A suggestion is about a candidate.  It removes at least a share of the
position and at most all of it, and its reduction is in range.
-/
structure Suggests
    (share : Decimal)
    (candidate : Candidate)
    (suggestion : Suggestion) :
    Prop where
  symbol_eq : suggestion.symbol = candidate.position.symbol
  least : ∃ cut,
    candidate.position.quantity.mul? share = some cut ∧
      min candidate.position.quantity cut ≤ suggestion.quantity
  most : suggestion.quantity ≤ candidate.position.quantity
  removed :
    suggestion.quantity.mul? candidate.mark = some suggestion.reduction

/-- A candidate whose exposure is in range. -/
structure Reducible (candidate : Candidate) : Prop where
  held : 0 ≤ candidate.position.quantity.value
  marked : 0 < candidate.mark.value
  counted :
    ∃ exposure,
      candidate.position.quantity.mul? candidate.mark = some exposure

theorem reducible_of_mem
    {prices : Prices}
    {positions : Positions}
    {candidate : Candidate}
    (sound : ∀ position ∈ positions.values, position.WellFormed)
    (listed : candidate ∈ openCandidates prices positions)
    (counted :
      (exposure? candidate.position candidate.mark).isSome = true) :
    Reducible candidate := by
  rcases (mem_openCandidates_iff candidate).mp listed with
    ⟨member, opened, quote, _, marked, same⟩
  rcases Option.isSome_iff_exists.mp counted with ⟨exposure, known⟩
  rcases Option.map_eq_some_iff.mp known with ⟨product, multiplied, _⟩
  refine ⟨quantity_nonneg (sound _ member),
    same ▸ Decimal.value_pos marked, product, ?_⟩
  unfold exposedQuantity at multiplied
  rw [opened] at multiplied
  exact multiplied

/-- The suggestion for a candidate against an excess. -/
def suggestionFor
    (share excess : Decimal)
    (candidate : Candidate) :
    Suggestion where
  symbol := candidate.position.symbol
  quantity := reductionQuantity share excess candidate
  reduction :=
    (reductionQuantity share excess candidate).saturatingMul candidate.mark

section Reducing

variable {share : Decimal} {candidate : Candidate}

/-- What is taken off is between a share of the position and all of it. -/
theorem reductionQuantity_bounds
    (reducible : Reducible candidate)
    (nonneg : 0 ≤ share.value)
    (excess : Decimal) :
    0 ≤ (reductionQuantity share excess candidate).value ∧
      min candidate.position.quantity
          (candidate.position.quantity.saturatingMul share) ≤
        reductionQuantity share excess candidate ∧
      reductionQuantity share excess candidate ≤
        candidate.position.quantity := by
  have cut := Decimal.saturatingMul_nonneg reducible.held nonneg
  unfold reductionQuantity
  simp only [← Decimal.value_le_iff, Decimal.value_min, Decimal.value_max]
  refine ⟨?_, ?_, min_le_right _ _⟩
  · exact le_min (cut.trans (le_max_right _ _)) reducible.held
  · rw [min_comm]
    exact min_le_min_right _ (le_max_right _ _)

/-- A share of a quantity is in range as the quantity is. -/
theorem exists_cut
    (reducible : Reducible candidate)
    (nonneg : 0 ≤ share.value)
    (within : share.value ≤ 1) :
    candidate.position.quantity.mul? share =
      some (candidate.position.quantity.saturatingMul share) := by
  have product :=
    Decimal.answers_mul? candidate.position.quantity share
  rcases product.exists_le (Decimal.answers_value candidate.position.quantity)
      (mul_nonneg reducible.held nonneg)
      (mul_le_of_le_one_right reducible.held within) with
    ⟨cut, known, _⟩
  rw [known, Decimal.saturatingMul_of_mul? known]

theorem suggests_suggestionFor
    (reducible : Reducible candidate)
    (nonneg : 0 ≤ share.value)
    (within : share.value ≤ 1)
    (excess : Decimal) :
    Suggests share candidate (suggestionFor share excess candidate) ∧
      0 ≤ (suggestionFor share excess candidate).reduction.value := by
  rcases reductionQuantity_bounds reducible nonneg excess with
    ⟨positive, least, most⟩
  rcases reducible.counted with ⟨exposure, counted⟩
  have whole := Decimal.answers_mul? candidate.position.quantity candidate.mark
  rw [counted] at whole
  have product := Decimal.answers_mul?
    (reductionQuantity share excess candidate) candidate.mark
  rcases product.exists_le whole (mul_nonneg positive reducible.marked.le)
      (mul_le_mul_of_nonneg_right ((Decimal.value_le_iff _ _).mpr most)
        reducible.marked.le) with
    ⟨reduction, known, removes, _⟩
  have same : (suggestionFor share excess candidate).reduction = reduction :=
    Decimal.saturatingMul_of_mul? known
  rw [same]
  exact ⟨⟨rfl, ⟨_, exists_cut reducible nonneg within, least⟩, most,
    same ▸ known⟩, removes⟩

end Reducing

/-! ## The whole plan -/

/-- What is left of an excess once some reductions are taken off it. -/
def remainder?
    (excess : Decimal)
    (suggestions : List Suggestion) :
    Option Decimal :=
  suggestions.foldlM
    (fun left suggestion => left.sub? suggestion.reduction) excess

/--
The candidates that are taken have a suggestion each.  Something is left of the
excess before every suggestion, and after the last one only if no candidate is
left.
-/
structure IsPlan
    (share excess : Decimal)
    (taken rest : List Candidate)
    (suggestions : List Suggestion) :
    Prop where
  each : List.Forall₂ (Suggests share) taken suggestions
  needed : ∀ earlier suggestion later,
    suggestions = earlier ++ suggestion :: later →
      ∃ left, remainder? excess earlier = some left ∧ Decimal.zero < left
  enough : ∃ left,
    remainder? excess suggestions = some left ∧
      (left ≤ Decimal.zero ∨ rest = [])

section Planning

variable {share excess : Decimal} {candidates : List Candidate}

theorem IsPlan.stop
    (done : excess ≤ Decimal.zero ∨ candidates = []) :
    IsPlan share excess [] candidates [] where
  each := .nil
  needed := by simp
  enough := ⟨excess, rfl, done⟩

theorem IsPlan.step
    {candidate : Candidate}
    {suggestion : Suggestion}
    {left : Decimal}
    {taken rest : List Candidate}
    {suggestions : List Suggestion}
    (present : Decimal.zero < excess)
    (suggests : Suggests share candidate suggestion)
    (taking : excess.sub? suggestion.reduction = some left)
    (plan : IsPlan share left taken rest suggestions) :
    IsPlan share excess (candidate :: taken) rest
      (suggestion :: suggestions) := by
  have onward (later : List Suggestion) :
      remainder? excess (suggestion :: later) = remainder? left later := by
    unfold remainder?
    rw [List.foldlM_cons, taking]
    rfl
  refine ⟨.cons suggests plan.each, ?_, ?_⟩
  · intro earlier current later split
    cases earlier with
    | nil => exact ⟨excess, rfl, present⟩
    | cons first earlier =>
      rw [List.cons_append, List.cons.injEq] at split
      rcases split with ⟨rfl, split⟩
      rw [onward]
      exact plan.needed earlier current later split
  · rw [onward]
    exact plan.enough

/-- Suggestions are about the candidates that they are made for. -/
theorem map_symbol_eq
    {taken : List Candidate}
    {suggestions : List Suggestion}
    (each : List.Forall₂ (Suggests share) taken suggestions) :
    suggestions.map Suggestion.symbol =
      taken.map fun candidate => candidate.position.symbol := by
  induction each with
  | nil => rfl
  | cons suggests _ hypothesis =>
    rw [List.map_cons, List.map_cons, suggests.symbol_eq, hypothesis]

/-- The suggestions against an excess are a plan for the first candidates. -/
theorem isPlan_suggestFrom
    (nonneg : 0 ≤ share.value)
    (within : share.value ≤ 1)
    (reducible : ∀ candidate ∈ candidates, Reducible candidate)
    (excess : Decimal) :
    ∃ taken rest,
      taken ++ rest = candidates ∧
        IsPlan share excess taken rest
          (suggestFrom share excess candidates) := by
  induction candidates generalizing excess with
  | nil => exact ⟨[], [], rfl, .stop (.inr rfl)⟩
  | cons candidate rest hypothesis =>
    have unfolded :
        suggestFrom share excess (candidate :: rest) =
          if excess ≤ Decimal.zero then []
          else
            suggestionFor share excess candidate ::
              suggestFrom share
                (excess.saturatingSub
                  (suggestionFor share excess candidate).reduction) rest :=
      rfl
    rw [unfolded]
    split
    · rename_i done
      exact ⟨[], candidate :: rest, rfl, .stop (.inl done)⟩
    · rename_i present
      rw [Decimal.not_le] at present
      have positive := Decimal.value_pos present
      have first := reducible candidate (List.mem_cons_self ..)
      rcases suggests_suggestionFor first nonneg within excess with
        ⟨suggests, removes⟩
      rcases hypothesis
          (fun other member => reducible other (List.mem_cons_of_mem _ member))
          (excess.saturatingSub
            (suggestionFor share excess candidate).reduction) with
        ⟨taken, later, parts, plan⟩
      exact ⟨candidate :: taken, later, congrArg (candidate :: ·) parts,
        plan.step present suggests
          (Decimal.sub?_eq_some positive.le removes)⟩

end Planning

/-! ## The excess -/

section Excess

variable {view : View} {positions : Positions}

/-- The excess is the difference of the exposure and the aim, in range. -/
theorem sub?_eq_excess
    (valid : view.limits.Valid)
    (solvent : Decimal.zero < view.account.equity) :
    (grossExposure positions view.prices).gross.sub?
        (view.limits.targetLeverage.saturatingMul view.account.equity) =
      some (excess view positions) := by
  exact Decimal.sub?_eq_some (gross_nonneg positions view.prices)
    (Decimal.saturatingMul_nonneg valid.bounded.target_pos.le
      (Decimal.value_pos solvent).le)

/-- An account that is not above its aim has no excess. -/
theorem excess_le_zero
    (valid : view.limits.Valid)
    (solvent : Decimal.zero < view.account.equity)
    (within :
      (grossExposure positions view.prices).gross.value ≤
        view.limits.targetLeverage.value * view.account.equity.value) :
    excess view positions ≤ Decimal.zero := by
  have nonneg := gross_nonneg positions view.prices
  have aim :
      (grossExposure positions view.prices).gross.value ≤
        (view.limits.targetLeverage.saturatingMul
          view.account.equity).value := by
    rw [Decimal.saturatingMul_eq (nonneg.trans within)]
    exact (Decimal.answers_value _).getD_mono (Decimal.answers_mul? _ _)
      nonneg within
  have answers := Decimal.answers_sub?
    (grossExposure positions view.prices).gross
    (view.limits.targetLeverage.saturatingMul view.account.equity)
  rw [sub?_eq_excess valid solvent] at answers
  rw [← Decimal.value_le_iff]
  refine answers.mono (Decimal.answers_value Decimal.zero) ?_
  rw [Decimal.value_zero]
  exact sub_nonpos.mpr aim

theorem suggestions_eq_nil
    (nothing : excess view positions ≤ Decimal.zero) :
    suggestions view positions = [] := by
  unfold suggestions
  split
  · rfl
  · cases orderedCandidates view.prices positions with
    | nil => rfl
    | cons candidate rest => exact if_pos nothing

end Excess

/--
The suggestions go through the open positions with a positive mark price, the
largest exposure first and equal ones by symbol, and take up a first part of
them.  Each takes off at least a share of its position, and at most all of it.
Subtracted one by one from the excess, they leave something before each of
them; after the last one nothing is left, or no candidate.  There are none
where there is no excess.
-/
theorem suggestions_meet_the_aim
    {view : View}
    {positions : Positions}
    (valid : view.limits.Valid)
    (solvent : Decimal.zero < view.account.equity)
    (filed : Filed positions)
    (sound : ∀ position ∈ positions.values, position.WellFormed)
    (counted : ∀ candidate ∈ openCandidates view.prices positions,
      (exposure? candidate.position candidate.mark).isSome = true) :
    (grossExposure positions view.prices).gross.sub?
        (view.limits.targetLeverage.saturatingMul view.account.equity) =
      some (excess view positions) ∧
    (∃ taken rest,
      Ranked view.prices positions (taken ++ rest) ∧
        IsPlan view.limits.reductionShare (excess view positions) taken rest
          (suggestions view positions)) ∧
    ((suggestions view positions).map Suggestion.symbol).Nodup ∧
    (excess view positions ≤ Decimal.zero → suggestions view positions = []) ∧
    ((grossExposure positions view.prices).gross.value ≤
        view.limits.targetLeverage.value * view.account.equity.value →
      suggestions view positions = []) := by
  have ranked := ranked_orderedCandidates filed counted
  have reducible : ∀ candidate ∈ orderedCandidates view.prices positions,
      Reducible candidate := by
    intro candidate member
    have listed := (List.mergeSort_perm _ _).mem_iff.mp member
    exact reducible_of_mem sound listed (counted candidate listed)
  have bounded := valid.bounded
  rcases isPlan_suggestFrom bounded.reduction_pos.le bounded.reduction_le
      reducible (excess view positions) with
    ⟨taken, rest, parts, plan⟩
  have listed :
      suggestions view positions =
        suggestFrom view.limits.reductionShare (excess view positions)
          (orderedCandidates view.prices positions) :=
    if_neg (Decimal.not_le.mpr solvent)
  rw [← listed] at plan
  rw [← parts] at ranked
  refine ⟨sub?_eq_excess valid solvent, ⟨taken, rest, ranked, plan⟩, ?_,
    suggestions_eq_nil, ?_⟩
  · have distinct := ranked.distinct
    rw [List.map_append] at distinct
    rw [map_symbol_eq plan.each]
    exact distinct.of_append_left
  · intro within
    exact suggestions_eq_nil (excess_le_zero valid solvent within)

namespace Sample

open Desk.Sample (hundred symbol thousand)

/-- An account that holds eleven times its equity, mostly of one instrument. -/
def heavy : View where
  limits := .standard
  account := ⟨hundred⟩
  prices :=
    (OrderedMap.empty.insert symbol ⟨thousand, none⟩).insert neighbour
      ⟨hundred, none⟩

/-- The larger position comes first, and to take a part of it off is enough. -/
theorem suggestions_heavy :
    (suggestions heavy pair).map Suggestion.symbol = [symbol] := by
  have ordered :
      orderedCandidates heavy.prices pair =
        openCandidates heavy.prices pair :=
    List.mergeSort_of_pairwise (by decide +kernel)
  unfold suggestions
  rw [ordered]
  decide +kernel

/-- The plan for the two positions takes the first of them, in part. -/
theorem suggestions_meet_the_aim_pair :
    (suggestions heavy pair).map Suggestion.symbol = [symbol] ∧
      ∃ taken rest,
        Ranked heavy.prices pair (taken ++ rest) ∧
          IsPlan heavy.limits.reductionShare (excess heavy pair) taken rest
            (suggestions heavy pair) := by
  have valid : heavy.limits.Valid := Limits.standard_valid
  have plan :=
    suggestions_meet_the_aim valid (by decide) filed_pair (by decide +kernel)
      (by decide +kernel)
  exact ⟨suggestions_heavy, plan.2.1⟩

end Sample

end MandateDesk.Risk
