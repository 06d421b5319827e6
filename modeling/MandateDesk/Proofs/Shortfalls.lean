import MandateDesk.Proofs.Deleveraging

/-!
# When one cut is enough

Where the largest position is as large as the excess, a part of it is all that
has to go.  How much is a quotient, and a quotient is rounded.  Rounded up, or
not at all, it covers the excess; rounded down it falls short by half a unit of
its last digit at most, and then a residue of the excess is left, against which
the next position is cut by its full share.
-/

namespace MandateDesk

namespace Decimal

/-! ## How far rounding goes down -/

theorem size_le_halfEven (figure : ℚ) :
    2 * |figure| ≤ 2 * (halfEven figure : ℚ) + 1 := by
  have above := two_mul_le_of_roundHalfEven figure.num.natAbs figure.den_pos
  rw [size_eq, ← mul_div_assoc, div_le_iff₀ (den_cast_pos figure)]
  exact_mod_cast above

/--
What is rounded to the most digits that fit loses no more than one unit of the
28th digit, or of the 28th significant one where that is more.
-/
theorem sub_nearest?_le
    {figure size : ℚ}
    (fits : nearest? figure = some size) :
    |figure| - size ≤ max 1 |figure| / 10 ^ 28 := by
  unfold nearest? at fits
  split at fits
  · rename_i whole
    cases fits
    have within : mostFitting figure ≤ 28 := Nat.findGreatest_le 28
    have last := tenTo_cast_pos (mostFitting figure)
    have loss := size_le_halfEven (figure * tenTo (mostFitting figure))
    rw [abs_mul, Nat.abs_cast] at loss
    have short :
        |figure| -
            (halfEven (figure * tenTo (mostFitting figure)) : ℚ) /
              (tenTo (mostFitting figure) : ℚ) ≤
          1 / (2 * (tenTo (mostFitting figure) : ℚ)) := by
      rw [sub_le_iff_le_add, div_add_div _ _ (by positivity) last.ne',
        le_div_iff₀ (by positivity)]
      nlinarith
    refine short.trans ?_
    rw [div_le_div_iff₀ (by positivity) (by positivity), one_mul]
    rcases Nat.lt_or_eq_of_le within with fewer | all
    · -- one more digit does not fit, so that there are 28 significant ones
      have large : ¬ FitsWith figure (mostFitting figure + 1) :=
        Nat.findGreatest_is_greatest (Nat.lt_succ_self _) fewer
      have full :
          (mantissaBound : ℚ) ≤
            (halfEven (figure * tenTo (mostFitting figure)) : ℚ) * 10 := by
        exact_mod_cast mantissaBound_le_of_not_fitsWith large
      have gain := halfEven_le_size (figure * tenTo (mostFitting figure))
      rw [abs_mul, Nat.abs_cast] at gain
      have digits : (mantissaBound : ℚ) = 79228162514264337593543950336 := by
        norm_num [mantissaBound]
      have bounded :=
        mul_le_mul_of_nonneg_right (le_max_right (1 : ℚ) |figure|) last.le
      linarith
    · have bounded :=
        mul_le_mul_of_nonneg_right (le_max_left (1 : ℚ) |figure|) last.le
      have digits : (tenTo (mostFitting figure) : ℚ) = 10 ^ 28 := by
        rw [all]
        norm_num [tenTo]
      rw [digits] at bounded ⊢
      linarith
  · contradiction

/-- A result that is not negative falls short of the exact one by so much. -/
theorem Answers.sub_le
    {result : Decimal}
    {figure : ℚ}
    (answers : Answers (some result) figure)
    (nonneg : 0 ≤ figure) :
    figure - result.value ≤ max 1 figure / 10 ^ 28 := by
  have rounded : rounded? figure = some result.value := answers.symm
  rcases Option.map_eq_some_iff.mp rounded with ⟨size, fits, same⟩
  have loss := sub_nearest?_le fits
  rw [if_neg nonneg.not_gt] at same
  rw [abs_of_nonneg nonneg, same] at loss
  exact loss

/-- Something is left of what is larger, however close the two are. -/
theorem saturatingSub_le_zero_iff
    {first second : Decimal}
    (nonneg : 0 ≤ first.value)
    (nonneg' : 0 ≤ second.value) :
    first.saturatingSub second ≤ zero ↔ first ≤ second := by
  have answers := answers_saturatingSub nonneg nonneg'
  have nothing : Answers (some zero) 0 := value_zero ▸ answers_value zero
  rw [← value_le_iff, ← value_le_iff, value_zero]
  constructor
  · intro gone
    refine le_of_not_gt fun more => ?_
    have left := answers.nonneg (sub_pos.mpr more).le
    have vanished := (value_eq_zero_iff _).mp (le_antisymm gone left)
    exact more.ne' ((isZero_saturatingSub_iff first second).mp vanished)
  · intro less
    have gone := answers.mono nothing (sub_nonpos.mpr less)
    rwa [value_zero] at gone

end Decimal

namespace Risk

section Cutting

variable {share excess : Decimal} {candidate : Candidate}

/-! ## The first cut -/

/-- What one candidate has to give up against an excess, exactly. -/
def quotient (excess : Decimal) (candidate : Candidate) : ℚ :=
  excess.value / candidate.mark.value

/-- The quantity that is taken off is the quotient at least, or all there is. -/
theorem le_reductionQuantity
    (reducible : Reducible candidate)
    (share excess : Decimal) :
    candidate.position.quantity ≤ reductionQuantity share excess candidate ∨
      ∃ needed,
        Decimal.Answers (some needed) (quotient excess candidate) ∧
          min needed candidate.position.quantity ≤
            reductionQuantity share excess candidate := by
  have present : candidate.mark.isZero = false := by
    rw [Bool.eq_false_iff]
    intro absent
    exact reducible.marked.ne' ((Decimal.value_eq_zero_iff _).mpr absent)
  have answers := Decimal.answers_div? excess present
  unfold reductionQuantity
  simp only [← Decimal.value_le_iff, Decimal.value_min, Decimal.value_max]
  cases divided : excess.div? candidate.mark with
  | none =>
    left
    exact le_min (le_max_left _ _) le_rfl
  | some needed =>
    right
    rw [divided] at answers
    exact ⟨needed, answers, min_le_min_right _ (le_max_left _ _)⟩

/-- A quantity that is the quotient at least, or all, covers the excess. -/
theorem excess_le_reduction
    (reducible : Reducible candidate)
    (nonneg : 0 ≤ share.value)
    (within : share.value ≤ 1)
    {exposure : Decimal}
    (counted : candidate.position.quantity.mul? candidate.mark = some exposure)
    (large : excess ≤ exposure)
    (enough :
      quotient excess candidate ≤
          (reductionQuantity share excess candidate).value ∨
        candidate.position.quantity ≤
          reductionQuantity share excess candidate) :
    excess ≤ (suggestionFor share excess candidate).reduction := by
  have removed :=
    (suggests_suggestionFor reducible nonneg within excess).1.removed
  have product :=
    Decimal.answers_mul? (reductionQuantity share excess candidate)
      candidate.mark
  change (reductionQuantity share excess candidate).mul? _ = _ at removed
  rw [removed] at product
  rw [← Decimal.value_le_iff] at large ⊢
  rcases enough with quotientLe | all
  · refine (Decimal.answers_value excess).mono product ?_
    exact (div_le_iff₀ reducible.marked).mp quotientLe
  · have whole :=
      Decimal.answers_mul? candidate.position.quantity candidate.mark
    rw [counted] at whole
    refine large.trans (whole.mono product ?_)
    exact mul_le_mul_of_nonneg_right ((Decimal.value_le_iff _ _).mpr all)
      reducible.marked.le

/-- Where the excess is not covered, the quotient was rounded down. -/
theorem short_of_quotient
    (reducible : Reducible candidate)
    (nonneg : 0 ≤ share.value)
    (within : share.value ≤ 1)
    (positive : 0 ≤ excess.value)
    {exposure : Decimal}
    (counted : candidate.position.quantity.mul? candidate.mark = some exposure)
    (large : excess ≤ exposure)
    (uncovered :
      ¬ excess ≤ (suggestionFor share excess candidate).reduction) :
    ¬ Decimal.Representable (quotient excess candidate) ∧
      (reductionQuantity share excess candidate).value <
        quotient excess candidate ∧
      quotient excess candidate -
          (reductionQuantity share excess candidate).value ≤
        max 1 (quotient excess candidate) / 10 ^ 28 := by
  have covers :=
    mt (excess_le_reduction reducible nonneg within counted large) uncovered
  rw [not_or, not_le, Decimal.not_le, ← Decimal.value_lt_iff] at covers
  rcases covers with ⟨below, part⟩
  rcases le_reductionQuantity reducible share excess with
    all | ⟨needed, answers, least⟩
  · exact absurd ((Decimal.value_le_iff _ _).mpr all) part.not_ge
  rw [← Decimal.value_le_iff, Decimal.value_min] at least
  have reached :
      needed.value ≤ (reductionQuantity share excess candidate).value :=
    (min_le_iff.mp least).resolve_right part.not_ge
  refine ⟨fun representable => ?_, below, ?_⟩
  · rcases answers.exact representable with ⟨result, same, value⟩
    cases same
    rw [value] at reached
    exact reached.not_gt below
  · have quotientNonneg : 0 ≤ quotient excess candidate :=
      div_nonneg positive reducible.marked.le
    have loss := answers.sub_le quotientNonneg
    linarith

/-- The first candidate is cut, and the rest by what that leaves. -/
theorem suggestFrom_cons
    (present : Decimal.zero < excess)
    (rest : List Candidate) :
    suggestFrom share excess (candidate :: rest) =
      suggestionFor share excess candidate ::
        suggestFrom share
          (excess.saturatingSub
            (suggestionFor share excess candidate).reduction) rest :=
  if_neg (Decimal.not_le.mpr present)

theorem suggestFrom_eq_nil_iff {candidates : List Candidate} :
    suggestFrom share excess candidates = [] ↔
      excess ≤ Decimal.zero ∨ candidates = [] := by
  cases candidates with
  | nil => exact iff_of_true rfl (Or.inr rfl)
  | cons candidate rest =>
    rw [or_iff_left (List.cons_ne_nil _ _)]
    constructor
    · intro nothing
      refine Decimal.not_lt.mp fun present => ?_
      rw [suggestFrom_cons present] at nothing
      exact List.cons_ne_nil _ _ nothing
    · exact fun nothing => if_pos nothing

/-- No cut follows the first one if that covers the excess. -/
theorem suggestFrom_left_eq_nil_iff
    (reducible : Reducible candidate)
    (nonneg : 0 ≤ share.value)
    (within : share.value ≤ 1)
    (positive : 0 ≤ excess.value)
    (rest : List Candidate) :
    suggestFrom share
          (excess.saturatingSub
            (suggestionFor share excess candidate).reduction) rest = [] ↔
      excess ≤ (suggestionFor share excess candidate).reduction ∨
        rest = [] := by
  have removes :=
    (suggests_suggestionFor reducible nonneg within excess).2
  rw [suggestFrom_eq_nil_iff,
    Decimal.saturatingSub_le_zero_iff positive removes]

end Cutting

/-! ## The largest position -/

section Largest

variable {prices : Prices} {positions : Positions}
variable {first candidate : Candidate} {rest : List Candidate}

/-- Nothing is larger than the first candidate. -/
theorem Ranked.exposure_le
    (ranked : Ranked prices positions (first :: rest))
    (listed : candidate ∈ first :: rest)
    {exposure : Decimal}
    (known : exposure? candidate.position candidate.mark = some exposure)
    (counted : (exposure? first.position first.mark).isSome = true) :
    ∃ largest,
      exposure? first.position first.mark = some largest ∧
        exposure ≤ largest := by
  rcases Option.isSome_iff_exists.mp counted with ⟨largest, most⟩
  refine ⟨largest, most, (Decimal.value_le_iff _ _).mp ?_⟩
  rcases List.mem_cons.mp listed with rfl | later
  · rw [known] at most
    cases most
    exact le_rfl
  · rcases (List.pairwise_cons.mp ranked.ordered).1 candidate later with
      ⟨larger, smaller, known', other, ordered⟩
    rw [most] at known'
    rw [known] at other
    cases known'
    cases other
    rcases ordered with less | ⟨same, _⟩
    · exact ((Decimal.value_lt_iff _ _).mpr less).le
    · exact same.le

/-- The exposure of an open position is its quantity times its mark price. -/
theorem exists_product_of_exposure?
    (reducible : Reducible candidate)
    (opened : candidate.position.state = .opened)
    {exposure : Decimal}
    (known : exposure? candidate.position candidate.mark = some exposure) :
    ∃ product,
      candidate.position.quantity.mul? candidate.mark = some product ∧
        product.value = exposure.value := by
  rcases Option.map_eq_some_iff.mp known with ⟨product, multiplied, rfl⟩
  unfold exposedQuantity at multiplied
  rw [opened] at multiplied
  have answers :=
    Decimal.answers_mul? candidate.position.quantity candidate.mark
  rw [multiplied] at answers
  have nonneg :=
    answers.nonneg (mul_nonneg reducible.held reducible.marked.le)
  exact ⟨product, multiplied,
    (abs_of_nonneg nonneg).symm.trans (Decimal.value_magnitude _).symm⟩

end Largest

/--
Where an open position is as large as the excess, the first suggestion is about
the largest one.  It is the only one unless the quantity that it takes off,
times the mark price, is below the excess and there is another candidate.  That
takes a quotient of excess and mark price that has too many digits and is
rounded down, so that the quantity is short of it by no more than a unit of the
28th digit.
-/
theorem one_cut_suffices_unless_short
    {view : View}
    {positions : Positions}
    (valid : view.limits.Valid)
    (solvent : Decimal.zero < view.account.equity)
    (filed : Filed positions)
    (sound : ∀ position ∈ positions.values, position.WellFormed)
    (counted : ∀ candidate ∈ openCandidates view.prices positions,
      (exposure? candidate.position candidate.mark).isSome = true)
    (present : Decimal.zero < excess view positions)
    {candidate : Candidate}
    (listed : candidate ∈ openCandidates view.prices positions)
    {exposure : Decimal}
    (known : exposure? candidate.position candidate.mark = some exposure)
    (large : excess view positions ≤ exposure) :
    ∃ first rest suggestion others,
      Ranked view.prices positions (first :: rest) ∧
      suggestions view positions = suggestion :: others ∧
      Suggests view.limits.reductionShare first suggestion ∧
      (others = [] ↔
        excess view positions ≤ suggestion.reduction ∨ rest = []) ∧
      (others ≠ [] →
        ¬ Decimal.Representable (quotient (excess view positions) first) ∧
        suggestion.quantity.value < quotient (excess view positions) first ∧
        quotient (excess view positions) first - suggestion.quantity.value ≤
          max 1 (quotient (excess view positions) first) / 10 ^ 28) := by
  have bounded := valid.bounded
  have nonneg := bounded.reduction_pos.le
  have positive := (Decimal.value_pos present).le
  have ranked := ranked_orderedCandidates filed counted
  have perm : (orderedCandidates view.prices positions).Perm
      (openCandidates view.prices positions) :=
    List.mergeSort_perm _ _
  have planned :
      suggestions view positions =
        suggestFrom view.limits.reductionShare (excess view positions)
          (orderedCandidates view.prices positions) :=
    if_neg (Decimal.not_le.mpr solvent)
  have member := perm.mem_iff.mpr listed
  generalize orderedCandidates view.prices positions = candidates at *
  cases candidates with
  | nil => simp at member
  | cons first rest =>
    have head : first ∈ openCandidates view.prices positions :=
      perm.mem_iff.mp (List.mem_cons_self ..)
    have reducible := reducible_of_mem sound head (counted first head)
    have opened := ((mem_openCandidates_iff first).mp head).2.1
    rcases ranked.exposure_le member known (counted first head) with
      ⟨largest, most, larger⟩
    rcases exists_product_of_exposure? reducible opened most with
      ⟨product, multiplied, same⟩
    have reaches : excess view positions ≤ product := by
      rw [← Decimal.value_le_iff] at large larger ⊢
      rw [same]
      exact large.trans larger
    have suggests :=
      (suggests_suggestionFor reducible nonneg bounded.reduction_le
        (excess view positions)).1
    have single :=
      suggestFrom_left_eq_nil_iff reducible nonneg bounded.reduction_le
        positive rest
    refine ⟨first, rest, _, _, ranked,
      planned.trans (suggestFrom_cons present rest), suggests, single,
      fun more => ?_⟩
    have uncovered := mt single.mpr more
    rw [not_or] at uncovered
    exact short_of_quotient reducible nonneg bounded.reduction_le positive
      multiplied reaches uncovered.1

namespace Sample

open Desk.Sample (hundred symbol thousand)

/-- The largest position of the heavy account, which is the only one to cut. -/
theorem one_cut_suffices_heavy :
    Decimal.zero < excess heavy pair ∧
      Candidate.mk (unit symbol) thousand ∈
        openCandidates heavy.prices pair ∧
      excess heavy pair ≤ thousand ∧
      ∃ suggestion, suggestions heavy pair = [suggestion] ∧
        suggestion.symbol = symbol := by
  have valid : heavy.limits.Valid := Limits.standard_valid
  have listed :
      Candidate.mk (unit symbol) thousand ∈
        openCandidates heavy.prices pair :=
    (mem_openCandidates_iff _).mpr
      ⟨by decide +kernel, rfl, ⟨thousand, none⟩, rfl, by decide, rfl⟩
  have large : excess heavy pair ≤ thousand := by decide +kernel
  rcases
      @one_cut_suffices_unless_short heavy pair valid (by decide) filed_pair
        (by decide +kernel) (by decide +kernel) (by decide +kernel)
        ⟨unit symbol, thousand⟩ listed thousand (by decide +kernel) large with
    ⟨first, rest, suggestion, others, _, planned, _, _, _⟩
  have about := suggestions_heavy
  rw [planned, List.map_cons, List.cons.injEq, List.map_eq_nil_iff] at about
  exact ⟨by decide +kernel, listed, large, suggestion,
    about.2 ▸ planned, about.1⟩

/-- A mark price by which a hundred cannot be divided. -/
def threeHundred : Decimal :=
  ⟨false, 300, 0, by decide, Decimal.scale_zero_le⟩

/-- The mark price of the smaller position. -/
def twoHundred : Decimal :=
  ⟨false, 200, 0, by decide, Decimal.scale_zero_le⟩

/-- An equity whose aim is a hundred below the exposure. -/
def eighty : Decimal :=
  ⟨false, 80, 0, by decide, Decimal.scale_zero_le⟩

/-- An account that has to give up a third of its larger position. -/
def thirds : View where
  limits := .standard
  account := ⟨eighty⟩
  prices :=
    (OrderedMap.empty.insert symbol ⟨threeHundred, none⟩).insert neighbour
      ⟨twoHundred, none⟩

/--
The larger position is three times the excess, and yet the smaller one is to be
cut, too, and by its full share.
-/
theorem second_position_is_cut :
    thirds.limits.Valid ∧
      Decimal.zero < thirds.account.equity ∧
      Filed pair ∧
      (∀ position ∈ pair.values, position.WellFormed) ∧
      openCandidates thirds.prices pair =
        [⟨unit symbol, threeHundred⟩, ⟨unit neighbour, twoHundred⟩] ∧
      excess thirds pair = hundred ∧
      exposure? (unit symbol) threeHundred = some threeHundred ∧
      exposure? (unit neighbour) twoHundred = some twoHundred ∧
      ∃ first second,
        suggestions thirds pair = [first, second] ∧
        first.symbol = symbol ∧
        second.symbol = neighbour ∧
        (unit neighbour).quantity.mul? thirds.limits.reductionShare =
          some second.quantity := by
  have ordered :
      orderedCandidates thirds.prices pair =
        openCandidates thirds.prices pair :=
    List.mergeSort_of_pairwise (by decide +kernel)
  have cut :
      suggestions thirds pair =
        [suggestionFor thirds.limits.reductionShare hundred
            ⟨unit symbol, threeHundred⟩,
          suggestionFor thirds.limits.reductionShare
            (hundred.saturatingSub
              (suggestionFor thirds.limits.reductionShare hundred
                ⟨unit symbol, threeHundred⟩).reduction)
            ⟨unit neighbour, twoHundred⟩] := by
    unfold suggestions
    rw [ordered]
    rfl
  exact ⟨Limits.standard_valid, by decide, filed_pair, by decide +kernel,
    rfl, by decide +kernel, by decide +kernel, by decide +kernel,
    _, _, cut, rfl, rfl, by decide +kernel⟩

end Sample

end Risk

end MandateDesk
