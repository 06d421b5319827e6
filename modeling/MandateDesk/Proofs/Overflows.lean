import MandateDesk.Proofs.Relaxing

/-!
# Exposures out of range

The gross exposure of a book adds up the exposures of the positions that have
a quote.  As long as every product and every partial sum is in range it is this
sum, and no overflow is noted.

At the first position for which one of them is out of range the sum becomes the
largest number, and the symbol is noted.  Nothing that follows changes either:
no exposure is negative, and where one can be added to the largest number at
all, so little is added that the sum is rounded back to it.  What is built on
such a sum is refused: every entry that would otherwise be looked at is rejected
for the symbol that was noted.
-/

namespace MandateDesk

/-! ## Sums with the largest number -/

namespace Decimal

/-- Only one number has the value of the largest one. -/
theorem eq_largest_of_value
    {number : Decimal}
    (same : number.value = largest.value) :
    number = largest := by
  have positive : zero < number := by
    rw [← value_lt_iff, same, value_zero, value_largest]
    norm_num [mantissaBound]
  have unsigned : number.negative = false :=
    ((zero_lt_iff number).mp positive).1
  rw [value_largest, value_of_unsigned unsigned,
    div_eq_iff (tenTo_cast_pos _).ne'] at same
  have digits : number.mantissa = (mantissaBound - 1) * tenTo number.scale := by
    exact_mod_cast same
  have bound := number.mantissa_lt
  obtain ⟨negative, mantissa, scale, mantissa_lt, scale_le⟩ := number
  simp only at unsigned digits bound
  cases scale with
  | zero =>
    rw [tenTo_zero, Nat.mul_one] at digits
    subst unsigned digits
    rfl
  | succ scale =>
    -- ten times the largest mantissa does not fit
    have tenfold : 10 ≤ tenTo (scale + 1) :=
      Nat.le_self_pow (Nat.succ_ne_zero scale) 10
    have wide := Nat.mul_le_mul_left (mantissaBound - 1) tenfold
    rw [← digits] at wide
    exact absurd (Nat.lt_of_le_of_lt wide bound) (by decide)

/-- What can be added to the largest number is rounded away. -/
theorem add?_largest
    {added sum : Decimal}
    (nonneg : 0 ≤ added.value)
    (summed : largest.add? added = some sum) :
    sum = largest := by
  have answers := answers_add? largest added
  rw [summed] at answers
  have above : largest.value ≤ sum.value :=
    (answers_value largest).mono answers (le_add_of_nonneg_right nonneg)
  exact eq_largest_of_value (le_antisymm (value_le_largest sum) above)

end Decimal

namespace Risk

/-! ## Sums of quoted positions -/

/-- Whether the symbol of a position has a quote. -/
def isQuoted (prices : Prices) (position : Position) : Bool :=
  (prices.find? position.symbol).isSome

/-- The exposure of a position at its quote, if it is in range. -/
def termOf (prices : Prices) (position : Position) : Option Decimal :=
  figure? prices (position.symbol, exposedQuantity position)

/-- A sum continued over the positions that have a quote, while in range. -/
def sumOver
    (prices : Prices)
    (start : Decimal)
    (positions : List Position) :
    Option Decimal :=
  ((positions.filter (isQuoted prices)).map (termOf prices)).foldlM
    GrossExposure.sum? start

/-- The first position whose exposure or sum is out of range. -/
structure FirstBeyond
    (prices : Prices)
    (start : Decimal)
    (positions : List Position)
    (position : Position) : Prop where
  quoted : isQuoted prices position = true
  /-- Everything in front of it is in range, and its own sum is not. -/
  beyond : ∃ front back sum,
    positions = front ++ position :: back ∧
      sumOver prices start front = some sum ∧
      GrossExposure.sum? sum (termOf prices position) = none

section Steps

variable {prices : Prices} {position : Position} {start sum : Decimal}
variable {exposure : GrossExposure}

theorem sumOver_cons_of_unquoted
    (unquoted : isQuoted prices position = false)
    (start : Decimal)
    (rest : List Position) :
    sumOver prices start (position :: rest) = sumOver prices start rest := by
  unfold sumOver
  rw [List.filter_cons_of_neg (by simp [unquoted])]

theorem sumOver_cons_of_quoted
    (quoted : isQuoted prices position = true)
    (start : Decimal)
    (rest : List Position) :
    sumOver prices start (position :: rest) =
      (GrossExposure.sum? start (termOf prices position)).bind fun sum =>
        sumOver prices sum rest := by
  unfold sumOver
  rw [List.filter_cons_of_pos quoted, List.map_cons, List.foldlM_cons]
  rfl

/-- A position without a quote is listed and changes nothing else. -/
theorem including_of_unquoted
    (unquoted : isQuoted prices position = false)
    (exposure : GrossExposure) :
    GrossExposure.including prices exposure position =
      { exposure with unpriced := exposure.unpriced ++ [position.symbol] } := by
  unfold isQuoted at unquoted
  rw [Option.isSome_eq_false_iff, Option.isNone_iff_eq_none] at unquoted
  unfold GrossExposure.including
  rw [unquoted]

theorem including_of_sum
    (quoted : isQuoted prices position = true)
    (summed :
      GrossExposure.sum? exposure.gross (termOf prices position) = some sum) :
    GrossExposure.including prices exposure position =
      { exposure with gross := sum } := by
  rcases Option.isSome_iff_exists.mp quoted with ⟨quote, found⟩
  unfold termOf figure? at summed
  simp only [found, Option.bind_some] at summed
  unfold GrossExposure.including exposure?
  simp only [found, summed]

theorem including_of_beyond
    (quoted : isQuoted prices position = true)
    (beyond :
      GrossExposure.sum? exposure.gross (termOf prices position) = none) :
    GrossExposure.including prices exposure position =
      { exposure with
        gross := Decimal.largest
        overflow := exposure.overflow.or (some position.symbol) } := by
  rcases Option.isSome_iff_exists.mp quoted with ⟨quote, found⟩
  unfold termOf figure? at beyond
  simp only [found, Option.bind_some] at beyond
  unfold GrossExposure.including exposure?
  simp only [found, beyond]

theorem termOf_nonneg
    {term : Decimal}
    (counted : termOf prices position = some term) :
    0 ≤ term.value := by
  rcases figure?_eq_some_iff.mp counted with ⟨_, _, exposed⟩
  exact exposure?_nonneg exposed

end Steps

/-! ## The three ways of a sum -/

section Sums

variable {prices : Prices} {positions : List Position}
variable {start sum : Decimal} {exposure : GrossExposure}

/-- What has no quote is listed in order, whatever the sum. -/
theorem unpriced_foldl_including
    (prices : Prices)
    (positions : List Position)
    (exposure : GrossExposure) :
    (positions.foldl (GrossExposure.including prices) exposure).unpriced =
      exposure.unpriced ++
        (positions.filter fun position =>
          !isQuoted prices position).map Position.symbol := by
  induction positions generalizing exposure with
  | nil => simp
  | cons position rest hypothesis =>
    rw [List.foldl_cons, hypothesis]
    cases quoted : isQuoted prices position with
    | false =>
      rw [including_of_unquoted quoted,
        List.filter_cons_of_pos (by simp [quoted])]
      simp
    | true =>
      rw [List.filter_cons_of_neg (by simp [quoted])]
      cases summed :
          GrossExposure.sum? exposure.gross (termOf prices position) with
      | some sum => rw [including_of_sum quoted summed]
      | none => rw [including_of_beyond quoted summed]

/-- A sum that stays in range is the gross exposure. -/
theorem foldl_including_of_sumOver
    (summed : sumOver prices exposure.gross positions = some sum) :
    (positions.foldl (GrossExposure.including prices) exposure).gross = sum ∧
      (positions.foldl (GrossExposure.including prices) exposure).overflow =
        exposure.overflow := by
  induction positions generalizing exposure with
  | nil => exact ⟨Option.some.inj summed, rfl⟩
  | cons position rest hypothesis =>
    rw [List.foldl_cons]
    cases quoted : isQuoted prices position with
    | false =>
      rw [sumOver_cons_of_unquoted quoted] at summed
      rw [including_of_unquoted quoted]
      exact @hypothesis { exposure with unpriced := _ } summed
    | true =>
      rw [sumOver_cons_of_quoted quoted] at summed
      rcases Option.bind_eq_some_iff.mp summed with ⟨next, here, later⟩
      rw [including_of_sum quoted here]
      exact @hypothesis { exposure with gross := next } later

/-- Once it is the largest number, the sum stays what it is. -/
theorem foldl_including_of_overflow
    {symbol : Symbol}
    (positions : List Position)
    (saturated : exposure.gross = Decimal.largest)
    (noted : exposure.overflow = some symbol) :
    (positions.foldl (GrossExposure.including prices) exposure).gross =
        Decimal.largest ∧
      (positions.foldl (GrossExposure.including prices) exposure).overflow =
        some symbol := by
  induction positions generalizing exposure with
  | nil => exact ⟨saturated, noted⟩
  | cons position rest hypothesis =>
    rw [List.foldl_cons]
    cases quoted : isQuoted prices position with
    | false =>
      rw [including_of_unquoted quoted]
      exact hypothesis saturated noted
    | true =>
      cases summed :
          GrossExposure.sum? exposure.gross (termOf prices position) with
      | some sum =>
        rw [including_of_sum quoted summed]
        rcases Option.bind_eq_some_iff.mp summed with ⟨term, counted, added⟩
        rw [saturated] at added
        exact hypothesis
          (Decimal.add?_largest (termOf_nonneg counted) added) noted
      | none =>
        rw [including_of_beyond quoted summed]
        exact hypothesis rfl (by simp [noted])

/-- The first position out of range is noted, and the sum saturates. -/
theorem foldl_including_of_beyond
    {position : Position}
    (fresh : exposure.overflow = none)
    (first : FirstBeyond prices exposure.gross positions position) :
    (positions.foldl (GrossExposure.including prices) exposure).gross =
        Decimal.largest ∧
      (positions.foldl (GrossExposure.including prices) exposure).overflow =
        some position.symbol := by
  rcases first with ⟨quoted, front, back, sum, rfl, summed, beyond⟩
  rcases foldl_including_of_sumOver summed with ⟨gross, overflow⟩
  rw [List.foldl_append, List.foldl_cons]
  rw [← gross] at beyond
  rw [including_of_beyond quoted beyond]
  exact foldl_including_of_overflow back rfl (by simp [overflow, fresh])

/-- A sum stays in range, or there is a first position where it does not. -/
theorem exists_sumOver_or_firstBeyond
    (prices : Prices)
    (start : Decimal)
    (positions : List Position) :
    (∃ sum, sumOver prices start positions = some sum) ∨
      ∃ position, FirstBeyond prices start positions position := by
  induction positions generalizing start with
  | nil => exact Or.inl ⟨start, rfl⟩
  | cons position rest hypothesis =>
    cases quoted : isQuoted prices position with
    | false =>
      rcases hypothesis start with ⟨sum, summed⟩ | ⟨other, first⟩
      · rw [sumOver_cons_of_unquoted quoted]
        exact Or.inl ⟨sum, summed⟩
      · rcases first with ⟨otherQuoted, front, back, sum, rfl, summed, beyond⟩
        refine Or.inr ⟨other, otherQuoted, position :: front, back, sum, rfl,
          ?_, beyond⟩
        rw [sumOver_cons_of_unquoted quoted]
        exact summed
    | true =>
      cases here : GrossExposure.sum? start (termOf prices position) with
      | none =>
        exact Or.inr ⟨position, quoted, [], rest, start, rfl, rfl, here⟩
      | some next =>
        rcases hypothesis next with ⟨sum, summed⟩ | ⟨other, first⟩
        · rw [sumOver_cons_of_quoted quoted, here]
          exact Or.inl ⟨sum, summed⟩
        · rcases first with ⟨otherQuoted, front, back, sum, rfl, summed, beyond⟩
          refine Or.inr ⟨other, otherQuoted, position :: front, back, sum, rfl,
            ?_, beyond⟩
          rw [sumOver_cons_of_quoted quoted, here]
          exact summed

end Sums

/-! ## Exact or saturated -/

section Books

variable {view : View} {positions : Positions} {prices : Prices}

/-- What has no quote is listed in symbol order. -/
theorem pairwise_unquoted
    (filed : Filed positions)
    (prices : Prices) :
    (((exposed positions).filter fun position =>
      !isQuoted prices position).map Position.symbol).Pairwise
        fun first second => compare first second = .lt := by
  have listed : (positions.values.map Position.symbol).Pairwise
      fun first second => compare first second = .lt := by
    rw [OrderedMap.map_values_eq_keys fun _ _ => filed]
    exact positions.keys_pairwise
  refine listed.sublist (List.Sublist.map _ ?_)
  exact List.filter_sublist.trans List.filter_sublist

/-- Every entry that would be looked at is rejected for the noted symbol. -/
theorem checkEntry_of_overflow
    {action : Action}
    {quote : Quote}
    {symbol : Symbol}
    (noted : (grossExposure positions view.prices).overflow = some symbol)
    (solvent : Decimal.zero < view.account.equity)
    (sized : Decimal.zero < action.quantity)
    (directed : action.direction ≠ none)
    (quoted : view.prices.find? action.symbol = some quote)
    (marked : Decimal.zero < quote.mark) :
    checkEntry view positions action = .error (.exposureOverflow symbol) := by
  have named : positiveMark? view.prices action.symbol = some quote.mark := by
    unfold positiveMark?
    rw [quoted, Option.map_some, Option.filter_some, if_pos]
    exact decide_eq_true marked
  unfold checkEntry
  simp only
  rw [if_neg (Decimal.not_le.mpr solvent),
    if_neg (not_or.mpr ⟨Decimal.not_le.mpr sized, directed⟩), named]
  unfold checkLimits checkKnown
  simp only [noted]
  rfl

end Books

/--
The gross exposure of a book is the sum of the exposures that have a quote, in
symbol order, if all of them and all partial sums are in range; no overflow is
noted then.  Otherwise the first position that is not in range is noted, and
the sum is the largest number, whatever follows: no entry is accepted on it.
Positions without a quote are listed in symbol order and add nothing.
-/
theorem grossExposure_is_exact_or_saturated
    (positions : Positions)
    (prices : Prices) :
    (grossExposure positions prices).unpriced =
      ((exposed positions).filter fun position =>
        !isQuoted prices position).map Position.symbol ∧
    (Filed positions →
      (grossExposure positions prices).unpriced.Pairwise
        fun first second => compare first second = .lt) ∧
    ((∃ sum, sumOver prices Decimal.zero (exposed positions) = some sum) ∨
      ∃ position,
        FirstBeyond prices Decimal.zero (exposed positions) position) ∧
    (∀ sum, sumOver prices Decimal.zero (exposed positions) = some sum →
      (grossExposure positions prices).gross = sum ∧
        (grossExposure positions prices).overflow = none) ∧
    (∀ position,
      FirstBeyond prices Decimal.zero (exposed positions) position →
        (grossExposure positions prices).gross = Decimal.largest ∧
        (grossExposure positions prices).overflow = some position.symbol ∧
        ∀ (view : View) (action : Action) (quote : Quote),
          view.prices = prices →
          Decimal.zero < view.account.equity →
          Decimal.zero < action.quantity →
          action.direction ≠ none →
          prices.find? action.symbol = some quote →
          Decimal.zero < quote.mark →
          checkEntry view positions action =
            .error (.exposureOverflow position.symbol)) := by
  have unpriced :
      (grossExposure positions prices).unpriced =
        ((exposed positions).filter fun position =>
          !isQuoted prices position).map Position.symbol :=
    unpriced_foldl_including prices (exposed positions) GrossExposure.none
  refine ⟨unpriced, ?_, exists_sumOver_or_firstBeyond _ _ _, ?_, ?_⟩
  · intro filed
    rw [unpriced]
    exact pairwise_unquoted filed prices
  · intro sum summed
    exact @foldl_including_of_sumOver _ _ _ GrossExposure.none summed
  · intro position first
    have saturated :=
      @foldl_including_of_beyond _ _ GrossExposure.none _ rfl first
    refine ⟨saturated.1, saturated.2, ?_⟩
    rintro view action quote rfl solvent sized directed quoted marked
    exact checkEntry_of_overflow saturated.2 solvent sized directed quoted
      marked

namespace Sample

open Desk.Sample (hundred symbol)

/-- An instrument without a quote. -/
def unknown : Symbol :=
  ⟨"SOL"⟩

/-- More of the first instrument than can be valued. -/
def vast : Position :=
  { unit symbol with quantity := Decimal.largest }

/-- A book that cannot be valued, with positions behind the one that is vast. -/
def beyond : Positions :=
  ((OrderedMap.empty.insert symbol vast).insert neighbour
    (unit neighbour)).insert unknown (unit unknown)

/-- The action to enter the second instrument. -/
def enteringNeighbour : Action :=
  { entering with symbol := neighbour }

/-- An entry next to a position that is vast is rejected for its sake. -/
theorem grossExposure_is_saturated_beyond :
    FirstBeyond (market hundred).prices Decimal.zero (exposed beyond) vast ∧
      (grossExposure beyond (market hundred).prices).gross =
        Decimal.largest ∧
      (grossExposure beyond (market hundred).prices).overflow =
        some symbol ∧
      (grossExposure beyond (market hundred).prices).unpriced =
        [unknown] ∧
      checkEntry (market hundred) beyond enteringNeighbour =
        .error (.exposureOverflow symbol) := by
  have first :
      FirstBeyond (market hundred).prices Decimal.zero (exposed beyond)
        vast :=
    ⟨by decide +kernel, [], [unit neighbour, unit unknown], Decimal.zero,
      by decide +kernel, rfl, by decide +kernel⟩
  rcases
      grossExposure_is_exact_or_saturated beyond (market hundred).prices with
    ⟨unpriced, _, _, _, saturates⟩
  rcases saturates vast first with ⟨gross, overflow, rejects⟩
  refine ⟨first, gross, overflow, ?_, ?_⟩
  · rw [unpriced]
    decide +kernel
  · exact rejects (market hundred) enteringNeighbour ⟨hundred, none⟩ rfl
      (by decide +kernel) (by decide +kernel) (by decide) (by decide +kernel)
      (by decide +kernel)

end Sample

end Risk

end MandateDesk
