import MandateDesk.Decimal.Division
import MandateDesk.Proofs.Nearest

/-!
# Quotients are rounded once

A division appends digits to a quotient as long as the mantissa takes them.
What has been divided and what is left always make up the exact quotient:
`Holds` says so, and every step keeps it.  So the digits that are rounded in
the end are the first ones of the exact quotient, no further one fits, and the
quotient that comes out is the nearest one.  Dropping zeros behind the point
afterwards does not change its value.

Every step appends a digit, so that the division comes to an end.
-/

namespace MandateDesk.Decimal

/-! ## Zeros behind the point -/

/-- Two numbers of digits behind a point with the same value. -/
structure Shortens (longer shorter : Nat × Nat) : Prop where
  same : shorter.1 * tenTo longer.2 = longer.1 * tenTo shorter.2
  digits_le : shorter.1 ≤ longer.1
  scale_le : shorter.2 ≤ longer.2

theorem Shortens.refl (number : Nat × Nat) : Shortens number number :=
  ⟨rfl, Nat.le_refl _, Nat.le_refl _⟩

theorem Shortens.trans
    {first second third : Nat × Nat}
    (earlier : Shortens first second)
    (later : Shortens second third) :
    Shortens first third where
  same := by
    apply Nat.eq_of_mul_eq_mul_right (tenTo_pos second.2)
    rw [Nat.mul_right_comm, later.same, Nat.mul_right_comm, earlier.same,
      Nat.mul_right_comm]
  digits_le := Nat.le_trans later.digits_le earlier.digits_le
  scale_le := Nat.le_trans later.scale_le earlier.scale_le

theorem shortens_dropZeros
    (count factor : Nat)
    (number : Nat × Nat) :
    Shortens number (dropZeros count factor number) := by
  unfold dropZeros
  split
  · rename_i zeros
    rcases zeros with ⟨_, within, whole⟩
    refine ⟨?_, Nat.div_le_self _ _, Nat.sub_le _ _⟩
    have powers := tenTo_add (number.2 - count) count
    rw [Nat.sub_add_cancel within] at powers
    show number.1 / tenTo count * tenTo number.2 =
      number.1 * tenTo (number.2 - count)
    rw [powers, Nat.mul_comm (tenTo _) (tenTo count), ← Nat.mul_assoc,
      Nat.div_mul_cancel (Nat.dvd_of_mod_eq_zero whole)]
  · exact Shortens.refl number

theorem shortens_stripZeros (number : Nat × Nat) :
    Shortens number (stripZeros number) :=
  ((((shortens_dropZeros 8 _ _).trans (shortens_dropZeros 8 _ _)).trans
    (shortens_dropZeros 8 _ _)).trans (shortens_dropZeros 4 _ _)).trans
      ((shortens_dropZeros 2 _ _).trans (shortens_dropZeros 1 _ _))

/-! ## How a division ends -/

section Endings

variable {quotient : ℚ} {negative inexact : Bool} {digits : Nat} {scale : Int}

/-- The digits of a finished division are the number that it stands for. -/
theorem answers_finished
    (nearest :
      nearest? quotient =
        some ((digits : ℚ) / (tenTo scale.toNat : ℚ)))
    (sign : negative = decide (quotient < 0))
    (small : digits < mantissaBound)
    (scale_le : scale ≤ 28) :
    Answers (finished negative inexact digits scale) quotient := by
  have kept {kept : Nat × Nat}
      (shortens : Shortens (digits, scale.toNat) kept) :
      Answers
        (if bounded : kept.1 < mantissaBound ∧ kept.2 ≤ 28 then
          some (signed negative kept.1 kept.2 bounded.1 bounded.2)
        else none)
        quotient := by
    have bounded : kept.1 < mantissaBound ∧ kept.2 ≤ 28 := by
      have fewer : kept.2 ≤ scale.toNat := shortens.scale_le
      exact ⟨Nat.lt_of_le_of_lt shortens.digits_le small, by omega⟩
    have same :
        (digits : ℚ) / (tenTo scale.toNat : ℚ) =
          (kept.1 : ℚ) / (tenTo kept.2 : ℚ) := by
      rw [div_eq_div_iff (tenTo_cast_pos _).ne' (tenTo_cast_pos _).ne']
      exact_mod_cast shortens.same.symm
    unfold Answers rounded?
    rw [dif_pos bounded, nearest, same, Option.map_some, Option.map_some,
      Option.some.injEq]
    unfold value
    rw [numerator_signed, sign]
    simp only [decide_eq_true_eq]
    split
    · rw [Int.cast_neg, Int.cast_natCast, neg_div]
      rfl
    · rw [Int.cast_natCast]
      rfl
  cases inexact with
  | true => exact kept (shortens_stripZeros _)
  | false => exact kept (Shortens.refl _)

end Endings

/-! ## What is left to divide -/

/-- The digits of a division and what is left make up the exact quotient. -/
structure Quotient.Holds (divisor : Nat) (quotient : ℚ) (state : Quotient) :
    Prop where
  remainder_lt : state.remainder < divisor
  scale_le : state.scale ≤ 28
  whole :
    ((state.digits * divisor + state.remainder : Nat) : ℚ) =
      |quotient| * divisor * 10 ^ state.scale

section Holding

variable {divisor : Nat} {quotient : ℚ} {state : Quotient}

theorem cast_tenTo (exponent : Nat) :
    (tenTo exponent : ℚ) = 10 ^ (exponent : Int) := by
  rw [zpow_natCast]
  exact Nat.cast_pow 10 exponent

theorem Quotient.Holds.divisor_pos
    (holds : state.Holds divisor quotient) :
    (0 : ℚ) < divisor := by
  exact_mod_cast Nat.zero_lt_of_lt holds.remainder_lt

/-- The exact quotient with the point moved behind the digits. -/
theorem Quotient.Holds.size_eq
    (holds : state.Holds divisor quotient)
    (fraction : 0 ≤ state.scale) :
    |quotient * (tenTo state.scale.toNat : ℚ)| =
      ((state.digits * divisor + state.remainder : Nat) : ℚ) /
        (divisor : ℚ) := by
  rw [holds.whole, abs_mul, Nat.abs_cast, cast_tenTo,
    Int.toNat_of_nonneg fraction, mul_right_comm,
    mul_div_cancel_right₀ _ holds.divisor_pos.ne']

/-- The exact quotient is no less than its first digits. -/
theorem Quotient.Holds.digits_le
    (holds : state.Holds divisor quotient)
    (count : Nat)
    (reached : 0 ≤ state.scale + count) :
    ((state.digits * tenTo count : Nat) : ℚ) ≤
      |quotient * (tenTo (state.scale + count).toNat : ℚ)| := by
  have scaled :
      |quotient * (tenTo (state.scale + count).toNat : ℚ)| * divisor =
        ((state.digits * divisor + state.remainder : Nat) : ℚ) *
          tenTo count := by
    rw [holds.whole, abs_mul, Nat.abs_cast, cast_tenTo, cast_tenTo,
      Int.toNat_of_nonneg reached, zpow_add₀ (by norm_num)]
    ring
  apply le_of_mul_le_mul_right _ holds.divisor_pos
  rw [scaled]
  norm_cast
  rw [Nat.mul_right_comm]
  exact Nat.mul_le_mul_right _ (Nat.le_add_right _ _)

/-- The exact quotient with the point moved in front of the last digit. -/
theorem Quotient.Holds.halfEven_last
    (holds : state.Holds divisor quotient)
    {count : Nat}
    (places : state.scale = count + 1) :
    halfEven (quotient * tenTo count) =
      roundHalfEven (state.digits * divisor + state.remainder)
        (divisor * 10) := by
  have size := holds.size_eq (by omega)
  rw [places, ← Nat.cast_succ, Int.toNat_natCast, tenTo_succ, Nat.cast_mul,
    ← mul_assoc, abs_mul _ ((10 : Nat) : ℚ), Nat.abs_cast] at size
  apply halfEven_eq
    (Nat.mul_pos (Nat.zero_lt_of_lt holds.remainder_lt) (by decide))
  rw [Nat.cast_mul divisor, ← div_div, ← size,
    mul_div_cancel_right₀ _ (by norm_num)]

/-- Digits that outgrow the mantissa do not fit. -/
theorem Quotient.Holds.not_fitsWith
    (holds : state.Holds divisor quotient)
    (count : Nat)
    {digits : Nat}
    (reached : state.scale + count = digits)
    (large : mantissaBound ≤ state.digits * tenTo count) :
    ¬ FitsWith quotient digits := by
  have first := holds.digits_le count (by omega)
  rw [reached, Int.toNat_natCast, ← Nat.abs_cast] at first
  have rounded := halfEven_mono first
  rw [halfEven_natCast] at rounded
  exact Nat.not_lt.mpr (Nat.le_trans large rounded)

/-! ## The last digit -/

/-- A quotient that is not exact is rounded by what is left. -/
theorem roundHalfEven_parts
    (digits : Nat)
    {remainder divisor : Nat}
    (less : remainder < divisor) :
    roundHalfEven (digits * divisor + remainder) divisor =
      if divisor < 2 * remainder ∨
          (2 * remainder = divisor ∧ digits % 2 = 1) then digits + 1
      else digits := by
  have positive : 0 < divisor := Nat.zero_lt_of_lt less
  unfold roundHalfEven
  rw [Nat.mul_comm digits, Nat.mul_add_div positive, Nat.mul_add_mod,
    Nat.div_eq_of_lt less, Nat.mod_eq_of_lt less]
  rfl

/-- Whether a dropped digit rounds the digits in front of it up. -/
def RoundsUp (digits : Nat) (sticky : Bool) : Prop :=
  5 < digits % 10 ∨
    (digits % 10 = 5 ∧ (sticky = true ∨ digits / 10 % 2 = 1))

instance (digits : Nat) (sticky : Bool) : Decidable (RoundsUp digits sticky) :=
  inferInstanceAs (Decidable (_ ∨ _))

/-- With one digit less, a quotient is rounded by this digit first. -/
theorem roundHalfEven_last
    (digits : Nat)
    {remainder divisor : Nat}
    (less : remainder < divisor) :
    roundHalfEven (digits * divisor + remainder) (divisor * 10) =
      if RoundsUp digits (remainder != 0) then digits / 10 + 1
      else digits / 10 := by
  have split :
      digits * divisor + remainder =
        digits / 10 * (divisor * 10) +
          (digits % 10 * divisor + remainder) := by
    conv_lhs => rw [← Nat.div_add_mod digits 10]
    ring
  have last : digits % 10 < 10 := Nat.mod_lt _ (by decide)
  have rest : digits % 10 * divisor + remainder < divisor * 10 := by
    have := Nat.mul_le_mul_right divisor (Nat.le_of_lt_succ last)
    omega
  rw [split, roundHalfEven_parts _ rest]
  congr 1
  unfold RoundsUp
  rw [bne_iff_ne]
  generalize digits % 10 = dropped at last rest ⊢
  -- a digit below five leaves less than a half, one above it more
  have below (few : dropped < 5) :
      2 * (dropped * divisor + remainder) < divisor * 10 := by
    have := Nat.mul_le_mul_right divisor (Nat.le_of_lt_succ few)
    omega
  have above (many : 5 < dropped) :
      divisor * 10 < 2 * (dropped * divisor + remainder) := by
    have := Nat.mul_le_mul_right divisor many
    omega
  rw [eq_iff_iff]
  rcases Nat.lt_trichotomy dropped 5 with few | rfl | many
  · have := below few
    omega
  · omega
  · have := above many
    omega

/-- Digits that outgrew the mantissa are rounded by the last of them. -/
theorem answers_withoutLastDigit
    {negative inexact sticky : Bool}
    {digits : Nat}
    {scale : Int}
    (sign : negative = decide (quotient < 0))
    (few : digits / 10 + 1 < mantissaBound)
    (whole : scale ≤ 0 → ¬ FitsWith quotient 0)
    (fraction : ∀ count : Nat, scale = count + 1 →
      count + 1 ≤ 28 ∧
      ¬ FitsWith quotient (count + 1) ∧
      halfEven (quotient * tenTo count) =
        if RoundsUp digits sticky then digits / 10 + 1 else digits / 10) :
    Answers (withoutLastDigit negative inexact sticky digits scale)
      quotient := by
  unfold withoutLastDigit
  split
  · rename_i integer
    unfold Answers rounded?
    rw [nearest?_eq_none (whole integer)]
    rfl
  · rename_i fractional
    rcases Int.eq_ofNat_of_zero_le (show 0 ≤ scale - 1 by omega) with
      ⟨count, places⟩
    rcases fraction count (by omega) with ⟨bounded, full, digit⟩
    have small :
        (if RoundsUp digits sticky then digits / 10 + 1 else digits / 10) <
          mantissaBound := by
      split
      · exact few
      · exact Nat.lt_of_succ_lt few
    apply answers_finished _ sign small (by omega)
    rw [places, Int.toNat_natCast]
    show _ = some
      (((if RoundsUp digits sticky then digits / 10 + 1 else digits / 10 :
        Nat) : ℚ) / _)
    rw [← digit] at small ⊢
    exact nearest?_eq small (by omega) fun _ => full

/-- A quotient with so many digits that the last one has to be dropped. -/
theorem Quotient.Holds.answers_withoutLastDigit
    (holds : state.Holds divisor quotient)
    {negative inexact : Bool}
    (sign : negative = decide (quotient < 0))
    (large : mantissaBound ≤ state.digits)
    (few : state.digits / 10 + 1 < mantissaBound) :
    Answers
      (withoutLastDigit negative inexact (state.remainder != 0) state.digits
        state.scale)
      quotient := by
  apply Decimal.answers_withoutLastDigit sign few
  · intro integer
    apply holds.not_fitsWith (-state.scale).toNat (by omega)
    exact Nat.le_trans large (Nat.le_mul_of_pos_right _ (tenTo_pos _))
  · intro count places
    refine ⟨by have := holds.scale_le; omega, ?_, ?_⟩
    · apply holds.not_fitsWith 0 (by omega)
      rw [tenTo_zero, Nat.mul_one]
      exact large
    · rw [holds.halfEven_last places]
      exact roundHalfEven_last _ holds.remainder_lt

/-- A quotient without room for another digit is rounded by what is left. -/
theorem Quotient.Holds.answers_roundedQuotient
    (holds : state.Holds divisor quotient)
    {negative : Bool}
    (sign : negative = decide (quotient < 0))
    (small : state.digits < mantissaBound)
    (fraction : 0 ≤ state.scale)
    (full : state.scale < 28 → mantissaBound ≤ state.digits * 10) :
    Answers (roundedQuotient negative divisor state) quotient := by
  rcases Int.eq_ofNat_of_zero_le fraction with ⟨count, places⟩
  have within := holds.scale_le
  have rounded :
      halfEven (quotient * tenTo count) =
        if divisor < 2 * state.remainder ∨
            (2 * state.remainder = divisor ∧ state.digits % 2 = 1) then
          state.digits + 1
        else state.digits := by
    have size := holds.size_eq fraction
    rw [places, Int.toNat_natCast] at size
    rw [halfEven_eq (Nat.zero_lt_of_lt holds.remainder_lt) size]
    exact roundHalfEven_parts _ holds.remainder_lt
  have next (fewer : count < 28) : ¬ FitsWith quotient (count + 1) := by
    apply holds.not_fitsWith 1 (by omega)
    exact full (by omega)
  -- the digits that are rounded to, as long as the mantissa takes them
  have nearest {digits : Nat}
      (digit : halfEven (quotient * tenTo count) = digits)
      (fits : digits < mantissaBound) :
      nearest? quotient =
        some ((digits : ℚ) / (tenTo state.scale.toNat : ℚ)) := by
    subst digit
    rw [places, Int.toNat_natCast]
    exact nearest?_eq fits (by omega) next
  unfold roundedQuotient
  simp only
  split
  · rename_i up
    rw [if_pos up] at rounded
    split
    · rename_i fits
      exact answers_finished (nearest rounded fits) sign fits within
    · rename_i wide
      have bound : state.digits + 1 = mantissaBound := by omega
      have large : ¬ FitsWith quotient count := by
        unfold FitsWith
        omega
      apply Decimal.answers_withoutLastDigit sign
      · rw [bound]
        decide
      · intro integer
        have none : count = 0 := by omega
        rwa [none] at large
      · intro less shorter
        have same : count = less + 1 := by omega
        rw [same] at large
        refine ⟨by omega, large, ?_⟩
        rw [holds.halfEven_last shorter,
          roundHalfEven_last _ holds.remainder_lt]
        -- the bound ends on a six, and the digits below it on a five
        have left : state.remainder ≠ 0 := by
          have := holds.remainder_lt
          omega
        have digits : state.digits = mantissaBound - 1 := by omega
        have upper : RoundsUp state.digits (state.remainder != 0) := by
          rw [digits]
          exact Or.inr ⟨by decide, Or.inl (bne_iff_ne.mpr left)⟩
        have again : RoundsUp (state.digits + 1) true := by
          rw [bound]
          exact Or.inl (by decide)
        rw [if_pos upper, if_pos again, digits]
        rfl
  · rename_i down
    rw [if_neg down] at rounded
    exact answers_finished (nearest rounded small) sign small within

end Holding

/-! ## The steps of a division -/

theorem roomFor_le (digits most : Nat) : roomFor digits most ≤ most := by
  induction most with
  | zero => exact Nat.le_refl 0
  | succ count hypothesis =>
    unfold roomFor
    split
    · exact Nat.le_refl _
    · exact Nat.le_succ_of_le hypothesis

/-- The digits that there is room for fit. -/
theorem roomFor_fits
    {digits : Nat}
    (small : digits < mantissaBound)
    (most : Nat) :
    digits * tenTo (roomFor digits most) < mantissaBound := by
  induction most with
  | zero => simpa [roomFor] using small
  | succ count hypothesis =>
    unfold roomFor
    split
    · assumption
    · exact hypothesis

/-- There is no room for one digit more than there is room for. -/
theorem roomFor_full
    (digits most : Nat)
    (less : roomFor digits most < most) :
    mantissaBound ≤ digits * tenTo (roomFor digits most + 1) := by
  induction most with
  | zero => exact absurd less (Nat.not_lt_zero _)
  | succ count hypothesis =>
    unfold roomFor at less ⊢
    split
    · rename_i fits
      rw [if_pos fits] at less
      exact absurd less (Nat.lt_irrefl _)
    · rename_i full
      rw [if_neg full] at less
      rcases Nat.lt_or_eq_of_le (roomFor_le digits count) with fewer | all
      · exact hypothesis fewer
      · rw [all]
        exact Nat.le_of_not_lt full

/-- What the next step of a division says about what has been found so far. -/
inductive Stepping (state : Quotient) : DivisionStep → Prop where
  /-- The quotient is exact. -/
  | stop
      (nothing : state.remainder = 0)
      (fraction : 0 ≤ state.scale) :
      Stepping state .stop
  /-- There is no room for another digit, and none is missing. -/
  | round
      (fraction : 0 ≤ state.scale)
      (full : state.scale < 28 → mantissaBound ≤ state.digits * 10) :
      Stepping state .round
  /-- There is no room for the digits that are missing. -/
  | overflow (count : Nat)
      (missing : state.scale + count ≤ 0)
      (full : mantissaBound ≤ state.digits * tenTo count) :
      Stepping state .overflow
  /-- There is room for some digits, or only zeros are missing. -/
  | extend {count : Nat}
      (some : 0 < count)
      (few : count ≤ 9)
      (within : state.scale + count ≤ 28)
      (fits : state.digits * tenTo count < mantissaBound ∨
        state.scale + count ≤ 0) :
      Stepping state (.extend count)

theorem stepping_nextStep
    {state : Quotient}
    (small : state.digits < mantissaBound)
    (within : state.scale ≤ 28) :
    Stepping state (nextStep state) := by
  unfold nextStep
  split
  · rename_i nothing
    split
    · rename_i fraction
      exact .stop nothing fraction
    · refine .extend ?_ ?_ ?_ (Or.inr ?_) <;> omega
  · split
    · rename_i last
      exact .round (by omega) (fun fewer => absurd fewer (by omega))
    · rename_i fewer
      split
      · rename_i crowded
        have full : mantissaBound ≤ state.digits * 10 := by
          unfold crowdedPart upperPart at crowded
          unfold mantissaBound
          omega
        split
        · exact .overflow 1 (by omega) full
        · exact .round (by omega) (fun _ => full)
      · have within := roomFor_le state.digits (min 9 (28 - state.scale).toNat)
        have fits := roomFor_fits small (min 9 (28 - state.scale).toNat)
        have full := roomFor_full state.digits (min 9 (28 - state.scale).toNat)
        generalize roomFor state.digits
          (min 9 (28 - state.scale).toNat) = room at within fits full ⊢
        simp only
        split
        · rename_i short
          exact .overflow _ (by omega) (full (by omega))
        · rename_i enough
          split
          · rename_i none
            subst none
            exact .round (by omega) (fun _ => full (by omega))
          · exact .extend (by omega) (by omega) (by omega) (Or.inl fits)

section Steps

variable {divisor : Nat} {quotient : ℚ} {state : Quotient}

/-- Appending digits moves the point, and neither adds nor loses anything. -/
theorem Quotient.Holds.extended
    (holds : state.Holds divisor quotient)
    {count : Nat}
    (within : state.scale + count ≤ 28) :
    (extended divisor count state).Holds divisor quotient where
  remainder_lt := Nat.mod_lt _ (Nat.zero_lt_of_lt holds.remainder_lt)
  scale_le := within
  whole := by
    have parts :
        (state.digits * tenTo count +
            state.remainder * tenTo count / divisor) * divisor +
          state.remainder * tenTo count % divisor =
        (state.digits * divisor + state.remainder) * tenTo count := by
      rw [Nat.add_mul, Nat.add_assoc, Nat.div_add_mod']
      ring
    show (((state.digits * tenTo count +
        state.remainder * tenTo count / divisor) * divisor +
      state.remainder * tenTo count % divisor : Nat) : ℚ) =
        |quotient| * divisor * 10 ^ (state.scale + (count : Int))
    rw [parts, Nat.cast_mul, holds.whole, cast_tenTo,
      zpow_add₀ (by norm_num), mul_assoc]

/-- A division that comes out is the exact quotient. -/
theorem Quotient.Holds.answers_stop
    (holds : state.Holds divisor quotient)
    {negative inexact : Bool}
    (sign : negative = decide (quotient < 0))
    (small : state.digits < mantissaBound)
    (nothing : state.remainder = 0)
    (fraction : 0 ≤ state.scale) :
    Answers (finished negative inexact state.digits state.scale) quotient := by
  have within := holds.scale_le
  apply answers_finished _ sign small within
  have size := holds.size_eq fraction
  rw [nothing, Nat.add_zero, Nat.cast_mul,
    mul_div_cancel_right₀ _ holds.divisor_pos.ne', abs_mul, Nat.abs_cast]
    at size
  let number : Decimal :=
    ⟨false, state.digits, state.scale.toNat, small, by omega⟩
  have same : |quotient| = |number.value| := by
    rw [abs_value, ← size, mul_div_cancel_right₀ _ (tenTo_cast_pos _).ne']
  rw [nearest?_congr same, nearest?_value, abs_value]

/-- A division answers the exact quotient from wherever it has got to. -/
theorem answers_divideFrom
    {negative : Bool}
    {fuel : Nat}
    (holds : state.Holds divisor quotient)
    (sign : negative = decide (quotient < 0))
    (small : state.digits < mantissaBound)
    (enough : (28 - state.scale).toNat < fuel) :
    Answers (divideFrom negative divisor fuel state) quotient := by
  induction fuel generalizing state with
  | zero => exact absurd enough (Nat.not_lt_zero _)
  | succ fuel hypothesis =>
    have stepping := stepping_nextStep small holds.scale_le
    have overflows {count : Nat}
        (missing : state.scale + count ≤ 0)
        (full : mantissaBound ≤ state.digits * tenTo count) :
        Answers none quotient := by
      have large : ¬ FitsWith quotient 0 := by
        apply holds.not_fitsWith (-state.scale).toNat (by omega)
        refine Nat.le_trans full (Nat.mul_le_mul_left _ ?_)
        exact Nat.pow_le_pow_right (by decide) (by omega)
      unfold Answers rounded?
      rw [nearest?_eq_none large]
      rfl
    unfold divideFrom
    generalize nextStep state = step at stepping
    cases stepping with
    | stop nothing fraction =>
      exact holds.answers_stop sign small nothing fraction
    | round fraction full =>
      have inexact :
          ({ state with inexact := true } : Quotient).Holds divisor quotient :=
        ⟨holds.remainder_lt, holds.scale_le, holds.whole⟩
      exact inexact.answers_roundedQuotient sign small fraction full
    | overflow _ missing full => exact overflows missing full
    | extend some few within fits =>
      rename_i count
      have next := holds.extended within
      simp only
      split
      · split
        · rename_i kept fit
          apply hypothesis next fit
          show (28 - (state.scale + count)).toNat < fuel
          omega
        · rename_i kept wide
          apply next.answers_withoutLastDigit sign (Nat.le_of_not_lt wide)
          have carried :
              state.remainder * tenTo count / divisor ≤ tenTo count :=
            Nat.div_le_of_le_mul
              (Nat.mul_le_mul_right _ holds.remainder_lt.le)
          have block : tenTo count ≤ tenTo 9 :=
            Nat.pow_le_pow_right (by decide) few
          have least : 1 < tenTo 9 ∧ tenTo 9 < mantissaBound := by decide
          show (state.digits * tenTo count +
            state.remainder * tenTo count / divisor) / 10 + 1 < mantissaBound
          omega
      · rename_i wide
        exact overflows (fits.resolve_left wide) (Nat.le_of_not_lt wide)

end Steps

/-- A quotient is the exact one, rounded once. -/
theorem answers_div?
    (first : Decimal)
    {second : Decimal}
    (present : second.isZero = false) :
    Answers (first.div? second) (first.value / second.value) := by
  unfold div?
  rw [if_neg (by rw [present]; exact Bool.false_ne_true)]
  split
  · rename_i absent
    unfold Answers
    rw [(value_eq_zero_iff first).mpr absent, zero_div, ← value_zero,
      rounded?_value]
    rfl
  · rename_i some
    rw [Bool.not_eq_true] at some
    have positive : 0 < second.mantissa := by
      rw [isZero, beq_eq_false_iff_ne] at present
      exact Nat.pos_of_ne_zero present
    apply answers_divideFrom
    · refine ⟨Nat.mod_lt _ positive, ?_, ?_⟩
      · show (first.scale : Int) - second.scale ≤ 28
        have := first.scale_le
        omega
      · show ((first.mantissa / second.mantissa * second.mantissa +
            first.mantissa % second.mantissa : Nat) : ℚ) =
          |first.value / second.value| * second.mantissa *
            10 ^ ((first.scale : Int) - second.scale)
        have wide : (0 : ℚ) < second.mantissa := by exact_mod_cast positive
        rw [Nat.div_add_mod', abs_div, abs_value, abs_value, cast_tenTo,
          cast_tenTo, zpow_sub₀ (by norm_num)]
        field_simp
    · rw [negative_bne_eq some present, decide_eq_decide, mul_neg_iff,
        div_neg_iff]
    · exact Nat.lt_of_le_of_lt (Nat.div_le_self _ _) first.mantissa_lt
    · show (28 - ((first.scale : Int) - second.scale)).toNat < divisionSteps
      have := second.scale_le
      unfold divisionSteps
      omega

end MandateDesk.Decimal
