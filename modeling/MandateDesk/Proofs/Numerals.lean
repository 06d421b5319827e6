import MandateDesk.Decimal.Printer
import MandateDesk.Decimal.Reader
import MandateDesk.Proofs.Digits

/-!
# Written decimal numbers

The text of a decimal number is read back as that number, with its scale, up to
one thing: a zero is read without a sign.  The digits are never rounded on the
way, because no number that is passed exceeds the one that was written and the
fraction is as long as its scale says.
-/

namespace MandateDesk.Decimal

open Text

/-- A reading after further digits. -/
def Reading.onward (reading : Reading) (written : List Char) : Reading :=
  { reading with
    mantissa := denoted reading.mantissa written
    scale := if reading.pointed then reading.scale + written.length else 0
    started := reading.started || !written.isEmpty }

theorem Reading.onward_nil
    {reading : Reading}
    (unscaled : reading.pointed = false → reading.scale = 0) :
    reading.onward [] = reading := by
  obtain ⟨negative, mantissa, scale, pointed, started⟩ := reading
  cases pointed
  · cases unscaled rfl
    simp [Reading.onward]
  · simp [Reading.onward]

/-- Digits for which there is room are all taken. -/
theorem readFrom_append
    (reading : Reading)
    {written : List Char}
    (digits : AreDigits written)
    (unscaled : reading.pointed = false → reading.scale = 0)
    (fits : denoted reading.mantissa written < mantissaBound)
    (room : reading.pointed = true → reading.scale + written.length ≤ 28)
    (rest : List Char) :
    readFrom reading (written ++ rest) =
      readFrom (reading.onward written) rest := by
  induction written generalizing reading with
  | nil => rw [Reading.onward_nil unscaled, List.nil_append]
  | cons first others hypothesis =>
    rw [denoted_cons] at fits
    have longer :
        reading.mantissa * 10 + digitValue first < mantissaBound := by
      have grows := le_denoted (10 * reading.mantissa + digitValue first) others
      omega
    have roomy : reading.scale ≠ 28 := by
      cases pointed : reading.pointed with
      | false =>
        rw [unscaled pointed]
        decide
      | true =>
        have left := room pointed
        rw [List.length_cons] at left
        omega
    have same : 10 * reading.mantissa + digitValue first =
        reading.mantissa * 10 + digitValue first := by omega
    rw [List.cons_append, readFrom, if_pos digits.cons.1]
    simp only [longer, bne_iff_ne.mpr roomy, decide_true, Bool.and_self,
      if_true]
    rw [hypothesis _ digits.cons.2]
    · congr 1
      simp only [Reading.onward, denoted_cons, same, List.isEmpty_cons,
        Bool.not_false, Bool.or_true, Bool.true_or, List.length_cons]
      cases reading.pointed
      · rfl
      · simp only [if_true, Nat.add_assoc, Nat.add_comm 1]
    · intro unpointed
      simp only at unpointed
      simp [unpointed]
    · rw [← same]
      exact fits
    · intro pointed
      have left := room pointed
      rw [List.length_cons] at left
      simp only at pointed
      simp only [pointed, if_true]
      omega

/-- The digits in front of the point, and those behind it. -/
theorem exists_pointed_eq (mantissa scale : Nat) :
    ∃ whole fraction, pointed mantissa scale =
        whole ++ (if scale = 0 then [] else '.' :: fraction) ∧
      AreDigits whole ∧ AreDigits fraction ∧ whole ≠ [] ∧
      fraction.length = scale ∧
      denoted (denoted 0 whole) fraction = mantissa := by
  let written := padded (scale + 1) mantissa
  let count := written.length - scale
  have long : scale + 1 ≤ written.length := by
    rw [length_padded]
    exact Nat.le_max_left _ _
  have all : AreDigits written := areDigits_padded _ _
  refine ⟨written.take count, written.drop count, ?_,
    all.sublist (List.take_sublist _ _), all.sublist (List.drop_sublist _ _),
    ?_, ?_, ?_⟩
  · by_cases plain : scale = 0
    · have whole : count = written.length := by omega
      simp only [pointed, plain, if_true, List.append_nil]
      rw [whole, List.take_length]
      simp only [written, plain]
    · simp only [pointed, plain, if_false]
      rfl
  · refine List.ne_nil_of_length_pos ?_
    rw [List.length_take]
    omega
  · rw [List.length_drop]
    omega
  · rw [← denoted_append, List.take_append_drop]
    exact denoted_padded _ _

theorem Reading.number_of_started
    {reading : Reading}
    (started : reading.started = true)
    (fits : reading.mantissa < mantissaBound)
    (room : reading.scale ≤ 28) :
    reading.number =
      some (signed reading.negative reading.mantissa reading.scale fits room) := by
  unfold Reading.number
  rw [if_pos started, dif_pos ⟨fits, room⟩]

/-- Behind its sign, a written number is read digit by digit. -/
theorem readFrom_pointed (number : Decimal) :
    readFrom ⟨number.negative, 0, 0, false, false⟩
        (pointed number.mantissa number.scale) =
      some number.withoutZeroSign := by
  rcases exists_pointed_eq number.mantissa number.scale with
    ⟨whole, fraction, same, wholeDigits, digits, nonempty, long, denotes⟩
  have wholeFits : denoted 0 whole < mantissaBound := by
    have grows := le_denoted (denoted 0 whole) fraction
    have bound := number.mantissa_lt
    omega
  have started : (!whole.isEmpty) = true := by
    simpa using nonempty
  rw [same, readFrom_append _ wholeDigits (fun _ => rfl) wholeFits
    (fun pointed => Bool.noConfusion pointed)]
  by_cases plain : number.scale = 0
  · have nothing : fraction = [] := by
      rw [← List.length_eq_zero_iff, long, plain]
    subst nothing
    have mantissa : denoted 0 whole = number.mantissa := denotes
    rw [if_pos plain, readFrom,
      Reading.number_of_started (by simp [Reading.onward, nonempty]) wholeFits
        (by simp [Reading.onward])]
    simp only [Reading.onward, mantissa, withoutZeroSign, plain]
    rfl
  · have pointedDigit : isDigit '.' = false := by decide
    rw [if_neg plain, readFrom, if_neg (by simp [pointedDigit])]
    simp only [Reading.onward, beq_self_eq_true, Bool.not_false, Bool.and_self,
      if_true]
    rw [← List.append_nil fraction, readFrom_append _ digits
      (fun unpointed => Bool.noConfusion unpointed)]
    · rw [readFrom, Reading.number_of_started]
      · simp only [Reading.onward, withoutZeroSign]
        congr 1
        simp only [signed, Decimal.mk.injEq]
        refine ⟨?_, denotes, ?_⟩
        · rw [denotes]
        · simpa using long
      · simp [Reading.onward, nonempty]
      · have bound := number.mantissa_lt
        rw [← denotes] at bound
        exact bound
      · have bound := number.scale_le
        simp only [Reading.onward]
        rw [← long] at bound
        simpa using bound
    · have bound := number.mantissa_lt
      rw [← denotes] at bound
      exact bound
    · intro _
      have bound := number.scale_le
      rw [← long] at bound
      simpa using bound

/-- A written number without its sign begins with a digit. -/
theorem exists_pointed_cons (mantissa scale : Nat) :
    ∃ first rest, pointed mantissa scale = first :: rest ∧
      isDigit first = true := by
  rcases exists_pointed_eq mantissa scale with
    ⟨whole, fraction, same, digits, _, nonempty, _⟩
  cases whole with
  | nil => contradiction
  | cons first rest =>
    exact ⟨first, _, by rw [same, List.cons_append], digits.cons.1⟩

theorem readPositional_characters (number : Decimal) :
    readPositional number.characters = some number.withoutZeroSign := by
  have read := readFrom_pointed number
  unfold characters
  cases sign : number.negative with
  | true =>
    rw [sign] at read
    exact read
  | false =>
    rw [sign] at read
    rcases exists_pointed_cons number.mantissa number.scale with
      ⟨first, rest, same, digit⟩
    rw [if_neg (by simp), same]
    rw [same] at read
    unfold readPositional
    split
    · rename_i equal
      cases (List.cons.inj equal).1
      contradiction
    · rename_i equal
      cases (List.cons.inj equal).1
      contradiction
    · exact read

/-- A number is read back from its text, a zero without its sign. -/
@[simp]
theorem read?_text (number : Decimal) :
    read? number.text = some number.withoutZeroSign := by
  unfold read? text readCharacters
  rw [String.toList_ofList, readPositional_characters]
  rfl

/-- A zero with a minus sign. -/
def IsSignedZero (number : Decimal) : Prop :=
  number.negative = true ∧ number.mantissa = 0

instance (number : Decimal) : Decidable number.IsSignedZero :=
  inferInstanceAs (Decidable (_ ∧ _))

theorem withoutZeroSign_of_unsigned
    {number : Decimal}
    (unsigned : number.negative = true → number.mantissa ≠ 0) :
    number.withoutZeroSign = number := by
  obtain ⟨negative, mantissa, scale, fits, room⟩ := number
  cases negative
  · rfl
  · have distinct : mantissa ≠ 0 := unsigned rfl
    simp [withoutZeroSign, signed, distinct]

theorem not_isSignedZero_withoutZeroSign (number : Decimal) :
    ¬ number.withoutZeroSign.IsSignedZero := by
  rintro ⟨negative, absent⟩
  simp only [withoutZeroSign, signed] at negative absent
  simp [absent] at negative

/-- Only a zero with a sign is changed when the sign is dropped. -/
theorem withoutZeroSign_eq_self_iff (number : Decimal) :
    number.withoutZeroSign = number ↔ ¬ number.IsSignedZero := by
  constructor
  · intro same
    rw [← same]
    exact not_isSignedZero_withoutZeroSign number
  · intro exactly
    exact withoutZeroSign_of_unsigned fun negative absent =>
      exactly ⟨negative, absent⟩

@[simp]
theorem withoutZeroSign_withoutZeroSign (number : Decimal) :
    number.withoutZeroSign.withoutZeroSign = number.withoutZeroSign :=
  (withoutZeroSign_eq_self_iff _).mpr (not_isSignedZero_withoutZeroSign number)

end MandateDesk.Decimal
