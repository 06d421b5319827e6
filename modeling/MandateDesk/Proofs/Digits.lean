import MandateDesk.Power
import MandateDesk.Text.Digits

/-!
# Written digits

A number is written in base ten and read back from its digits.  What a list of
digits denotes does not depend on zeros in front of it, so that a padded number
is read back as well.  Whoever takes digits from the front of a text takes all
of a number where what follows begins with no digit.
-/

namespace MandateDesk.Text

/-- A list of digits. -/
def AreDigits (text : List Char) : Prop :=
  ∀ character ∈ text, isDigit character = true

/-- The number that a list of digits denotes behind a known number. -/
abbrev denoted (known : Nat) (text : List Char) : Nat :=
  Nat.ofDigitChars 10 text known

theorem isDigit_of_isDigit
    {character : Char}
    (digit : character.isDigit = true) :
    isDigit character = true := by
  simp only [Char.isDigit, Bool.and_eq_true, decide_eq_true_eq,
    ge_iff_le] at digit
  simp only [isDigit, Bool.and_eq_true, decide_eq_true_eq]
  exact digit

theorem denoted_cons
    (known : Nat)
    (first : Char)
    (rest : List Char) :
    denoted known (first :: rest) =
      denoted (10 * known + digitValue first) rest := by
  simp [denoted, Nat.ofDigitChars, digitValue]

theorem denoted_append
    (known : Nat)
    (first second : List Char) :
    denoted known (first ++ second) = denoted (denoted known first) second :=
  List.foldl_append

theorem denoted_zeros (count : Nat) :
    denoted 0 (List.replicate count '0') = 0 := by
  induction count with
  | zero => rfl
  | succ count hypothesis =>
    rw [List.replicate_succ, denoted_cons]
    exact hypothesis

/-- Further digits never make a number smaller. -/
theorem le_denoted (known : Nat) (text : List Char) :
    known ≤ denoted known text := by
  induction text generalizing known with
  | nil => exact Nat.le_refl _
  | cons first rest hypothesis =>
    rw [denoted_cons]
    have step := hypothesis (10 * known + digitValue first)
    omega

theorem AreDigits.cons
    {first : Char}
    {rest : List Char}
    (digits : AreDigits (first :: rest)) :
    isDigit first = true ∧ AreDigits rest :=
  ⟨digits first (List.mem_cons_self ..),
    fun character member => digits character (List.mem_cons_of_mem _ member)⟩

theorem AreDigits.sublist
    {text part : List Char}
    (digits : AreDigits text)
    (within : part.Sublist text) :
    AreDigits part :=
  fun character member => digits character (within.mem member)

theorem valueAfter_of_areDigits
    {text : List Char}
    (digits : AreDigits text)
    (known : Nat) :
    valueAfter known text = some (denoted known text) := by
  induction text generalizing known with
  | nil => rfl
  | cons first rest hypothesis =>
    rw [valueAfter, if_pos digits.cons.1, hypothesis digits.cons.2,
      denoted_cons]

theorem value?_of_areDigits
    {text : List Char}
    (digits : AreDigits text)
    (nonempty : text ≠ []) :
    value? text = some (denoted 0 text) := by
  cases text with
  | nil => contradiction
  | cons first rest => exact valueAfter_of_areDigits digits 0

theorem AreDigits.not_mem
    {text : List Char}
    (digits : AreDigits text)
    {mark : Char}
    (noDigit : isDigit mark = false) :
    mark ∉ text := by
  intro member
  rw [digits mark member] at noDigit
  contradiction

theorem areDigits_of_valueAfter
    {known number : Nat}
    {text : List Char}
    (read : valueAfter known text = some number) :
    AreDigits text := by
  induction text generalizing known with
  | nil => exact nofun
  | cons first rest hypothesis =>
    rw [valueAfter] at read
    split at read
    · rename_i digit
      exact List.forall_mem_cons.mpr ⟨digit, hypothesis read⟩
    · contradiction

/-- Digits are read, at least one of them, and nothing else. -/
theorem value?_eq_some_iff
    {text : List Char}
    {number : Nat} :
    value? text = some number ↔
      text ≠ [] ∧ AreDigits text ∧ denoted 0 text = number := by
  cases text with
  | nil => simp [value?]
  | cons first rest =>
    constructor
    · intro read
      have digits := areDigits_of_valueAfter read
      refine ⟨List.cons_ne_nil _ _, digits, ?_⟩
      rw [value?_of_areDigits digits (List.cons_ne_nil _ _)] at read
      exact Option.some.inj read
    · rintro ⟨nonempty, digits, rfl⟩
      exact value?_of_areDigits digits nonempty

/-- A text that gives a number below a bound: digits, and a plus in front. -/
def IsUnsigned (bound : Nat) (text : List Char) (number : Nat) : Prop :=
  ∃ digits, (text = digits ∨ text = '+' :: digits) ∧
    digits ≠ [] ∧ AreDigits digits ∧ denoted 0 digits = number ∧
    number < bound

theorem unsigned?_eq_some_iff
    {bound number : Nat}
    {text : List Char} :
    unsigned? bound text = some number ↔ IsUnsigned bound text number := by
  unfold unsigned?
  simp only [Option.filter_eq_some_iff, value?_eq_some_iff, decide_eq_true_eq]
  constructor
  · intro read
    split at read
    · rcases read with ⟨⟨nonempty, digits, denotes⟩, small⟩
      exact ⟨_, .inr rfl, nonempty, digits, denotes, small⟩
    · rcases read with ⟨⟨nonempty, digits, denotes⟩, small⟩
      exact ⟨_, .inl rfl, nonempty, digits, denotes, small⟩
  · rintro ⟨written, rfl | rfl, nonempty, digits, denotes, small⟩
    · have unmarked : ∀ rest, text ≠ '+' :: rest := by
        rintro rest rfl
        exact digits.not_mem (by decide) List.mem_cons_self
      split
      · exact absurd rfl (unmarked _)
      · exact ⟨⟨nonempty, digits, denotes⟩, small⟩
    · exact ⟨⟨nonempty, digits, denotes⟩, small⟩

/-! ## Written numbers -/

theorem areDigits_digits (number : Nat) : AreDigits (digits number) := by
  intro character member
  refine isDigit_of_isDigit ?_
  exact Nat.isDigit_of_mem_toDigits (by decide) (by decide) member

theorem denoted_digits (number : Nat) : denoted 0 (digits number) = number :=
  Nat.ofDigitChars_toDigits (by decide) (by decide)

theorem length_digits_pos (number : Nat) : 0 < (digits number).length :=
  Nat.length_toDigits_pos

theorem digits_ne_nil (number : Nat) : digits number ≠ [] :=
  List.ne_nil_of_length_pos (length_digits_pos number)

theorem areDigits_padded (width number : Nat) :
    AreDigits (padded width number) := by
  intro character member
  rcases List.mem_append.mp member with zero | digit
  · rw [List.eq_of_mem_replicate zero]
    rfl
  · exact areDigits_digits number character digit

theorem denoted_padded (width number : Nat) :
    denoted 0 (padded width number) = number := by
  unfold padded
  rw [denoted_append, denoted_zeros, denoted_digits]

theorem length_padded (width number : Nat) :
    (padded width number).length = max width (digits number).length := by
  unfold padded
  rw [List.length_append, List.length_replicate]
  omega

theorem padded_ne_nil (width number : Nat) : padded width number ≠ [] := by
  refine List.ne_nil_of_length_pos ?_
  rw [length_padded]
  have some := length_digits_pos number
  omega

/-- A number that fits a width is written on exactly that width. -/
theorem length_padded_of_lt
    {width number : Nat}
    (positive : 0 < width)
    (fits : number < tenTo width) :
    (padded width number).length = width := by
  rw [length_padded]
  have short : (digits number).length ≤ width :=
    (Nat.length_toDigits_le_iff (by decide) positive).mpr fits
  omega

/-- The digits of a number of at least ten are those of its tenth and one more. -/
theorem digits_eq_append
    {number : Nat}
    (long : 10 ≤ number) :
    digits number = digits (number / 10) ++ [Nat.digitChar (number % 10)] := by
  unfold digits
  rw [Nat.toDigits_eq_if (by decide), if_neg (Nat.not_lt.mpr long)]

/-- A number that is not zero is written without a zero in front. -/
theorem head?_digits_ne
    {number : Nat}
    (positive : 0 < number) :
    (digits number).head? ≠ some '0' := by
  induction number using Nat.strongRecOn with
  | ind number hypothesis =>
    by_cases short : number < 10
    · have single : digits number = [Nat.digitChar number] :=
        Nat.toDigits_of_lt_base short
      have apart : ∀ digit < 10, 0 < digit → Nat.digitChar digit ≠ '0' := by
        decide
      simpa [single] using apart number short positive
    · have tenth := hypothesis (number / 10) (by omega) (by omega)
      rw [digits_eq_append (by omega), List.head?_append]
      cases front : (digits (number / 10)).head? with
      | none => exact absurd (List.head?_eq_none_iff.mp front) (digits_ne_nil _)
      | some first => simpa [front] using tenth

/-! ## Digits in front of a text -/

/-- A text that begins with no digit. -/
def EndsDigits (text : List Char) : Prop :=
  ∀ character ∈ text.head?, isDigit character = false

theorem append_ne_cons_of_areDigits
    {text : List Char}
    (digits : AreDigits text)
    (nonempty : text ≠ [])
    {mark : Char}
    (noDigit : isDigit mark = false)
    (rest other : List Char) :
    text ++ rest ≠ mark :: other := by
  cases text with
  | nil => contradiction
  | cons first others =>
    intro same
    have digit := digits.cons.1
    rw [(List.cons.inj same).1, noDigit] at digit
    contradiction

theorem takeWhile_isDigit_append
    {text rest : List Char}
    (digits : AreDigits text)
    (ends : EndsDigits rest) :
    (text ++ rest).takeWhile isDigit = text := by
  rw [List.takeWhile_append_of_pos digits]
  cases rest with
  | nil => simp
  | cons first rest =>
    rw [List.takeWhile_cons_of_neg (by simp [ends first rfl]), List.append_nil]

end MandateDesk.Text
