import MandateDesk.Proofs.Digits
import MandateDesk.Proofs.Spelling

/-!
# Written values

A value is read back from the form in which it is written, up to the end of its
line: a text whatever it holds, a truth value, and a number of at most 63 bits.
-/

namespace MandateDesk.Toml

/-- A value in the form in which it stands behind its key. -/
structure Writes (written : List Char) (value : Json) : Prop where
  /-- It is taken up to the end of its line. -/
  taken : ∀ rest, takeValue depthLimit (written ++ '\n' :: rest) =
    some (value, '\n' :: rest)
  /-- It begins with no blank. -/
  joined : ∀ rest, skipSpace (written ++ '\n' :: rest) = written ++ '\n' :: rest

/-! ## Texts and truth values -/

theorem takeValue_quote
    {quote : Char}
    (isQuote : quote = '"' ∨ quote = '\'')
    (depth : Nat)
    (rest : List Char) :
    takeValue (depth + 1) (quote :: rest) =
      (takeText (quote :: rest)).map fun (read, left) =>
        (.string (String.ofList read), left) := by
  rcases isQuote with rfl | rfl <;> simp [takeValue]

/-- A form begins with a quote. -/
theorem exists_inForm_eq (text : List Char) (form : Form) :
    ∃ quote rest, (quote = '"' ∨ quote = '\'') ∧
      inForm text form = quote :: rest := by
  cases form with
  | basic => exact ⟨_, _, Or.inl rfl, rfl⟩
  | literal => exact ⟨_, _, Or.inr rfl, rfl⟩
  | longBasic => exact ⟨_, _, Or.inl rfl, rfl⟩
  | longLiteral => exact ⟨_, _, Or.inr rfl, rfl⟩

/-- A text is read back, whatever it holds. -/
theorem writes_text (text : String) :
    Writes (writtenText text).toList (.string text) := by
  obtain ⟨quote, more, isQuote, same⟩ :=
    exists_inForm_eq text.toList (form text.toList)
  have written : (writtenText text).toList = quote :: more := by
    rw [writtenText, String.toList_ofList, same]
  refine ⟨fun rest => ?_, fun rest => ?_⟩
  · have ends : EndsText ('\n' :: rest) :=
      ⟨by simp [EndsMarks], by simp [EndsMarks]⟩
    have taken := takeText_inForm text.toList ends
    rw [same, List.cons_append] at taken
    rw [written, List.cons_append]
    refine (takeValue_quote isQuote 79 _).trans ?_
    simp only [taken, Option.map_some, String.ofList_toList]
  · rw [written]
    rcases isQuote with rfl | rfl <;> rfl

theorem writes_boolean (value : Bool) :
    Writes (writtenBoolean value).toList (.boolean value) := by
  cases value
  · exact ⟨fun _ => rfl, fun _ => rfl⟩
  · exact ⟨fun _ => rfl, fun _ => rfl⟩

/-! ## Numbers -/

section Numbers

open Text

theorem joined?_of_areDigits
    {text : List Char}
    (digits : AreDigits text)
    (nonempty : text ≠ []) :
    joined? isDigit text = some text := by
  induction text with
  | nil => contradiction
  | cons first rest hypothesis =>
    obtain ⟨digit, others⟩ := digits.cons
    cases rest with
    | nil => simp [joined?, digit]
    | cons second rest =>
      have apart : second ≠ '_' := by
        rintro rfl
        exact absurd others.cons.1 (by decide)
      have taken := hypothesis others nofun
      simp [joined?, apart, digit, taken]

theorem hasLeadingZero_digits (number : Nat) :
    hasLeadingZero (digits number) = false := by
  rcases Nat.eq_zero_or_pos number with rfl | positive
  · rfl
  · have front := head?_digits_ne positive
    unfold hasLeadingZero
    split
    · next same =>
      rw [same] at front
      contradiction
    · rfl

theorem splitSign_of_areDigits
    {text : List Char}
    (digits : AreDigits text) :
    splitSign text = ([], text) := by
  unfold splitSign
  split
  · exact absurd digits.cons.1 (by decide)
  · exact absurd digits.cons.1 (by decide)
  · rfl

theorem signed64?_digits
    {number : Nat}
    (fits : number < bound63) :
    signed64? (digits number) = some (number : Int) := by
  have all := areDigits_digits number
  have known : value? (digits number) = some number := by
    rw [value?_of_areDigits all (digits_ne_nil number), denoted_digits]
  have small : decide (number < bound63) = true := decide_eq_true fits
  unfold signed64?
  split
  · next same => exact absurd (same ▸ all).cons.1 (by decide)
  · next same => exact absurd (same ▸ all).cons.1 (by decide)
  · rw [known, Option.filter_some, if_pos small]
    rfl

theorem readScalar_digits
    {number : Nat}
    (fits : number < bound63) :
    readScalar (digits number) = some (.integer number) := by
  have all := areDigits_digits number
  have apart (word : List Char) (letter : Char) (member : letter ∈ word)
      (noDigit : isDigit letter = false) : digits number ≠ word := by
    rintro rfl
    rw [all letter member] at noDigit
    contradiction
  have noName : readName (digits number) = none := by
    unfold readName
    rw [splitSign_of_areDigits all]
    dsimp only
    rw [if_neg (apart _ 't' (by decide) rfl),
      if_neg (apart _ 'f' (by decide) rfl),
      if_neg (apart _ 'i' (by decide) rfl),
      if_neg (apart _ 'n' (by decide) rfl)]
  have integer : readInteger (digits number) = some (.integer number) := by
    simp [readInteger, splitSign_of_areDigits all,
      joined?_of_areDigits all (digits_ne_nil number),
      hasLeadingZero_digits, signed64?_digits fits]
  unfold readScalar
  split
  · next same => exact absurd same (apart _ 'x' (by simp) rfl)
  · next same => exact absurd same (apart _ 'o' (by simp) rfl)
  · next same => exact absurd same (apart _ 'b' (by simp) rfl)
  · rw [noName, integer]
    rfl

theorem endsWord_of_isDigit
    {character : Char}
    (digit : isDigit character = true) :
    endsWord character = false := by
  cases ends : endsWord character with
  | false => rfl
  | true =>
    simp only [endsWord, isSpace, Bool.or_eq_true, beq_iff_eq] at ends
    rcases ends with
      ((((((rfl | rfl) | rfl) | rfl) | rfl) | rfl) | rfl) | rfl
    all_goals contradiction

/-- Digits are a word up to the end of their line. -/
theorem takeWord_digits (number : Nat) (rest : List Char) :
    takeWord (digits number ++ '\n' :: rest) =
      (digits number, '\n' :: rest) := by
  have all := areDigits_digits number
  have word : (digits number ++ '\n' :: rest).takeWhile
      (fun character => !endsWord character) = digits number := by
    rw [List.takeWhile_append_of_pos fun character member => by
      rw [endsWord_of_isDigit (all character member)]
      rfl]
    simp [endsWord]
  have noTime : expectsTime (digits number) ('\n' :: rest) = false := by
    simp [expectsTime]
  unfold takeWord
  simp only [word, List.drop_left, noTime, Bool.false_eq_true, if_false]

theorem takeValue_digit
    {first : Char}
    (digit : isDigit first = true)
    (depth : Nat)
    (rest : List Char) :
    takeValue (depth + 1) (first :: rest) =
      (readScalar (takeWord (first :: rest)).1).map fun value =>
        (value, (takeWord (first :: rest)).2) := by
  have apart (letter : Char) (noDigit : isDigit letter = false)
      (more : List Char) : first :: rest ≠ letter :: more := by
    intro same
    rw [(List.cons.inj same).1, noDigit] at digit
    contradiction
  unfold takeValue
  split
  · next same => exact absurd same (apart _ rfl _)
  · next same => exact absurd same (apart _ rfl _)
  · next same => exact absurd same (apart _ rfl _)
  · next same => exact absurd same (apart _ rfl _)
  · rfl

/-- A number of at most 63 bits is read back. -/
theorem writes_number
    {number : Nat}
    (fits : number < bound63) :
    Writes (decimalText number).toList (.integer number) := by
  have all := areDigits_digits number
  have word (rest : List Char) := takeWord_digits number rest
  have scalar := readScalar_digits fits
  rw [decimalText, String.toList_ofList]
  cases written : digits number with
  | nil => exact absurd written (digits_ne_nil number)
  | cons first others =>
    rw [written] at all word scalar
    have digit := all.cons.1
    refine ⟨fun rest => ?_, fun rest => ?_⟩
    · have taken := takeValue_digit digit 79 (others ++ '\n' :: rest)
      rw [← List.cons_append, word, scalar] at taken
      exact taken
    · have visible := endsWord_of_isDigit digit
      simp only [endsWord, Bool.or_eq_false_iff] at visible
      simp [skipSpace, visible]

end Numbers

end MandateDesk.Toml
