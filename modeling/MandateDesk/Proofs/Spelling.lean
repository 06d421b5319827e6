import MandateDesk.Toml.Printer
import MandateDesk.Toml.Reader

/-!
# Written texts

Every text is read back from the form that is chosen for it, between quotes of
either kind, on one line or over several.  A text over several lines is spelled
character by character, and what matters of a spelling is that nowhere inside
it three quotes stand in a row; both long forms are spellings in this sense.
-/

namespace MandateDesk.Toml

/-! ## Escapes -/

theorem hexDigit?_upperHexDigit :
    ∀ digit < 16, Text.hexDigit? (upperHexDigit digit) = some digit := by
  decide

/-- What stands behind the backslash of an escape. -/
structure IsEscape (character : Char) (letters : List Char) : Prop where
  /-- It is taken as a whole. -/
  taken : ∀ rest, takeEscape (letters ++ rest) = some (character, rest)
  /-- It does not begin with a blank or the end of a line. -/
  joined : ∀ rest, afterLineEnd? (skipSpace (letters ++ rest)) = none

theorem codePoint?_control
    {character : Char}
    (small : character.toNat < 128) :
    codePoint?
        ['0', '0', upperHexDigit (character.toNat / 16),
          upperHexDigit (character.toNat % 16)] =
      some character := by
  have zero : Text.hexDigit? '0' = some 0 := rfl
  have high := hexDigit?_upperHexDigit (character.toNat / 16) (by omega)
  have low := hexDigit?_upperHexDigit (character.toNat % 16) (by omega)
  have upper : character.toNat / 16 < 16 := by omega
  have lower : character.toNat % 16 < 16 := by omega
  have number : valueIn 16
      ['0', '0', upperHexDigit (character.toNat / 16),
        upperHexDigit (character.toNat % 16)] = character.toNat := by
    simp only [valueIn, List.foldl_cons, List.foldl_nil, zero, high, low,
      Option.getD_some]
    omega
  have valid : character.toNat.isValidChar := Or.inl (by omega)
  simp [codePoint?, isDigitIn, zero, high, low, upper, lower, number, valid]

theorem isEscape_quote : IsEscape '"' ['"'] :=
  ⟨fun _ => rfl, fun _ => rfl⟩

theorem isEscape_control
    {character : Char}
    (escaped : needsEscape character = true) :
    IsEscape character
      ['u', '0', '0', upperHexDigit (character.toNat / 16),
        upperHexDigit (character.toNat % 16)] where
  taken rest := by
    have small : character.toNat < 128 := by
      simp only [needsEscape, Bool.or_eq_true, Bool.and_eq_true,
        decide_eq_true_eq, beq_iff_eq] at escaped
      rcases escaped with control | rfl
      · omega
      · decide
    have read := codePoint?_control small
    simp [takeEscape, read]
  joined rest := rfl

theorem isPlain_of_needsEscape
    {character : Char}
    (visible : needsEscape character = false)
    (noLine : character ≠ '\n') :
    isPlain character = true := by
  simp only [needsEscape, Bool.or_eq_false_iff, Bool.and_eq_false_iff,
    decide_eq_false_iff_not, bne_eq_false_iff_eq, beq_eq_false_iff_ne] at visible
  simp only [isPlain, Bool.or_eq_true, beq_iff_eq, Bool.and_eq_true,
    decide_eq_true_eq, bne_iff_ne]
  obtain ⟨(large | tabulator) | line, other⟩ := visible
  · exact Or.inr ⟨by omega, other⟩
  · exact Or.inl tabulator
  · exact absurd line noLine

/-- A character between double quotes is written plainly or as an escape. -/
theorem escapedCharacter_cases (isLong : Bool) (character : Char) :
    (character = '\n' ∧ isLong = true ∧
        escapedCharacter isLong character = ['\n']) ∨
      (isPlain character = true ∧ character ≠ '\\' ∧
        escapedCharacter isLong character = [character]) ∨
      ∃ letters, IsEscape character letters ∧
        escapedCharacter isLong character = '\\' :: letters := by
  unfold escapedCharacter
  split
  · next slash =>
    subst slash
    exact Or.inr (Or.inr ⟨_, ⟨fun _ => rfl, fun _ => rfl⟩, rfl⟩)
  split
  · next back =>
    subst back
    exact Or.inr (Or.inr ⟨_, ⟨fun _ => rfl, fun _ => rfl⟩, rfl⟩)
  split
  · next tabulator =>
    subst tabulator
    exact Or.inr (Or.inr ⟨_, ⟨fun _ => rfl, fun _ => rfl⟩, rfl⟩)
  split
  · next line =>
    subst line
    cases isLong with
    | true => exact Or.inl ⟨rfl, rfl, rfl⟩
    | false => exact Or.inr (Or.inr ⟨_, ⟨fun _ => rfl, fun _ => rfl⟩, rfl⟩)
  split
  · next page =>
    subst page
    exact Or.inr (Or.inr ⟨_, ⟨fun _ => rfl, fun _ => rfl⟩, rfl⟩)
  split
  · next turn =>
    subst turn
    exact Or.inr (Or.inr ⟨_, ⟨fun _ => rfl, fun _ => rfl⟩, rfl⟩)
  split
  · next control =>
    exact Or.inr (Or.inr ⟨_, isEscape_control control, rfl⟩)
  · next noSlash _ _ noLine _ _ visible =>
    exact Or.inr (Or.inl
      ⟨isPlain_of_needsEscape (Bool.not_eq_true _ ▸ visible) noLine, noSlash,
        rfl⟩)

/-! ## Texts on one line -/

theorem basicCharacters_quote
    (isLong : Bool)
    (run : Nat)
    (rest : List Char) :
    basicCharacters isLong run ('"' :: rest) =
      if run + 1 ≤ (if isLong then 2 else 0) then
        '"' :: basicCharacters isLong (run + 1) rest
      else '\\' :: '"' :: basicCharacters isLong 0 rest := by
  simp [basicCharacters]

theorem basicCharacters_cons
    (isLong : Bool)
    (run : Nat)
    {first : Char}
    (noQuote : first ≠ '"')
    (rest : List Char) :
    basicCharacters isLong run (first :: rest) =
      escapedCharacter isLong first ++ basicCharacters isLong 0 rest := by
  simp [basicCharacters]

/-- A character takes at least one. -/
theorem length_le_basicCharacters
    (isLong : Bool)
    (run : Nat)
    (text : List Char) :
    text.length ≤ (basicCharacters isLong run text).length := by
  induction text generalizing run with
  | nil => exact Nat.zero_le _
  | cons first rest hypothesis =>
    by_cases quote : first = '"'
    · subst quote
      have next := hypothesis (run + 1)
      have again := hypothesis 0
      rw [basicCharacters_quote]
      by_cases room : run + 1 ≤ (if isLong then 2 else 0)
      · rw [if_pos room, List.length_cons, List.length_cons]
        omega
      · rw [if_neg room, List.length_cons, List.length_cons, List.length_cons]
        omega
    · have next := hypothesis 0
      rw [basicCharacters_cons _ _ quote]
      rcases escapedCharacter_cases isLong first with
        ⟨_, _, same⟩ | ⟨_, _, same⟩ | ⟨letters, _, same⟩
      all_goals
        rw [same]
        simp only [List.length_cons, List.length_append]
        omega

theorem takeBasic_plain
    {first : Char}
    {rest read left : List Char}
    {fuel : Nat}
    (plain : isPlain first = true)
    (noQuote : first ≠ '"')
    (noSlash : first ≠ '\\')
    (taken : takeBasic fuel rest = some (read, left)) :
    takeBasic (fuel + 1) (first :: rest) = some (first :: read, left) := by
  simp [takeBasic, plain, taken]

theorem takeBasic_escape
    {character : Char}
    {letters rest read left : List Char}
    {fuel : Nat}
    (escape : IsEscape character letters)
    (taken : takeBasic fuel rest = some (read, left)) :
    takeBasic (fuel + 1) ('\\' :: letters ++ rest) =
      some (character :: read, left) := by
  have letter := escape.taken rest
  simp [takeBasic, letter, taken]

/-- Any text is taken back from one line. -/
theorem takeBasic_basicCharacters
    (text rest : List Char)
    {fuel : Nat}
    (enough : text.length < fuel) :
    takeBasic fuel (basicCharacters false 0 text ++ '"' :: rest) =
      some (text, rest) := by
  induction text generalizing fuel with
  | nil =>
    cases fuel with
    | zero => contradiction
    | succ fuel => simp [basicCharacters, takeBasic]
  | cons first others hypothesis =>
    cases fuel with
    | zero => contradiction
    | succ fuel =>
      have taken := hypothesis (Nat.lt_of_succ_lt_succ enough)
      by_cases quote : first = '"'
      · subst quote
        have escaped := takeBasic_escape isEscape_quote taken
        rw [basicCharacters_quote, if_neg (by simp)]
        exact escaped
      · rw [basicCharacters_cons _ _ quote, List.append_assoc]
        rcases escapedCharacter_cases false first with
          ⟨_, impossible, _⟩ | ⟨plain, noSlash, same⟩ | ⟨_, escape, same⟩
        · contradiction
        · rw [same]
          exact takeBasic_plain plain quote noSlash taken
        · rw [same]
          exact takeBasic_escape escape taken

/-- Any plain text without the mark is taken back as it stands. -/
theorem takeLiteral_append
    {text : List Char}
    (plain : ∀ character ∈ text, isPlain character = true)
    (unmarked : '\'' ∉ text)
    (rest : List Char) :
    takeLiteral (text ++ '\'' :: rest) = some (text, rest) := by
  induction text with
  | nil => simp [takeLiteral]
  | cons first others hypothesis =>
    have visible := plain first (List.mem_cons_self ..)
    have apart : first ≠ '\'' := fun same =>
      unmarked (same ▸ List.mem_cons_self ..)
    have taken := hypothesis
      (fun character member => plain character (List.mem_cons_of_mem _ member))
      (fun member => unmarked (List.mem_cons_of_mem _ member))
    simp [takeLiteral, visible, taken]

/-! ## Texts over several lines -/

/--
A text as it is spelled behind a number of marks in a row: never are more than
two marks written in a row.
-/
inductive Spelled
    (mark : Char)
    (hasEscapes : Bool) :
    (run : Nat) → (text written : List Char) → Prop where
  /-- Nothing is left. -/
  | done {run : Nat} : Spelled mark hasEscapes run [] []
  /-- A mark that is not the third one in a row. -/
  | marked
      {run : Nat}
      {text written : List Char}
      (room : run + 1 ≤ 2)
      (rest : Spelled mark hasEscapes (run + 1) text written) :
      Spelled mark hasEscapes run (mark :: text) (mark :: written)
  /-- The end of a line. -/
  | line
      {run : Nat}
      {text written : List Char}
      (rest : Spelled mark hasEscapes 0 text written) :
      Spelled mark hasEscapes run ('\n' :: text) ('\n' :: written)
  /-- A character that stands for itself. -/
  | plain
      {run : Nat}
      {character : Char}
      {text written : List Char}
      (visible : isPlain character = true)
      (unmarked : character ≠ mark)
      (noSlash : hasEscapes = true → character ≠ '\\')
      (rest : Spelled mark hasEscapes 0 text written) :
      Spelled mark hasEscapes run (character :: text) (character :: written)
  /-- A character that is written as an escape. -/
  | escaped
      {run : Nat}
      {character : Char}
      {letters text written : List Char}
      (allowed : hasEscapes = true)
      (escape : IsEscape character letters)
      (rest : Spelled mark hasEscapes 0 text written) :
      Spelled mark hasEscapes run (character :: text)
        ('\\' :: letters ++ written)

theorem runLength_cons_self (mark : Char) (rest : List Char) :
    runLength mark (mark :: rest) = runLength mark rest + 1 := by
  simp [runLength]

theorem runLength_cons_of_ne
    {mark first : Char}
    (unmarked : first ≠ mark)
    (rest : List Char) :
    runLength mark (first :: rest) = 0 := by
  simp [runLength, unmarked]

/-- A text that does not begin with a mark. -/
def EndsMarks (mark : Char) (text : List Char) : Prop :=
  text.head? ≠ some mark

theorem EndsMarks.runLength_eq
    {mark : Char}
    {text : List Char}
    (ends : EndsMarks mark text) :
    runLength mark text = 0 := by
  cases text with
  | nil => rfl
  | cons first rest =>
    exact runLength_cons_of_ne (fun same => ends (congrArg some same)) rest

/-- A mark as it closes a text over several lines. -/
def closing (mark : Char) (rest : List Char) : List Char :=
  mark :: mark :: mark :: rest

/--
Three marks in a row stand at the front of a spelled text only where all that
is left of the text is marks.
-/
theorem Spelled.runLength_le_or_eq
    {mark : Char}
    {hasEscapes : Bool}
    {run : Nat}
    {text written rest : List Char}
    (spelled : Spelled mark hasEscapes run text written)
    (few : run ≤ 2)
    (noLine : mark ≠ '\n')
    (noSlash : mark ≠ '\\')
    (ends : EndsMarks mark rest) :
    runLength mark (written ++ closing mark rest) + run ≤ 2 ∨
      ∃ count, count + run ≤ 2 ∧ text = List.replicate count mark ∧
        written = List.replicate count mark ∧
        runLength mark (written ++ closing mark rest) = count + 3 := by
  induction spelled with
  | done =>
    refine Or.inr ⟨0, by omega, rfl, rfl, ?_⟩
    simp [closing, runLength_cons_self, ends.runLength_eq]
  | marked room next hypothesis =>
    rw [List.cons_append, runLength_cons_self]
    rcases hypothesis room with short | ⟨count, fits, rfl, rfl, long⟩
    · exact Or.inl (by omega)
    · exact Or.inr ⟨count + 1, by omega, rfl, rfl, by omega⟩
  | line => exact Or.inl (by simpa [runLength_cons_of_ne noLine.symm] using few)
  | plain _ unmarked =>
    exact Or.inl (by simpa [runLength_cons_of_ne unmarked] using few)
  | escaped =>
    exact Or.inl (by simpa [runLength_cons_of_ne noSlash.symm] using few)

theorem takeLong_closing
    {mark : Char}
    (hasEscapes : Bool)
    (fuel : Nat)
    {count : Nat}
    {rest : List Char}
    (few : count ≤ 2)
    (long : runLength mark
      (List.replicate count mark ++ closing mark rest) = count + 3) :
    takeLong mark hasEscapes (fuel + 1)
        (List.replicate count mark ++ closing mark rest) =
      some (List.replicate count mark, rest) := by
  have whole : min (count + 3) 5 = count + 3 := by omega
  have dropped : (List.replicate count mark ++ closing mark rest).drop
      (count + 3) = rest := by
    rw [← List.drop_drop, List.drop_left' (by simp)]
    rfl
  unfold takeLong
  rw [long, if_pos (by omega), whole, dropped, Nat.add_sub_cancel]

theorem takeLong_line
    {mark : Char}
    {hasEscapes : Bool}
    {fuel : Nat}
    {rest read left : List Char}
    (noLine : mark ≠ '\n')
    (taken : takeLong mark hasEscapes fuel rest = some (read, left)) :
    takeLong mark hasEscapes (fuel + 1) ('\n' :: rest) =
      some ('\n' :: read, left) := by
  have none := runLength_cons_of_ne noLine.symm rest
  simp [takeLong, none, taken]

theorem takeLong_plain
    {mark first : Char}
    {hasEscapes : Bool}
    {fuel : Nat}
    {rest read left : List Char}
    (short : runLength mark (first :: rest) ≤ 2)
    (plain : isPlain first = true)
    (noSlash : hasEscapes = true → first ≠ '\\')
    (taken : takeLong mark hasEscapes fuel rest = some (read, left)) :
    takeLong mark hasEscapes (fuel + 1) (first :: rest) =
      some (first :: read, left) := by
  have noLine : first ≠ '\n' := by
    rintro rfl
    contradiction
  have noTurn : first ≠ '\r' := by
    rintro rfl
    contradiction
  have unescaped : ¬ (hasEscapes = true ∧ first = '\\') := fun both =>
    noSlash both.1 both.2
  unfold takeLong
  rw [if_neg (by omega)]
  split
  · contradiction
  · next same => exact absurd (List.cons.inj same).1 noLine
  · next same => exact absurd (List.cons.inj same).1 noTurn
  · next same =>
    obtain ⟨rfl, rfl⟩ := List.cons.inj same
    rw [if_neg unescaped, if_pos plain, taken]
    rfl

theorem takeLong_escape
    {mark character : Char}
    {letters rest read left : List Char}
    {fuel : Nat}
    (noSlash : mark ≠ '\\')
    (escape : IsEscape character letters)
    (taken : takeLong mark true fuel rest = some (read, left)) :
    takeLong mark true (fuel + 1) ('\\' :: letters ++ rest) =
      some (character :: read, left) := by
  have letter := escape.taken rest
  have joined := escape.joined rest
  have none := runLength_cons_of_ne noSlash.symm (letters ++ rest)
  simp [takeLong, none, joined, letter, taken]

/-- A spelled text is taken back. -/
theorem Spelled.takeLong_eq
    {mark : Char}
    {hasEscapes : Bool}
    {run fuel : Nat}
    {text written rest : List Char}
    (spelled : Spelled mark hasEscapes run text written)
    (few : run ≤ 2)
    (noLine : mark ≠ '\n')
    (noSlash : mark ≠ '\\')
    (visible : isPlain mark = true)
    (ends : EndsMarks mark rest)
    (enough : text.length ≤ fuel) :
    takeLong mark hasEscapes (fuel + 1) (written ++ closing mark rest) =
      some (text, rest) := by
  induction spelled generalizing fuel with
  | done =>
    have long : runLength mark (closing mark rest) = 3 := by
      simp [closing, runLength_cons_self, ends.runLength_eq]
    exact takeLong_closing hasEscapes fuel (Nat.zero_le 2) long
  | marked room next hypothesis =>
    obtain ⟨fuel, rfl⟩ := Nat.exists_eq_add_of_lt enough
    rcases (Spelled.marked room next).runLength_le_or_eq few noLine noSlash
      ends with short | ⟨count, fits, same, written, long⟩
    · exact takeLong_plain (Nat.le_trans (Nat.le_add_right _ _) short) visible
        (fun _ => noSlash) (hypothesis room (by omega))
    · rw [written] at long
      rw [same, written]
      exact takeLong_closing hasEscapes _ (by omega) long
  | line next hypothesis =>
    obtain ⟨fuel, rfl⟩ := Nat.exists_eq_add_of_lt enough
    exact takeLong_line noLine (hypothesis (Nat.zero_le 2) (by omega))
  | plain plain unmarked noEscape next hypothesis =>
    obtain ⟨fuel, rfl⟩ := Nat.exists_eq_add_of_lt enough
    refine takeLong_plain ?_ plain noEscape
      (hypothesis (Nat.zero_le 2) (by omega))
    rw [runLength_cons_of_ne unmarked]
    exact Nat.zero_le 2
  | escaped allowed escape next hypothesis =>
    obtain ⟨fuel, rfl⟩ := Nat.exists_eq_add_of_lt enough
    subst allowed
    rw [List.append_assoc]
    exact takeLong_escape noSlash escape
      (hypothesis (Nat.zero_le 2) (by omega))

/-! ## Spellings -/

/-- Between double quotes any text is spelled. -/
theorem spelled_basicCharacters
    (text : List Char)
    {run : Nat}
    (few : run ≤ 2) :
    Spelled '"' true run text (basicCharacters true run text) := by
  induction text generalizing run with
  | nil => exact .done
  | cons first rest hypothesis =>
    by_cases quote : first = '"'
    · subst quote
      rw [basicCharacters_quote]
      by_cases room : run + 1 ≤ 2
      · rw [if_pos (by simpa using room)]
        exact .marked room (hypothesis room)
      · rw [if_neg (by simpa using room)]
        exact .escaped rfl isEscape_quote (hypothesis (Nat.zero_le 2))
    · rw [basicCharacters_cons _ _ quote]
      rcases escapedCharacter_cases true first with
        ⟨rfl, _, same⟩ | ⟨plain, noSlash, same⟩ | ⟨letters, escape, same⟩
      · rw [same]
        exact .line (hypothesis (Nat.zero_le 2))
      · rw [same]
        exact .plain plain quote (fun _ => noSlash)
          (hypothesis (Nat.zero_le 2))
      · rw [same]
        exact .escaped rfl escape (hypothesis (Nat.zero_le 2))

theorem le_longestRun (mark : Char) (run : Nat) (text : List Char) :
    run ≤ longestRun mark run text := by
  induction text generalizing run with
  | nil => exact Nat.le_refl _
  | cons first rest hypothesis =>
    unfold longestRun
    split
    · have longer := hypothesis (run + 1)
      omega
    · exact Nat.le_max_left ..

/-- A text of plain lines with short runs of marks spells itself. -/
theorem spelled_self
    {mark : Char}
    {text : List Char}
    {run : Nat}
    (visible : ∀ character ∈ text, needsEscape character = false)
    (short : longestRun mark run text ≤ 2) :
    Spelled mark false run text text := by
  induction text generalizing run with
  | nil => exact .done
  | cons first rest hypothesis =>
    have others : ∀ character ∈ rest, needsEscape character = false :=
      fun character member => visible character (List.mem_cons_of_mem _ member)
    unfold longestRun at short
    split at short
    · next same =>
      subst same
      have room := le_longestRun first (run + 1) rest
      exact .marked (by omega) (hypothesis others short)
    · next unmarked =>
      have next := hypothesis others
        (Nat.le_trans (Nat.le_max_right ..) short)
      by_cases line : first = '\n'
      · subst line
        exact .line next
      · exact .plain
          (isPlain_of_needsEscape (visible first (List.mem_cons_self ..)) line)
          unmarked nofun next

theorem not_mem_of_longestRun_eq_zero
    {mark : Char}
    {text : List Char}
    (none : longestRun mark 0 text = 0) :
    mark ∉ text := by
  induction text with
  | nil => exact List.not_mem_nil
  | cons first rest hypothesis =>
    unfold longestRun at none
    split at none
    · have longer := le_longestRun mark (0 + 1) rest
      omega
    · next unmarked =>
      have absent := hypothesis (by omega)
      simp [absent, Ne.symm unmarked]

/-! ## Any text -/

theorem afterLineEnd?_of_isPlain
    {first : Char}
    (plain : isPlain first = true)
    (rest : List Char) :
    afterLineEnd? (first :: rest) = none := by
  unfold afterLineEnd?
  split
  · next same =>
    obtain ⟨rfl, -⟩ := List.cons.inj same
    contradiction
  · next same =>
    obtain ⟨rfl, -⟩ := List.cons.inj same
    contradiction
  · rfl

/-- The end of a line in front of a spelled text is none of its own. -/
theorem Spelled.skipLineEnd_eq
    {mark : Char}
    {hasEscapes : Bool}
    {run : Nat}
    {text written : List Char}
    (spelled : Spelled mark hasEscapes run text written)
    (visible : isPlain mark = true)
    (rest : List Char) :
    skipLineEnd (leadingLine text ++ (written ++ closing mark rest)) =
      written ++ closing mark rest := by
  unfold leadingLine
  split
  · rfl
  · next oneLine =>
    unfold skipLineEnd
    cases spelled with
    | done => simp [closing, afterLineEnd?_of_isPlain visible]
    | marked => simp [afterLineEnd?_of_isPlain visible]
    | line => simp at oneLine
    | plain plain => simp [afterLineEnd?_of_isPlain plain]
    | escaped => rfl

/-- What follows a text does not begin with a quote. -/
structure EndsText (text : List Char) : Prop where
  /-- Not with a double one. -/
  double : EndsMarks '"' text
  /-- Nor with a single one. -/
  single : EndsMarks '\'' text

/-- Text on one line begins with no quote of its own. -/
theorem basicCharacters_ne_quotes
    {text rest : List Char}
    (ends : EndsText rest)
    (other : List Char) :
    basicCharacters false 0 text ++ '"' :: rest ≠ '"' :: '"' :: other := by
  intro same
  cases text with
  | nil =>
    have front := (List.cons.inj same).2
    exact ends.double (by rw [front]; rfl)
  | cons first others =>
    by_cases quote : first = '"'
    · subst quote
      rw [basicCharacters_quote, if_neg (by simp)] at same
      have slash := (List.cons.inj same).1
      contradiction
    · rw [basicCharacters_cons _ _ quote] at same
      rcases escapedCharacter_cases false first with
        ⟨_, impossible, _⟩ | ⟨_, _, written⟩ | ⟨_, _, written⟩
      · contradiction
      · rw [written] at same
        exact quote (List.cons.inj same).1
      · rw [written] at same
        have slash := (List.cons.inj same).1
        contradiction

theorem takeText_basic
    (text : List Char)
    {rest : List Char}
    (ends : EndsText rest) :
    takeText (inForm text .basic ++ rest) = some (text, rest) := by
  have apart (other : List Char) :
      basicCharacters false 0 text ++ '"' :: rest ≠ '"' :: '"' :: other :=
    basicCharacters_ne_quotes ends other
  have long := length_le_basicCharacters false 0 text
  have taken (fuel : Nat) (enough : text.length < fuel) :=
    takeBasic_basicCharacters text rest enough
  have shape : inForm text .basic ++ rest =
      '"' :: (basicCharacters false 0 text ++ '"' :: rest) := by
    simp [inForm]
  rw [shape]
  unfold takeText
  split
  · next same => exact absurd (List.cons.inj same).2 (apart _)
  · next same =>
    obtain ⟨-, rfl⟩ := List.cons.inj same
    exact taken _ (by rw [List.length_append]; omega)
  · next same => exact absurd (List.cons.inj same).1 (by decide)
  · next same => exact absurd (List.cons.inj same).1 (by decide)
  · next _ impossible _ _ => exact absurd rfl (impossible _)

theorem takeText_literal
    {text : List Char}
    (visible : ∀ character ∈ text, isPlain character = true)
    (unmarked : '\'' ∉ text)
    {rest : List Char}
    (ends : EndsText rest) :
    takeText (inForm text .literal ++ rest) = some (text, rest) := by
  have taken := takeLiteral_append visible unmarked rest
  have apart (other : List Char) :
      text ++ '\'' :: rest ≠ '\'' :: '\'' :: other := by
    intro same
    cases text with
    | nil =>
      have front := (List.cons.inj same).2
      exact ends.single (by rw [front]; rfl)
    | cons first others =>
      exact unmarked ((List.cons.inj same).1 ▸ List.mem_cons_self ..)
  have shape : inForm text .literal ++ rest =
      '\'' :: (text ++ '\'' :: rest) := by
    simp [inForm]
  rw [shape]
  unfold takeText
  split
  · next same => exact absurd (List.cons.inj same).1 (by decide)
  · next same => exact absurd (List.cons.inj same).1 (by decide)
  · next same => exact absurd (List.cons.inj same).2 (apart _)
  · next same =>
    obtain ⟨-, rfl⟩ := List.cons.inj same
    exact taken
  · next impossible => exact absurd rfl (impossible _)

theorem takeText_longBasic
    (text : List Char)
    {rest : List Char}
    (ends : EndsText rest) :
    takeText (inForm text .longBasic ++ rest) = some (text, rest) := by
  have spelled := spelled_basicCharacters text (Nat.zero_le 2)
  have front := spelled.skipLineEnd_eq rfl rest
  have long := length_le_basicCharacters true 0 text
  have shape : inForm text .longBasic ++ rest =
      closing '"' (leadingLine text ++
        (basicCharacters true 0 text ++ closing '"' rest)) := by
    simp [inForm, closing]
  rw [shape]
  show takeLong '"' true _ (skipLineEnd _) = _
  rw [front]
  refine spelled.takeLong_eq (Nat.zero_le 2) (by decide) (by decide) rfl
    ends.double ?_
  rw [List.length_append, List.length_append]
  omega

theorem takeText_longLiteral
    {text : List Char}
    (visible : ∀ character ∈ text, needsEscape character = false)
    (short : longestRun '\'' 0 text ≤ 2)
    {rest : List Char}
    (ends : EndsText rest) :
    takeText (inForm text .longLiteral ++ rest) = some (text, rest) := by
  have spelled := spelled_self visible short
  have front := spelled.skipLineEnd_eq rfl rest
  have shape : inForm text .longLiteral ++ rest =
      closing '\'' (leadingLine text ++ (text ++ closing '\'' rest)) := by
    simp [inForm, closing]
  rw [shape]
  show takeLong '\'' false _ (skipLineEnd _) = _
  rw [front]
  refine spelled.takeLong_eq (Nat.zero_le 2) (by decide) (by decide) rfl
    ends.single ?_
  rw [List.length_append, List.length_append]
  omega

/-- A text is taken back from the form that is chosen for it. -/
theorem takeText_inForm
    (text : List Char)
    {rest : List Char}
    (ends : EndsText rest) :
    takeText (inForm text (form text) ++ rest) = some (text, rest) := by
  unfold form
  simp only [Bool.and_eq_true, Bool.not_eq_true', beq_iff_eq,
    decide_eq_true_eq]
  split
  · exact takeText_basic text ends
  split
  · next chosen =>
    obtain ⟨⟨unescaped, none⟩, oneLine⟩ := chosen
    refine takeText_literal (fun character member => ?_)
      (not_mem_of_longestRun_eq_zero none) ends
    refine isPlain_of_needsEscape ?_ ?_
    · simpa using List.any_eq_false.mp unescaped character member
    · rintro rfl
      simp [member] at oneLine
  split
  · exact takeText_longBasic text ends
  split
  · next chosen =>
    obtain ⟨unescaped, short⟩ := chosen
    refine takeText_longLiteral (fun character member => ?_) short ends
    simpa using List.any_eq_false.mp unescaped character member
  split
  · exact takeText_longBasic text ends
  · exact takeText_basic text ends

end MandateDesk.Toml
