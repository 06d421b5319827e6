import MandateDesk.Text.Blank

/-!
# Keywords in any case

Keywords are ASCII words that a reader may write in any case. This module
holds the part of the Unicode case maps that can produce ASCII letters, which
is all that a comparison with an ASCII word can see: every other character
maps to something that is not ASCII, and is left as it is.

`upperCase` and `keyword` prepare a text for the comparison with upper-case
words, `lowerCase` for the comparison with lower-case ones.
-/

namespace MandateDesk.Text

/-- The upper-case form of one character, which may be several letters. -/
def upperCharacter (character : Char) : List Char :=
  if 'a' ≤ character ∧ character ≤ 'z' then
    [character.toUpper]
  else if character = '\u0131' then ['I']
  else if character = '\u017F' then ['S']
  else if character = '\u00DF' then ['S', 'S']
  else if character = '\uFB00' then ['F', 'F']
  else if character = '\uFB01' then ['F', 'I']
  else if character = '\uFB02' then ['F', 'L']
  else if character = '\uFB03' then ['F', 'F', 'I']
  else if character = '\uFB04' then ['F', 'F', 'L']
  else if character = '\uFB05' then ['S', 'T']
  else if character = '\uFB06' then ['S', 'T']
  else [character]

/-- The lower-case form of one character. -/
def lowerCharacter (character : Char) : Char :=
  if 'A' ≤ character ∧ character ≤ 'Z' then character.toLower
  else if character = '\u212A' then 'k'
  else character

/-- A text in upper case, as far as a comparison with ASCII words can see. -/
def upperCase (text : String) : String :=
  String.ofList (text.toList.flatMap upperCharacter)

/-- A text in lower case, as far as a comparison with ASCII words can see. -/
def lowerCase (text : String) : String :=
  String.ofList (text.toList.map lowerCharacter)

/-- A text without surrounding blanks, in upper case. -/
def keyword (text : String) : String :=
  String.ofList ((trim text.toList).flatMap upperCharacter)

example : keyword " \u017Fell\u3000" = "SELL" := by decide
example : upperCase "\uFB02at" = "FLAT" := by decide

/-! ## Words in any case -/

/-- A blank is in upper case already. -/
theorem upperCharacter_of_isBlank
    {character : Char}
    (blank : isBlank character = true) :
    upperCharacter character = [character] := by
  have apart {other : Char} (visible : isBlank other = false) :
      character ≠ other := by
    rintro rfl
    rw [visible] at blank
    contradiction
  have noLetter : ¬ ('a' ≤ character ∧ character ≤ 'z') := by
    rintro ⟨low, high⟩
    have low : 97 ≤ character.toNat := UInt32.le_iff_toNat_le.mp low
    have high : character.toNat ≤ 122 := UInt32.le_iff_toNat_le.mp high
    simp [isBlank, inRanges, blankRanges] at blank
    omega
  unfold upperCharacter
  rw [if_neg noLetter, if_neg (apart (by decide)), if_neg (apart (by decide)),
    if_neg (apart (by decide)), if_neg (apart (by decide)),
    if_neg (apart (by decide)), if_neg (apart (by decide)),
    if_neg (apart (by decide)), if_neg (apart (by decide)),
    if_neg (apart (by decide)), if_neg (apart (by decide))]

/-- A text that spells a word, in any case and between blanks. -/
def Spells (word text : String) : Prop :=
  ∃ front letters back,
    text.toList = front ++ letters ++ back ∧
      front.all isBlank = true ∧ back.all isBlank = true ∧
      letters.flatMap upperCharacter = word.toList

/-- A word without blanks is the keyword of all texts that spell it. -/
theorem keyword_eq_iff
    {word : String}
    (solid : word.toList.any isBlank = false)
    (text : String) :
    keyword text = word ↔ Spells word text := by
  unfold keyword
  rw [← String.toList_inj, String.toList_ofList]
  constructor
  · intro same
    rcases exists_eq_append_trim text.toList with
      ⟨front, back, whole, before, behind⟩
    exact ⟨front, _, back, whole, before, behind, same⟩
  · rintro ⟨front, letters, back, whole, before, behind, same⟩
    have visible : ∀ character ∈ letters, isBlank character = false := by
      intro character member
      cases blank : isBlank character with
      | false => rfl
      | true =>
        -- it would be left in the word as it is
        have within : character ∈ letters.flatMap upperCharacter :=
          List.mem_flatMap.mpr ⟨character, member, by
            rw [upperCharacter_of_isBlank blank]
            exact List.mem_singleton_self character⟩
        rw [same] at within
        exact absurd blank (List.any_eq_false.mp solid character within)
    rw [whole, trim_append before behind visible]
    exact same

end MandateDesk.Text
