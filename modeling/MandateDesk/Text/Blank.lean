/-!
# Blank characters

This module holds the Unicode `White_Space` property and the two operations
that depend on it: cutting blanks off both ends of a text, and asking whether
anything but blanks is left.

A text is blank exactly when trimming it leaves nothing.
-/

namespace MandateDesk.Text

/-- Code point ranges of the Unicode `White_Space` property, ends included. -/
def blankRanges : List (Nat × Nat) :=
  [(0x09, 0x0D), (0x20, 0x20), (0x85, 0x85), (0xA0, 0xA0),
   (0x1680, 0x1680), (0x2000, 0x200A), (0x2028, 0x2029),
   (0x202F, 0x202F), (0x205F, 0x205F), (0x3000, 0x3000)]

/-- Whether a code point lies in one of the ranges. -/
def inRanges (ranges : List (Nat × Nat)) (character : Char) : Bool :=
  ranges.any fun range =>
    range.1 ≤ character.toNat && character.toNat ≤ range.2

/-- Whether a character is Unicode white space. -/
def isBlank (character : Char) : Bool :=
  inRanges blankRanges character

/-- A text without its leading blanks. -/
def trimStart (text : List Char) : List Char :=
  text.dropWhile isBlank

/-- A text without its trailing blanks. -/
def trimEnd (text : List Char) : List Char :=
  (text.reverse.dropWhile isBlank).reverse

/-- A text without the blanks at either end. -/
def trim (text : List Char) : List Char :=
  trimEnd (trimStart text)

/-- Whether a text holds nothing but blanks. -/
def isBlankText (text : String) : Bool :=
  text.toList.all isBlank

theorem trimStart_eq_nil_iff
    (text : List Char) :
    trimStart text = [] ↔ text.all isBlank = true := by
  induction text with
  | nil => simp [trimStart]
  | cons first rest hypothesis =>
    by_cases blank : isBlank first = true
    · rw [List.all_cons, blank, Bool.true_and, ← hypothesis]
      simp [trimStart, blank]
    · simp [trimStart, blank]

theorem trimEnd_eq_nil_iff
    (text : List Char) :
    trimEnd text = [] ↔ text.all isBlank = true := by
  unfold trimEnd
  rw [List.reverse_eq_nil_iff]
  have reversed := trimStart_eq_nil_iff text.reverse
  rw [List.all_reverse] at reversed
  exact reversed

/-- A text is blank exactly when trimming leaves nothing of it. -/
theorem trim_eq_nil_iff
    (text : String) :
    trim text.toList = [] ↔ isBlankText text = true := by
  constructor
  · intro trimmed
    have inner : (trimStart text.toList).all isBlank = true :=
      (trimEnd_eq_nil_iff _).mp trimmed
    have started : trimStart text.toList = [] := by
      cases split : trimStart text.toList with
      | nil => rfl
      | cons first rest =>
        have kept : isBlank first = true := by
          rw [split] at inner
          simpa using List.all_eq_true.mp inner first (by simp)
        have headKept := List.head?_dropWhile_not isBlank text.toList
        unfold trimStart at split
        rw [split] at headKept
        simp [kept] at headKept
    exact (trimStart_eq_nil_iff _).mp started
  · intro blank
    have started : trimStart text.toList = [] :=
      (trimStart_eq_nil_iff _).mpr blank
    simp [trim, started, trimEnd]

/-! ## Blanks around a text -/

theorem trimStart_append
    {front : List Char}
    (blank : front.all isBlank = true)
    (rest : List Char) :
    trimStart (front ++ rest) = trimStart rest :=
  List.dropWhile_append_of_pos (List.all_eq_true.mp blank)

theorem trimEnd_append
    {back : List Char}
    (blank : back.all isBlank = true)
    (text : List Char) :
    trimEnd (text ++ back) = trimEnd text := by
  unfold trimEnd
  rw [List.reverse_append, List.dropWhile_append_of_pos]
  intro character member
  exact List.all_eq_true.mp blank character (List.mem_reverse.mp member)

/-- Where there is no blank in front, none is cut off. -/
theorem dropWhile_isBlank_of_solid
    {text : List Char}
    (solid : ∀ character ∈ text, isBlank character = false) :
    text.dropWhile isBlank = text := by
  cases text with
  | nil => rfl
  | cons first rest =>
    have visible := solid first (List.mem_cons_self ..)
    exact List.dropWhile_cons_of_neg (by simp [visible])

/-- Trimming finds a text without blanks between blanks. -/
theorem trim_append
    {front inner back : List Char}
    (before : front.all isBlank = true)
    (behind : back.all isBlank = true)
    (solid : ∀ character ∈ inner, isBlank character = false) :
    trim (front ++ inner ++ back) = inner := by
  have ends : trimEnd inner = inner := by
    unfold trimEnd
    rw [dropWhile_isBlank_of_solid, List.reverse_reverse]
    exact fun character member => solid character (List.mem_reverse.mp member)
  unfold trim
  rw [List.append_assoc, trimStart_append before]
  cases inner with
  | nil =>
    rw [List.nil_append, (trimStart_eq_nil_iff back).mpr behind]
    rfl
  | cons first rest =>
    have visible := solid first (List.mem_cons_self ..)
    have kept : trimStart (first :: rest ++ back) = first :: rest ++ back :=
      List.dropWhile_cons_of_neg (by simp [visible])
    rw [kept, trimEnd_append behind, ends]

/-- A text is what trimming leaves of it, between blanks. -/
theorem exists_eq_append_trim (text : List Char) :
    ∃ front back,
      text = front ++ trim text ++ back ∧
        front.all isBlank = true ∧ back.all isBlank = true := by
  refine
    ⟨text.takeWhile isBlank,
      ((trimStart text).reverse.takeWhile isBlank).reverse, ?_, ?_, ?_⟩
  · have inner :
        trimStart text =
          trim text ++
            ((trimStart text).reverse.takeWhile isBlank).reverse := by
      unfold trim trimEnd
      rw [← List.reverse_append, List.takeWhile_append_dropWhile,
        List.reverse_reverse]
    rw [List.append_assoc, ← inner]
    exact List.takeWhile_append_dropWhile.symm
  · exact List.all_takeWhile
  · rw [List.all_reverse]
    exact List.all_takeWhile

end MandateDesk.Text
