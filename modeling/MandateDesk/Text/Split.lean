/-!
# Splitting at a mark

The parts of a text between marks. There is one part more than there are
marks, and joining the parts with the mark gives the text back.
-/

namespace MandateDesk.Text

/-- The parts of a text between marks. -/
def parts (mark : Char) : List Char → List (List Char)
  | [] => [[]]
  | first :: rest =>
    if first = mark then [] :: parts mark rest
    else
      match parts mark rest with
      | [] => [[first]]
      | part :: others => (first :: part) :: others

theorem parts_ne_nil
    (mark : Char)
    (text : List Char) :
    parts mark text ≠ [] := by
  cases text with
  | nil => simp [parts]
  | cons first rest =>
    unfold parts
    split
    · simp
    · split <;> simp

/-- Joining the parts gives the text back. -/
theorem intercalate_parts
    (mark : Char)
    (text : List Char) :
    List.intercalate [mark] (parts mark text) = text := by
  induction text with
  | nil => simp [parts, List.intercalate]
  | cons first rest hypothesis =>
    have nonempty := parts_ne_nil mark rest
    unfold parts
    cases split : parts mark rest with
    | nil => exact absurd split nonempty
    | cons part others =>
      rw [split] at hypothesis
      by_cases same : first = mark
      · subst same
        simp [← hypothesis, List.intercalate]
      · cases others with
        | nil => simp_all [List.intercalate]
        | cons second remaining => simp_all [List.intercalate]

/-- No part has the mark in it. -/
theorem not_mem_of_mem_parts
    {mark : Char}
    {text part : List Char}
    (member : part ∈ parts mark text) :
    mark ∉ part := by
  induction text generalizing part with
  | nil =>
    rw [List.mem_singleton.mp member]
    exact List.not_mem_nil
  | cons first rest hypothesis =>
    unfold parts at member
    split at member
    · rcases List.mem_cons.mp member with rfl | later
      · exact List.not_mem_nil
      · exact hypothesis later
    rename_i apart
    split at member
    · rename_i impossible
      exact absurd impossible (parts_ne_nil mark rest)
    · rename_i others split
      rw [split] at hypothesis
      rcases List.mem_cons.mp member with rfl | later
      · intro within
        rcases List.mem_cons.mp within with here | there
        · exact apart here.symm
        · exact hypothesis (List.mem_cons_self ..) there
      · exact hypothesis (List.mem_cons_of_mem _ later)

/-- A text without the mark is its only part. -/
theorem parts_of_not_mem
    {mark : Char}
    {text : List Char}
    (free : mark ∉ text) :
    parts mark text = [text] := by
  induction text with
  | nil => rfl
  | cons first rest hypothesis =>
    rw [List.mem_cons, not_or] at free
    rw [parts, if_neg (Ne.symm free.1), hypothesis free.2]

/-- The text in front of the first mark is the first part. -/
theorem parts_append_cons
    {mark : Char}
    {front : List Char}
    (free : mark ∉ front)
    (rest : List Char) :
    parts mark (front ++ mark :: rest) = front :: parts mark rest := by
  induction front with
  | nil => exact if_pos rfl
  | cons first others hypothesis =>
    rw [List.mem_cons, not_or] at free
    rw [List.cons_append, parts, if_neg (Ne.symm free.1), hypothesis free.2]

/-- Parts without the mark are found again once they are joined by it. -/
theorem parts_intercalate
    {mark : Char}
    {fields : List (List Char)}
    (nonempty : fields ≠ [])
    (free : ∀ field ∈ fields, mark ∉ field) :
    parts mark (List.intercalate [mark] fields) = fields := by
  induction fields with
  | nil => contradiction
  | cons field others hypothesis =>
    have here := free field List.mem_cons_self
    cases others with
    | nil =>
      rw [List.intercalate_singleton]
      exact parts_of_not_mem here
    | cons second remaining =>
      rw [List.intercalate_cons_cons, List.append_assoc, List.singleton_append,
        parts_append_cons here, hypothesis (List.cons_ne_nil _ _)]
      exact fun other member => free other (List.mem_cons_of_mem _ member)

end MandateDesk.Text
