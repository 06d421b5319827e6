import MandateDesk.Text.Keyword

/-!
# Directions

A position profits from a rising price when it is long and from a falling one
when it is short. Directions are written as upper-case words and read from
words in any case, with `BUY` and `SELL` as other names.
-/

namespace MandateDesk

/-- The direction of a position. -/
inductive Direction where
  /-- Profits from a rising price. -/
  | long
  /-- Profits from a falling price. -/
  | short
deriving DecidableEq, Inhabited

namespace Direction

/-- The other direction. -/
def opposite : Direction → Direction
  | long => short
  | short => long

/-- The word for a direction. -/
def word : Direction → String
  | long => "LONG"
  | short => "SHORT"

instance : ToString Direction :=
  ⟨word⟩

/-- The direction that a word stands for, exactly as it is written. -/
def ofWord? (text : String) : Option Direction :=
  if text = "LONG" then some long
  else if text = "SHORT" then some short
  else none

/-- Reads the name of a direction, in any case and between blanks. -/
def read? (text : String) : Option Direction :=
  let name := Text.keyword text
  if name = "LONG" ∨ name = "BUY" then some long
  else if name = "SHORT" ∨ name = "SELL" then some short
  else none

@[simp]
theorem opposite_opposite
    (direction : Direction) :
    direction.opposite.opposite = direction := by
  cases direction <;> rfl

theorem ofWord?_word
    (direction : Direction) :
    ofWord? direction.word = some direction := by
  cases direction <;> rfl

theorem read?_word
    (direction : Direction) :
    read? direction.word = some direction := by
  cases direction <;> decide

end Direction

end MandateDesk
