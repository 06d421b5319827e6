import MandateDesk.Yaml.Cursor

/-!
# Line ends within scalars

A scalar may go over lines, and what is between two of its words is either
blanks or ends of lines. Blanks are kept. A single end of a line counts as a
space; of several ones the first does not count. Blanks around them do not
count, either.
-/

namespace MandateDesk.Yaml

/-- What stands between two words of a scalar. -/
structure Fold where
  /-- Blanks on the line of the first word. -/
  blanks : List Char
  /-- Whether that line ends in between. -/
  broken : Bool
  /-- Number of other ends of lines. -/
  others : Nat

namespace Fold

/-- Nothing between two words. -/
def empty : Fold :=
  ⟨[], false, 0⟩

/-- What ends of lines between two words stand for. -/
def breaks (broken : Bool) (others : Nat) : List Char :=
  if broken && others == 0 then [' '] else List.replicate others '\n'

/-- What stands for a fold in front of the word at a place. -/
def text (cursor : Cursor) (fold : Fold) : List Char :=
  if cursor.leading then breaks fold.broken fold.others else fold.blanks

/-- A fold with a further end of a line at a place. -/
def withBreak (cursor : Cursor) (fold : Fold) : Fold :=
  if cursor.leading then { fold with others := fold.others + 1 }
  else { fold with blanks := [], broken := true }

/-- A fold with a further blank. -/
def withBlank (blank : Char) (fold : Fold) : Fold :=
  { fold with blanks := fold.blanks ++ [blank] }

/--
Takes what is left of a fold. A tab among the blanks at the start of a line is
gone over by `overTab`, if it may stand there.
-/
def take (overTab : Cursor → Option Cursor) :
    (fuel : Nat) → Fold → Cursor → Option (Fold × Cursor)
  | 0, _, _ => none
  | fuel + 1, fold, cursor =>
    let first := cursor.head
    if isBreak first then
      take overTab fuel (fold.withBreak cursor) cursor.afterBreak
    else if !isBlank first then some (fold, cursor)
    else if !cursor.leading then
      take overTab fuel (fold.withBlank first) cursor.step
    else if first = '\t' then do
      take overTab fuel fold (← overTab cursor)
    else take overTab fuel fold cursor.step

end Fold

example : Fold.breaks true 0 = [' '] ∧ Fold.breaks true 1 = ['\n'] := by
  decide

end MandateDesk.Yaml
