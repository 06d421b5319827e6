/-!
# Places in a text

A cursor is a place in a text, together with what is known of it: the line,
the column, and whether only blanks are in front of it on its line. A text
ends at its first null character, and so a null character stands for the end.

`step` goes over one character of a line and `afterBreak` over the end of a
line. `takeGap` goes over what may stand between the parts of a line.
-/

namespace MandateDesk.Yaml

/-! ## Characters -/

/-- What is found at the end of a text. -/
abbrev nothing : Char := '\x00'

/-- Whether a character separates the parts of a line. -/
def isBlank (character : Char) : Bool :=
  character == ' ' || character == '\t'

/-- Whether a character belongs to the end of a line. -/
def isBreak (character : Char) : Bool :=
  character == '\n' || character == '\r'

/-- Whether a line ends at a character. -/
def endsLine (character : Char) : Bool :=
  isBreak character || character == nothing

/-- Whether a word ends at a character. -/
def endsWord (character : Char) : Bool :=
  isBlank character || endsLine character

/-- Whether a character has a meaning of its own within brackets. -/
def isBracket (character : Char) : Bool :=
  ",[]\x7b\x7d".toList.contains character

/-! ## Cursors -/

/-- A place in a text. -/
structure Cursor where
  /-- The text behind the place. -/
  rest : List Char
  /-- Number of characters in front of it. -/
  index : Nat
  /-- Number of lines in front of its own. -/
  line : Nat
  /-- Number of characters in front of it on its line. -/
  column : Nat
  /-- Whether all of these are blanks. -/
  leading : Bool

namespace Cursor

/-- The beginning of a text. -/
def ofText (text : List Char) : Cursor :=
  ⟨text.takeWhile fun character => character != nothing, 0, 0, 0, true⟩

/-- The character at a place. -/
def head (cursor : Cursor) : Char :=
  cursor.rest.headD nothing

/-- The character behind the one at a place. -/
def next (cursor : Cursor) : Char :=
  (cursor.rest.drop 1).headD nothing

/-- Whether a place is the end of its text. -/
def isDone (cursor : Cursor) : Bool :=
  cursor.rest.isEmpty

/-- The place behind one character of a line. -/
def step (cursor : Cursor) : Cursor :=
  match cursor.rest with
  | [] => cursor
  | first :: rest =>
    ⟨rest, cursor.index + 1, cursor.line, cursor.column + 1,
      cursor.leading && isBlank first⟩

/-- The place behind some characters of a line. -/
def steps : (count : Nat) → Cursor → Cursor
  | 0, cursor => cursor
  | count + 1, cursor => steps count cursor.step

/-- The place behind the end of a line, if it is at one. -/
def afterBreak (cursor : Cursor) : Cursor :=
  match cursor.rest with
  | '\r' :: '\n' :: rest =>
    ⟨rest, cursor.index + 2, cursor.line + 1, 0, true⟩
  | first :: rest =>
    if isBreak first then ⟨rest, cursor.index + 1, cursor.line + 1, 0, true⟩
    else cursor
  | [] => cursor

/-- Takes the characters in front that satisfy a condition. -/
def takeWhile (condition : Char → Bool) (cursor : Cursor) :
    List Char × Cursor :=
  let taken := cursor.rest.takeWhile condition
  (taken, cursor.steps taken.length)

/-- The place behind the characters in front that satisfy a condition. -/
def skipWhile (condition : Char → Bool) (cursor : Cursor) : Cursor :=
  (cursor.takeWhile condition).2

/-- The end of a line. -/
def lineEnd (cursor : Cursor) : Cursor :=
  cursor.skipWhile fun character => !endsLine character

/-- Whether a mark of three characters stands alone at the start of a line. -/
def isAt (mark : String) (cursor : Cursor) : Bool :=
  cursor.column == 0 && mark.toList.isPrefixOf cursor.rest &&
    endsWord ((cursor.rest.drop 3).headD nothing)

/-- Whether a document begins or ends at a place. -/
def isAtMark (cursor : Cursor) : Bool :=
  cursor.isAt "---" || cursor.isAt "..."

/-- Takes blanks and a comment, which must have a blank in front of it. -/
def takeGap (cursor : Cursor) : Option (List Char × Cursor) :=
  let (blanks, behind) := cursor.takeWhile isBlank
  if behind.head = '#' then
    if blanks.isEmpty then none else some (blanks, behind.lineEnd)
  else some (blanks, behind)

/-- The place behind blanks and a comment. -/
def afterGap? (cursor : Cursor) : Option Cursor :=
  cursor.takeGap.map Prod.snd

/-- The end of a line that holds nothing else but blanks and a comment. -/
def atLineEnd? (cursor : Cursor) : Option Cursor :=
  cursor.afterGap?.filter fun behind => endsLine behind.head

@[simp]
theorem rest_step (cursor : Cursor) :
    cursor.step.rest = cursor.rest.drop 1 := by
  unfold step
  split <;> simp_all

/-- Going over characters drops them. -/
@[simp]
theorem rest_steps
    (count : Nat)
    (cursor : Cursor) :
    (cursor.steps count).rest = cursor.rest.drop count := by
  induction count generalizing cursor with
  | zero => rfl
  | succ count hypothesis => simp [steps, hypothesis]

/-- What is taken and what is left make up the text. -/
theorem takeWhile_append_rest
    (condition : Char → Bool)
    (cursor : Cursor) :
    (cursor.takeWhile condition).1 ++ (cursor.takeWhile condition).2.rest =
      cursor.rest := by
  have dropped (text : List Char) :
      text.drop (text.takeWhile condition).length =
        text.dropWhile condition := by
    induction text with
    | nil => rfl
    | cons first rest hypothesis =>
      by_cases taken : condition first = true
      · simpa [taken] using hypothesis
      · simp [taken]
  simp only [takeWhile, rest_steps]
  rw [dropped]
  exact List.takeWhile_append_dropWhile

end Cursor

example : ((Cursor.ofText "ab\r\nc".toList).steps 2).afterBreak.line = 1 := by
  decide

end MandateDesk.Yaml
