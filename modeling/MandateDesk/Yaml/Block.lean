import MandateDesk.Text.Digits
import MandateDesk.Yaml.Cursor

/-!
# Scalars of whole lines

Behind a header a scalar may consist of the lines below that are indented far
enough. They are kept as they are, or folded: between two lines that do not
begin with a blank a single end of a line counts as a space, and of several
ones the first does not count.

The header says what becomes of the end of the last line and of empty lines
behind it, and may say how far the lines are indented. Otherwise the first
line with something in it does.
-/

namespace MandateDesk.Yaml

/-- What becomes of the ends of lines at the end of a scalar. -/
inductive Chomping where
  /-- None of them counts. -/
  | strip
  /-- The first one counts. -/
  | clip
  /-- All of them count. -/
  | keep
deriving DecidableEq

/-- What a header says. -/
structure BlockHeader where
  /-- What becomes of the ends of lines at the end. -/
  chomping : Chomping
  /-- How much further than what is around them the lines are indented. -/
  increment : Nat

/-- Takes a sign of a header. -/
def takeChomping (cursor : Cursor) : Chomping × Cursor :=
  if cursor.head = '+' then (.keep, cursor.step)
  else if cursor.head = '-' then (.strip, cursor.step)
  else (.clip, cursor)

/-- Takes a digit of a header, which must not be zero. -/
def takeIncrement (cursor : Cursor) : Option (Nat × Cursor) :=
  if cursor.head = '0' then none
  else if Text.isDigit cursor.head then
    some (Text.digitValue cursor.head, cursor.step)
  else some (0, cursor)

/-- Takes the sign and the digit of a header, in either order. -/
def takeHeader (cursor : Cursor) : Option (BlockHeader × Cursor) :=
  if Text.isDigit cursor.head then
    (takeIncrement cursor).map fun (increment, behind) =>
      let (chomping, left) := takeChomping behind
      (⟨chomping, increment⟩, left)
  else
    let (chomping, behind) := takeChomping cursor
    (takeIncrement behind).map fun (increment, left) =>
      (⟨chomping, increment⟩, left)

/-! ## Indentation -/

/-- Where the first line with something in it begins. -/
structure BlockStart where
  /-- The column where lines begin. -/
  column : Nat
  /-- Number of empty lines in front. -/
  breaks : Nat
  /-- The place itself. -/
  cursor : Cursor

/-- Goes over empty lines and spaces in front of the column of a scalar. -/
def skipIndent (column : Nat) : (fuel : Nat) → Nat → Cursor → BlockStart
  | 0, breaks, cursor => ⟨column, breaks, cursor⟩
  | fuel + 1, breaks, cursor =>
    let spaces := (cursor.rest.takeWhile (· == ' ')).length
    let behind := cursor.steps (min spaces (column - cursor.column))
    if isBreak behind.head then
      skipIndent column fuel (breaks + 1) behind.afterBreak
    else ⟨column, breaks, behind⟩

/-- Goes over empty lines and spaces, whose number tells the column. -/
def findIndent : (fuel : Nat) → (column : Nat) → Nat → Cursor → BlockStart
  | 0, column, breaks, cursor => ⟨column, breaks, cursor⟩
  | fuel + 1, column, breaks, cursor =>
    let behind := cursor.skipWhile (· == ' ')
    let widest := max column behind.column
    if isBreak behind.head then
      findIndent fuel widest (breaks + 1) behind.afterBreak
    else ⟨widest, breaks, behind⟩

/-- Where the lines of a scalar begin, within what is indented so far. -/
def BlockHeader.start (outer : Int) (header : BlockHeader) (cursor : Cursor) :
    BlockStart :=
  let fuel := cursor.rest.length + 1
  if header.increment = 0 then
    findIndent fuel (outer + 1).toNat 0 cursor
  else skipIndent ((max outer 0).toNat + header.increment) fuel 0 cursor

/-! ## Lines -/

/-- What has been read of a scalar. -/
structure BlockLines where
  /-- The lines, without the end of the last one. -/
  text : List Char
  /-- Whether the last line has an end. -/
  ended : Bool
  /-- Number of empty lines behind it. -/
  breaks : Nat
  /-- Where they end. -/
  cursor : Cursor

/-- What stands between two lines, where it may be folded. -/
def betweenLines (folded ended : Bool) (breaks : Nat) : List Char :=
  if folded && ended && breaks == 0 then [' ']
  else if folded && ended then List.replicate breaks '\n'
  else List.replicate (breaks + ended.toNat) '\n'

/-- Takes the lines that begin at a column. -/
def takeLines (isLiteral : Bool) (column : Nat) :
    (fuel : Nat) → (afterBlank ended : Bool) → Nat → Cursor → BlockLines
  | 0, _, ended, breaks, cursor => ⟨[], ended, breaks, cursor⟩
  | fuel + 1, afterBlank, ended, breaks, cursor =>
    if cursor.column ≠ column ∨ cursor.isDone = true ∨
        (column = 0 ∧ cursor.isAtMark = true) then
      ⟨[], ended, breaks, cursor⟩
    else
      let blank := isBlank cursor.head
      let between :=
        betweenLines (!isLiteral && !afterBlank && !blank) ended breaks
      let (line, behind) :=
        cursor.takeWhile fun character => !endsLine character
      if behind.isDone then ⟨between ++ line, false, 0, behind⟩
      else
        let next := skipIndent column fuel 0 behind.afterBreak
        let read :=
          takeLines isLiteral column fuel blank true next.breaks next.cursor
        { read with text := between ++ line ++ read.text }

/-- The text of lines with what counts of the ends of lines behind them. -/
def BlockLines.chomped (column : Nat) (chomping : Chomping)
    (lines : BlockLines) : List Char :=
  let isCut := lines.cursor.isDone && max column 1 ≤ lines.cursor.column
  match chomping with
  | .strip => lines.text
  | .clip =>
    lines.text ++ List.replicate (lines.ended.toNat + isCut.toNat) '\n'
  | .keep =>
    lines.text ++
      List.replicate (lines.ended.toNat + isCut.toNat + lines.breaks) '\n'

/-- The text of a scalar without lines, which ends its document. -/
def emptyBlock (chomping : Chomping) (breaks : Nat) : List Char :=
  match chomping with
  | .strip => []
  | .clip => ['\n']
  | .keep => List.replicate (max breaks 1) '\n'

/-- Takes a scalar of lines within what is indented so far. -/
def takeBlock (isLiteral : Bool) (outer : Int) (cursor : Cursor) :
    Option (List Char × Cursor) := do
  let (header, behind) ← takeHeader cursor.step
  let first := (← behind.atLineEnd?).afterBreak
  if first.head = '\t' then none
  else
    let start := header.start outer first
    if start.cursor.isDone then
      let text :=
        if start.cursor.line = cursor.line then []
        else emptyBlock header.chomping start.breaks
      return (text, start.cursor)
    else if start.cursor.column < start.column ∧
        outer < start.cursor.column then none
    else
      let lines :=
        takeLines isLiteral start.column (start.cursor.rest.length + 1) false
          false start.breaks start.cursor
      return (lines.chomped start.column header.chomping, lines.cursor)

example :
    (takeBlock false 0 (.ofText ">-\n  a\n  b\n\n".toList)).map Prod.fst =
      some "a b".toList := by
  decide +kernel

end MandateDesk.Yaml
