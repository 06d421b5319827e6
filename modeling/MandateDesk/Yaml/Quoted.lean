import MandateDesk.Text.Digits
import MandateDesk.Yaml.Folding

/-!
# Scalars between quotes

Between double quotes a backslash names a character, or lets the text go on in
the next line; between single quotes two of them stand for one. The scalar may
go over lines, which must be indented as far as what is around it.
-/

namespace MandateDesk.Yaml

/-! ## Characters behind a backslash -/

/-- The character that a letter behind a backslash stands for. -/
def escaped? (letter : Char) : Option Char :=
  [('0', '\x00'), ('a', '\x07'), ('b', '\x08'), ('t', '\t'), ('\t', '\t'),
    ('n', '\n'), ('v', '\x0B'), ('f', '\x0C'), ('r', '\r'), ('e', '\x1B'),
    (' ', ' '), ('"', '"'), ('/', '/'), ('\\', '\\'), ('N', '\x85'),
    ('_', '\xA0'), ('L', '\u2028'), ('P', '\u2029')].lookup letter

/-- The number of hexadecimal digits behind a letter that asks for some. -/
def escapeWidth? (letter : Char) : Option Nat :=
  [('x', 2), ('u', 4), ('U', 8)].lookup letter

/-- The character with a code point of hexadecimal digits. -/
def codePoint? (width : Nat) (text : List Char) : Option Char := do
  let digits ← (text.take width).mapM Text.hexDigit?
  let number := digits.foldl (fun known digit => 16 * known + digit) 0
  if digits.length = width ∧ number.isValidChar then
    some (Char.ofNat number)
  else none

/-- Takes a backslash with the name of a character. -/
def takeEscape (cursor : Cursor) : Option (Char × Cursor) :=
  let behind := cursor.steps 2
  match escapeWidth? cursor.next with
  | none => (escaped? cursor.next).map fun character => (character, behind)
  | some width =>
    (codePoint? width behind.rest).map fun character =>
      (character, behind.steps width)

/-! ## Words -/

/-- A word and where it ends. -/
abbrev Word := List Char × Cursor

/-- Takes a word between single quotes. -/
def takeSingleWord : (fuel : Nat) → Cursor → Option Word
  | 0, _ => none
  | fuel + 1, cursor =>
    let first := cursor.head
    if endsWord first then some ([], cursor)
    else if first != '\'' then
      (takeSingleWord fuel cursor.step).map fun (read, left) =>
        (first :: read, left)
    else if cursor.next = '\'' then
      (takeSingleWord fuel (cursor.steps 2)).map fun (read, left) =>
        ('\'' :: read, left)
    else some ([], cursor)

/--
Takes a word between double quotes. It also ends behind the end of a line with
a backslash in front of it.
-/
def takeDoubleWord : (fuel : Nat) → Cursor → Option Word
  | 0, _ => none
  | fuel + 1, cursor =>
    let first := cursor.head
    if endsWord first || first == '"' then some ([], cursor)
    else if first != '\\' then
      (takeDoubleWord fuel cursor.step).map fun (read, left) =>
        (first :: read, left)
    else if isBreak cursor.next then some ([], cursor.step.afterBreak)
    else do
      let (character, behind) ← takeEscape cursor
      let (read, left) ← takeDoubleWord fuel behind
      return (character :: read, left)

/-! ## Scalars -/

/-- The place behind a tab at the start of a line that is indented. -/
def overQuotedTab (indent : Int) (cursor : Cursor) : Option Cursor :=
  if (cursor.column : Int) < indent then none else some cursor.step

/-- Takes the rest of a scalar, up to the quote that it began with. -/
def takeQuoted (quote : Char) (indent : Int) :
    (fuel : Nat) → Cursor → Option (List Char × Cursor)
  | 0, _ => none
  | fuel + 1, cursor =>
    if cursor.isAtMark || cursor.isDone || (cursor.column : Int) < indent then
      none
    else do
      let length := cursor.rest.length + 1
      let (word, behind) ←
        if quote = '"' then takeDoubleWord length cursor
        else takeSingleWord length cursor
      if behind.head = quote then return (word, behind.step)
      else
        let (fold, next) ←
          Fold.take (overQuotedTab indent) length .empty behind
        let (read, left) ← takeQuoted quote indent fuel next
        return (word ++ fold.text next ++ read, left)

example :
    (takeQuoted '"' 0 9 (.ofText "a\n b\"".toList)).map Prod.fst =
      some "a b".toList := by
  decide +kernel

end MandateDesk.Yaml
