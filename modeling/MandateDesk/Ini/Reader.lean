import MandateDesk.Json.Value
import MandateDesk.Text.Blank
import MandateDesk.Text.Digits

/-!
# Reading documents of sections

A document is a sequence of sections, each with a name in brackets in front of
it; what stands in front of the first name belongs to the document itself. A
section holds keys with their values, which are texts. A comment starts a
line.

A key ends at the first sign of equality or colon, on whatever line, and a
value at the end of its line. The beginning of a value may be quoted. A
backslash stands in front of a character that means something else.
-/

namespace MandateDesk.Ini

/-- A part of a document. -/
structure Section where
  /-- The name, which the part in front of all names does not have. -/
  name : Option String
  /-- The keys with their values, in written order. -/
  entries : List (String × String)

/-- The character that a letter behind a backslash stands for. -/
def escaped (letter : Char) : Char :=
  if letter = '0' then '\x00'
  else if letter = 'a' then '\x07'
  else if letter = 'b' then '\x08'
  else if letter = 't' then '\t'
  else if letter = 'r' then '\r'
  else if letter = 'n' then '\n'
  else letter

/-- The digits of a code of four characters, which may begin with a plus. -/
def codeDigits (a b c d : Char) : List Char :=
  if a = '+' then [b, c, d] else [a, b, c, d]

/-- The character with a code of four characters. -/
def codePoint? (a b c d : Char) : Option Char := do
  let digits ← (codeDigits a b c d).mapM Text.hexDigit?
  let number := digits.foldl (fun known digit => 16 * known + digit) 0
  if number.isValidChar then some (Char.ofNat number) else none

/--
Takes characters up to one that ends them. Where the text may end as well,
the end of the document does the same.
-/
def takeUntil (isEnd : Char → Bool) (mayEnd : Bool) :
    List Char → Option (List Char × List Char)
  | [] => if mayEnd then some ([], []) else none
  | '\\' :: '\n' :: rest => takeUntil isEnd mayEnd rest
  | '\\' :: 'x' :: a :: b :: c :: d :: rest => do
    let character ← codePoint? a b c d
    let (read, left) ← takeUntil isEnd mayEnd rest
    return (character :: read, left)
  | '\\' :: letter :: rest =>
    if letter = 'x' then none
    else do
      let (read, left) ← takeUntil isEnd mayEnd rest
      return (escaped letter :: read, left)
  | first :: rest =>
    if isEnd first then some ([], first :: rest)
    else if first = '\\' then none
    else do
      let (read, left) ← takeUntil isEnd mayEnd rest
      return (first :: read, left)

/-- A text between blanks. -/
def trimmed (text : List Char) : String :=
  String.ofList (Text.trim text)

/-- Whether a character ends a line. -/
def isLineEnd (character : Char) : Bool :=
  character == '\n' || character == '\r'

/-- Takes what stands between quotes in front of a text, if there are any. -/
def takeQuoted : List Char → Option (List Char × List Char)
  | '"' :: rest =>
    (takeUntil (· == '"') false rest).map fun (read, left) =>
      (read, left.drop 1)
  | '\'' :: rest =>
    (takeUntil (· == '\'') false rest).map fun (read, left) =>
      (read, left.drop 1)
  | other => some ([], other)

/-- Takes a value. -/
def takeValue (text : List Char) : Option (String × List Char) := do
  let written := text.dropWhile fun character =>
    Text.isBlank character && !isLineEnd character
  let (quoted, rest) ← takeQuoted written
  let (plain, left) ← takeUntil isLineEnd true rest
  return (trimmed (quoted ++ plain), left)

/-- Whether a character ends a key. -/
def isKeyEnd (character : Char) : Bool :=
  character == '=' || character == ':'

/-- Takes a key with its value. -/
def takeEntry (text : List Char) : Option ((String × String) × List Char) := do
  let (key, rest) ← takeUntil isKeyEnd false text
  let (value, left) ← takeValue (rest.drop 1)
  if (trimmed key).isEmpty then none else return ((trimmed key, value), left)

/-- A text without blanks in front of it, and whether it starts a line. -/
def skipBlanks (startsLine : Bool) : List Char → List Char × Bool
  | [] => ([], startsLine)
  | first :: rest =>
    if Text.isBlank first then skipBlanks (first == '\n') rest
    else (first :: rest, startsLine)

/-- A text without the rest of a line. -/
def afterLine (text : List Char) : List Char :=
  (text.dropWhile fun character => character != '\n').drop 1

/-- Reads a document behind the beginning of a section. -/
def readSections :
    (fuel : Nat) → Section → Bool → List Char → Option (List Section)
  | 0, _, _, _ => none
  | fuel + 1, current, startsLine, text =>
    match skipBlanks startsLine text with
    | ([], _) => some [current]
    | ('[' :: rest, _) => do
      let (name, rest) ← takeUntil (· == ']') false rest
      let following := ⟨some (trimmed name), []⟩
      return current :: (← readSections fuel following false (rest.drop 1))
    | (first :: rest, startsLine) =>
      if first = ';' ∨ first = '#' then
        if startsLine then readSections fuel current true (afterLine rest)
        else none
      else do
        let (entry, left) ← takeEntry (first :: rest)
        readSections fuel
          { current with entries := current.entries ++ [entry] } false left

/-- Keys with their values. -/
def Section.texts (part : Section) : List (String × Json) :=
  part.entries.map fun entry => (entry.1, .string entry.2)

/-- What a section adds to the document. -/
def Section.fields (part : Section) : List (String × Json) :=
  match part.name with
  | none => part.texts
  | some name => [(name, .object part.texts)]

/-- Reads a document, in which names may be repeated. -/
def read? (text : String) : Option (List (String × Json)) :=
  (readSections (text.length + 1) ⟨none, []⟩ true text.toList).map fun parts =>
    parts.flatMap Section.fields

end MandateDesk.Ini
