import MandateDesk.Text.Digits

/-!
# Texts between quotes

A text stands between double quotes, where a backslash names characters, or
behind a letter `r`, where it does not; number signs in front of such a text
stand behind its closing quote again. A single character stands between single
quotes and is a text, too.
-/

namespace MandateDesk.Ron

/-- The number that hexadecimal digits stand for, if there are some. -/
def hexadecimal? (digits : List Char) : Option Nat := do
  let values ← digits.mapM Text.hexDigit?
  if digits.isEmpty then none
  else return values.foldl (fun known digit => 16 * known + digit) 0

/-- The character with a code point of hexadecimal digits. -/
def codePoint? (digits : List Char) : Option Char := do
  let number ← hexadecimal? digits
  if number.isValidChar then some (Char.ofNat number) else none

/-- The character that a letter behind a backslash stands for. -/
def escaped? (letter : Char) : Option Char :=
  [('\'', '\''), ('"', '"'), ('\\', '\\'), ('n', '\n'), ('r', '\r'),
    ('t', '\t'), ('0', '\x00')].lookup letter

/-- Takes what follows a backslash. -/
def takeEscape : List Char → Option (Char × List Char)
  | 'x' :: a :: b :: rest =>
    (codePoint? [a, b]).map fun read => (read, rest)
  | 'u' :: '\x7b' :: rest =>
    let digits := rest.takeWhile fun character => character != '\x7d'
    if digits.length ≤ 6 ∧ digits.length < rest.length then
      (codePoint? digits).map fun read => (read, rest.drop (digits.length + 1))
    else none
  | letter :: rest => (escaped? letter).map fun read => (read, rest)
  | [] => none

/-- Takes the rest of a text value. -/
def takeString : (fuel : Nat) → List Char → Option (List Char × List Char)
  | 0, _ => none
  | fuel + 1, text =>
    match text with
    | [] => none
    | '"' :: rest => some ([], rest)
    | '\\' :: rest => do
      let (character, rest) ← takeEscape rest
      let (read, left) ← takeString fuel rest
      return (character :: read, left)
    | first :: rest => do
      let (read, left) ← takeString fuel rest
      return (first :: read, left)

/-- Takes the rest of a single character. -/
def takeCharacter (text : List Char) : Option (Char × List Char) := do
  let (character, rest) ←
    match text with
    | '\\' :: rest => takeEscape rest
    | first :: rest => if first = '\'' then none else some (first, rest)
    | [] => none
  match rest with
  | '\'' :: left => some (character, left)
  | _ => none

/-- Takes a text as it is, up to an ending that is not part of it. -/
def takeUntil (ending : List Char) :
    List Char → Option (List Char × List Char)
  | [] => none
  | first :: rest =>
    if ending.isPrefixOf (first :: rest) then
      some ([], (first :: rest).drop ending.length)
    else
      (takeUntil ending rest).map fun (read, left) => (first :: read, left)

/-- Takes the rest of a text in which a backslash has no meaning. -/
def takeRaw (text : List Char) : Option (List Char × List Char) :=
  let signs := text.takeWhile fun character => character == '#'
  match text.drop signs.length with
  | '"' :: rest => takeUntil ('"' :: signs) rest
  | _ => none

/-- Takes a text. -/
def takeText : List Char → Option (String × List Char)
  | '"' :: rest =>
    (takeString (rest.length + 1) rest).map fun (read, left) =>
      (String.ofList read, left)
  | 'r' :: rest =>
    (takeRaw rest).map fun (read, left) => (String.ofList read, left)
  | '\'' :: rest =>
    (takeCharacter rest).map fun (read, left) =>
      (String.ofList [read], left)
  | _ => none

example : takeText "r#\"a\\\"#,".toList = some ("a\\", [',']) := by
  decide +kernel

end MandateDesk.Ron
