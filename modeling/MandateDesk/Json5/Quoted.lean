import MandateDesk.Json.Reader
import MandateDesk.Text.Gap

/-!
# Texts between quotes

A text stands between quotes of either kind. A backslash at the end of a line
lets the text go on in the next one; in front of other characters it names a
character, by a letter or by hexadecimal digits.

A code of four digits may be one half of a pair. The two halves count as ten
bits each, and the bits above the lower ten are those of the first half or
those of `0x10000`, whichever are set.
-/

namespace MandateDesk.Json5

/-! ## Codes of four digits -/

/-- Takes a number of four hexadecimal digits. -/
def takeUnit : List Char → Option (Nat × List Char)
  | a :: b :: c :: d :: rest =>
    (Json.hexWord? a b c d).map fun number => (number, rest)
  | _ => none

/-- The character that a pair of halves names. -/
def pairedCharacter (upper lower : Nat) : Char :=
  Char.ofNat ((upper - 0xD800) * 0x400 ||| (lower - 0xDC00 + 0x10000))

/-- Takes the second half of a pair. -/
def takeLower : List Char → Option (Nat × List Char)
  | '\\' :: 'u' :: rest =>
    (takeUnit rest).filter fun taken => Json.isLowerHalf taken.1
  | _ => none

/-- Takes a character of one code or, with something between them, of two. -/
def takeCode
    (afterBetween : List Char → List Char)
    (text : List Char) :
    Option (Char × List Char) := do
  let (number, rest) ← takeUnit text
  if Json.isUpperHalf number then
    let (other, left) ← takeLower (afterBetween rest)
    return (pairedCharacter number other, left)
  else if Json.isLowerHalf number then none
  else return (Char.ofNat number, rest)

/-! ## Texts -/

/-- A text without the ends of lines in front of it that do not count. -/
def afterContinuations : List Char → List Char
  | '\\' :: '\r' :: '\n' :: rest => afterContinuations rest
  | '\\' :: letter :: rest =>
    if Text.isLineEnd letter then afterContinuations rest
    else '\\' :: letter :: rest
  | other => other

/-- The character that a character behind a backslash stands for. -/
def escaped? (character : Char) : Option Char :=
  if character = 'b' then some '\x08'
  else if character = 'f' then some '\x0C'
  else if character = 'n' then some '\n'
  else if character = 'r' then some '\r'
  else if character = 't' then some '\t'
  else if character = 'v' then some '\x0B'
  else if character = '0' then some '\x00'
  else if Text.isDigit character then none
  else some character

/-- Takes what follows a backslash that names a character. -/
def takeEscape : List Char → Option (Char × List Char)
  | 'u' :: rest => takeCode afterContinuations rest
  | 'x' :: a :: b :: rest =>
    (Json.hexWord? '0' '0' a b).map fun number => (Char.ofNat number, rest)
  | letter :: rest =>
    if letter = 'x' then none
    else (escaped? letter).map fun character => (character, rest)
  | [] => none

/-- Takes the rest of a text value, up to the quote that it began with. -/
def takeString (quote : Char) :
    (fuel : Nat) → List Char → Option (List Char × List Char)
  | 0, _ => none
  | fuel + 1, text =>
    match afterContinuations text with
    | [] => none
    | '\\' :: rest => do
      let (character, rest) ← takeEscape rest
      let (read, left) ← takeString quote fuel rest
      return (character :: read, left)
    | first :: rest =>
      if first = quote then some ([], rest)
      else if Text.isLineEnd first then none
      else do
        let (read, left) ← takeString quote fuel rest
        return (first :: read, left)

/-- Takes a text between quotes, if one of them is in front. -/
def takeQuoted : List Char → Option (String × List Char)
  | [] => none
  | quote :: rest =>
    if quote = '"' ∨ quote = '\'' then
      (takeString quote (rest.length + 1) rest).map fun (read, left) =>
        (String.ofList read, left)
    else none

end MandateDesk.Json5
