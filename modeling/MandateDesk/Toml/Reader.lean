import MandateDesk.Toml.Marked
import MandateDesk.Toml.Tree

/-!
# Reading documents

A document is a sequence of lines: the header of a table, the header of a
table in a list, a key with its value, or nothing, each with a comment behind
it if there is one. Values are texts, words, lists, which may go over lines,
and tables on one line. Values may be nested up to a depth.

Each reader takes a part from the front of a text and returns the rest.
-/

namespace MandateDesk.Toml

/-- Whether a character may stand between the parts of a line. -/
def isSpace (character : Char) : Bool :=
  character == ' ' || character == '\t'

/-- A text without the blanks in front of it. -/
def skipSpace (text : List Char) : List Char :=
  text.dropWhile isSpace

/-- Whether a character may stand in a comment or, with its marks, in a text. -/
def isPlain (character : Char) : Bool :=
  character == '\t' || (decide (32 ≤ character.toNat) && character != '\x7F')

/-- A text without the end of a line in front of it, if one is there. -/
def afterLineEnd? : List Char → Option (List Char)
  | '\n' :: rest => some rest
  | '\r' :: '\n' :: rest => some rest
  | _ => none

/-- A text without a comment in front of it. -/
def skipComment : List Char → List Char
  | '#' :: rest => rest.dropWhile isPlain
  | other => other

/-- A text without the rest of a line, which may hold a comment. -/
def afterLine? (text : List Char) : Option (List Char) :=
  match skipComment (skipSpace text) with
  | [] => some []
  | other => afterLineEnd? other

/-! ## Texts -/

/-- The character with a code point of hexadecimal digits. -/
def codePoint? (digits : List Char) : Option Char :=
  if digits.all (isDigitIn 16) then
    let number := valueIn 16 digits
    if number.isValidChar then some (Char.ofNat number) else none
  else none

/-- Takes what follows a backslash. -/
def takeEscape : List Char → Option (Char × List Char)
  | 'b' :: rest => some ('\x08', rest)
  | 't' :: rest => some ('\t', rest)
  | 'n' :: rest => some ('\n', rest)
  | 'f' :: rest => some ('\x0C', rest)
  | 'r' :: rest => some ('\r', rest)
  | '"' :: rest => some ('"', rest)
  | '\\' :: rest => some ('\\', rest)
  | 'u' :: rest =>
    if (rest.take 4).length = 4 then
      (codePoint? (rest.take 4)).map fun read => (read, rest.drop 4)
    else none
  | 'U' :: rest =>
    if (rest.take 8).length = 8 then
      (codePoint? (rest.take 8)).map fun read => (read, rest.drop 8)
    else none
  | _ => none

/-- Takes the rest of a text on one line. -/
def takeBasic : (fuel : Nat) → List Char → Option (List Char × List Char)
  | 0, _ => none
  | fuel + 1, text =>
    match text with
    | [] => none
    | '"' :: rest => some ([], rest)
    | '\\' :: rest => do
      let (character, rest) ← takeEscape rest
      let (read, left) ← takeBasic fuel rest
      return (character :: read, left)
    | first :: rest =>
      if isPlain first then do
        let (read, left) ← takeBasic fuel rest
        return (first :: read, left)
      else none

/-- Takes the rest of a text on one line without escapes. -/
def takeLiteral : List Char → Option (List Char × List Char)
  | [] => none
  | '\'' :: rest => some ([], rest)
  | first :: rest =>
    if isPlain first then do
      let (read, left) ← takeLiteral rest
      return (first :: read, left)
    else none

/-- A text without blanks and ends of lines in front of it. -/
def skipLines : (fuel : Nat) → List Char → List Char
  | 0, text => text
  | fuel + 1, text =>
    match text with
    | ' ' :: rest => skipLines fuel rest
    | '\t' :: rest => skipLines fuel rest
    | '\n' :: rest => skipLines fuel rest
    | '\r' :: '\n' :: rest => skipLines fuel rest
    | other => other

/-- Number of marks at the front of a text. -/
def runLength (mark : Char) (text : List Char) : Nat :=
  (text.takeWhile fun character => character == mark).length

/--
Takes the rest of a text over several lines, which ends with three marks in a
row; up to two more belong to the text.
-/
def takeLong
    (mark : Char)
    (hasEscapes : Bool) :
    (fuel : Nat) → List Char → Option (List Char × List Char)
  | 0, _ => none
  | fuel + 1, text =>
    let run := runLength mark text
    if 3 ≤ run then
      some (List.replicate (min run 5 - 3) mark, text.drop (min run 5))
    else
      match text with
      | [] => none
      | '\n' :: rest => do
        let (read, left) ← takeLong mark hasEscapes fuel rest
        return ('\n' :: read, left)
      | '\r' :: '\n' :: rest => do
        let (read, left) ← takeLong mark hasEscapes fuel rest
        return ('\n' :: read, left)
      | first :: rest =>
        if hasEscapes = true ∧ first = '\\' then
          match afterLineEnd? (skipSpace rest) with
          | some next => takeLong mark hasEscapes fuel (skipLines fuel next)
          | none => do
            let (character, rest) ← takeEscape rest
            let (read, left) ← takeLong mark hasEscapes fuel rest
            return (character :: read, left)
        else if isPlain first then do
          let (read, left) ← takeLong mark hasEscapes fuel rest
          return (first :: read, left)
        else none

/-- A text without the end of a line in front of it. -/
def skipLineEnd (text : List Char) : List Char :=
  (afterLineEnd? text).getD text

/-- Takes a text of any form. -/
def takeText : List Char → Option (List Char × List Char)
  | '"' :: '"' :: '"' :: rest =>
    takeLong '"' true (rest.length + 1) (skipLineEnd rest)
  | '"' :: rest => takeBasic (rest.length + 1) rest
  | '\'' :: '\'' :: '\'' :: rest =>
    takeLong '\'' false (rest.length + 1) (skipLineEnd rest)
  | '\'' :: rest => takeLiteral rest
  | _ => none

/-! ## Keys -/

/-- Whether a character may stand in a name without quotes. -/
def isBare (character : Char) : Bool :=
  Text.isDigit character || ('a' ≤ character && character ≤ 'z') ||
    ('A' ≤ character && character ≤ 'Z') || character == '_' ||
    character == '-'

/-- Takes a name. -/
def takeName : List Char → Option (String × List Char)
  | '"' :: rest =>
    (takeBasic (rest.length + 1) rest).map fun (read, left) =>
      (String.ofList read, left)
  | '\'' :: rest =>
    (takeLiteral rest).map fun (read, left) => (String.ofList read, left)
  | text =>
    let name := text.takeWhile isBare
    if name.isEmpty then none
    else some (String.ofList name, text.drop name.length)

/-- Takes names that are joined by dots, with blanks around each. -/
def takeKey : (fuel : Nat) → List Char → Option (List String × List Char)
  | 0, _ => none
  | fuel + 1, text => do
    let (name, rest) ← takeName (skipSpace text)
    match skipSpace rest with
    | '.' :: next =>
      let (names, left) ← takeKey fuel next
      return (name :: names, left)
    | left => return ([name], left)

/-- The number of names that a key may have. -/
def keyLimit : Nat := 79

/-- The number of levels that lists, tables and what is in them may have. -/
def depthLimit : Nat := 80

/-! ## Values -/

/-- Whether a character ends a word. -/
def endsWord (character : Char) : Bool :=
  isSpace character || character == '\n' || character == '\r' ||
    character == ',' || character == ']' || character == '\x7d' ||
    character == '#'

/-- Whether a word is a date behind which a time may follow after a blank. -/
def expectsTime (word rest : List Char) : Bool :=
  (takeDate word).any (fun taken => taken.2.isEmpty) &&
    rest.head? == some ' ' && (takeFixed 2 (rest.drop 1)).isSome

/-- Takes a word. -/
def takeWord (text : List Char) : List Char × List Char :=
  let word := text.takeWhile fun character => !endsWord character
  let rest := text.drop word.length
  if expectsTime word rest then
    let time := (rest.drop 1).takeWhile fun character => !endsWord character
    (word ++ ' ' :: time, rest.drop (1 + time.length))
  else (word, rest)

/-- A text without blanks, ends of lines and comments in front of it. -/
def skipGaps : (fuel : Nat) → List Char → List Char
  | 0, text => text
  | fuel + 1, text =>
    match skipSpace text with
    | '#' :: rest =>
      match afterLineEnd? (rest.dropWhile isPlain) with
      | some next => skipGaps fuel next
      | none => '#' :: rest
    | other =>
      match afterLineEnd? other with
      | some next => skipGaps fuel next
      | none => other

/-- Takes the rest of a list. -/
def takeItems
    (takeOne : List Char → Option (Json × List Char)) :
    (fuel : Nat) → List Char → Option (List Json × List Char)
  | 0, _ => none
  | fuel + 1, text =>
    match skipGaps fuel text with
    | ']' :: left => some ([], left)
    | other => do
      let (item, rest) ← takeOne other
      match skipGaps fuel rest with
      | ']' :: left => return ([item], left)
      | ',' :: next =>
        let (items, left) ← takeItems takeOne fuel next
        return (item :: items, left)
      | _ => none

/-- Takes the rest of a table on one line whose next key is still to come. -/
def takePairs
    (takeOne : List Char → Option (Json × List Char)) :
    (fuel : Nat) → Entries → List Char → Option (Entries × List Char)
  | 0, _, _ => none
  | fuel + 1, entries, text => do
    let (key, rest) ← takeKey keyLimit text
    match rest with
    | '=' :: rest =>
      let (value, rest) ← takeOne (skipSpace rest)
      let entries ← assignedIn key value .headed entries
      match skipSpace rest with
      | '\x7d' :: left => return (entries, left)
      | ',' :: next => takePairs takeOne fuel entries next
      | _ => none
    | _ => none

/-- Takes a value that is nested less deeply than a depth. -/
def takeValue : (depth : Nat) → List Char → Option (Json × List Char)
  | 0, _ => none
  | depth + 1, text =>
    match text with
    | '[' :: rest =>
      if depth = 0 then none
      else
        (takeItems (takeValue depth) (rest.length + 1) rest).map
          fun (items, left) => (.array items, left)
    | '\x7b' :: rest =>
      if depth = 0 then none
      else
        match skipSpace rest with
        | '\x7d' :: left => some (.object [], left)
        | other =>
          (takePairs (takeValue depth) (other.length + 1) [] other).map
            fun (entries, left) => (.object (entriesToJson entries), left)
    | '"' :: _ =>
      (takeText text).map fun (read, left) =>
        (.string (String.ofList read), left)
    | '\'' :: _ =>
      (takeText text).map fun (read, left) =>
        (.string (String.ofList read), left)
    | other =>
      let (word, left) := takeWord other
      (readScalar word).map fun value => (value, left)

/-! ## Documents -/

/-- How far a document is read. -/
structure Progress where
  /-- The tree so far. -/
  entries : Entries
  /-- The path of the last header. -/
  header : List String

/-- Takes the header of a table, behind its bracket. -/
def takeHeader
    (progress : Progress)
    (text : List Char) :
    Option (Progress × List Char) := do
  let (path, rest) ← takeKey keyLimit text
  match rest with
  | ']' :: left => return (⟨← opened path progress.entries, path⟩, left)
  | _ => none

/-- Takes the header of a table in a list, behind its brackets. -/
def takeListHeader
    (progress : Progress)
    (text : List Char) :
    Option (Progress × List Char) := do
  let (path, rest) ← takeKey keyLimit text
  match rest with
  | ']' :: ']' :: left =>
    return (⟨← appended path progress.entries, path⟩, left)
  | _ => none

/-- Takes a key with its value. -/
def takePair
    (progress : Progress)
    (text : List Char) :
    Option (Progress × List Char) := do
  let (key, rest) ← takeKey keyLimit text
  match rest with
  | '=' :: rest =>
    let (value, left) ← takeValue depthLimit (skipSpace rest)
    let entries ← assigned progress.header key value progress.entries
    return (⟨entries, progress.header⟩, left)
  | _ => none

/-- Takes what a line holds. -/
def takeStatement
    (progress : Progress)
    (text : List Char) :
    Option (Progress × List Char) :=
  match text with
  | [] => some (progress, [])
  | '[' :: '[' :: rest => takeListHeader progress rest
  | '[' :: rest => takeHeader progress rest
  | first :: _ =>
    if first = '#' ∨ first = '\n' ∨ first = '\r' then some (progress, text)
    else takePair progress text

/-- Reads lines up to the end of a text. -/
def readLines : (fuel : Nat) → Progress → List Char → Option Progress
  | 0, _, _ => none
  | fuel + 1, progress, text =>
    match text with
    | [] => some progress
    | _ => do
      let (next, rest) ← takeStatement progress (skipSpace text)
      readLines fuel next (← afterLine? rest)

/-- A text without the mark that may stand in front of a document. -/
def skipByteOrder : List Char → List Char
  | '\uFEFF' :: rest => rest
  | other => other

/-- Reads a document, as the fields of its outermost table. -/
def readCharacters (text : List Char) : Option (List (String × Json)) :=
  let text := skipByteOrder text
  (readLines (text.length + 1) ⟨[], []⟩ text).bind fun progress =>
    resolvedTable? (entriesToJson progress.entries)

/-- Reads a document, as the fields of its outermost table. -/
def read? (text : String) : Option (List (String × Json)) :=
  readCharacters text.toList

end MandateDesk.Toml
