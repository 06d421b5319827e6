import MandateDesk.Text.Digits

/-!
# Writing documents

A text is written in the plainest form that holds it: between double quotes
without escapes, then between single quotes, then over several lines, and only
else with escapes. `form` chooses between the forms by what occurs in a text.

A document is a sequence of tables, each with its header, with an empty line
between them. Integers of more than 63 bits cannot be written.
-/

namespace MandateDesk.Toml

/-- How a text is written. -/
inductive Form where
  /-- Between double quotes. -/
  | basic
  /-- Between single quotes, without escapes. -/
  | literal
  /-- Between three double quotes, over several lines. -/
  | longBasic
  /-- Between three single quotes, over several lines, without escapes. -/
  | longLiteral
deriving DecidableEq

/-- The longest run of a mark in a text, after a run of a given length. -/
def longestRun (mark : Char) (run : Nat) : List Char → Nat
  | [] => run
  | first :: rest =>
    if first = mark then longestRun mark (run + 1) rest
    else max run (longestRun mark 0 rest)

/-- Whether a character can only be written as an escape. -/
def needsEscape (character : Char) : Bool :=
  (decide (character.toNat < 32) && character != '\t' && character != '\n') ||
    character == '\x7F'

/-- The form that a text is written in. -/
def form (text : List Char) : Form :=
  let escapes := text.any needsEscape
  let backslash := text.contains '\\'
  let lines := text.contains '\n'
  let double := longestRun '"' 0 text
  let single := longestRun '\'' 0 text
  if !escapes && !backslash && double == 0 && !lines then .basic
  else if !escapes && single == 0 && !lines then .literal
  else if !escapes && !backslash && double ≤ 2 then .longBasic
  else if !escapes && single ≤ 2 then .longLiteral
  else if lines then .longBasic
  else .basic

/-- A digit in upper-case hexadecimal. -/
def upperHexDigit (digit : Nat) : Char :=
  (Nat.digitChar digit).toUpper

/-- A character between double quotes, other than a quote. -/
def escapedCharacter (isLong : Bool) (character : Char) : List Char :=
  if character = '\\' then ['\\', '\\']
  else if character = '\x08' then ['\\', 'b']
  else if character = '\t' then ['\\', 't']
  else if character = '\n' then (if isLong then ['\n'] else ['\\', 'n'])
  else if character = '\x0C' then ['\\', 'f']
  else if character = '\r' then ['\\', 'r']
  else if needsEscape character then
    ['\\', 'u', '0', '0', upperHexDigit (character.toNat / 16),
      upperHexDigit (character.toNat % 16)]
  else [character]

/--
The characters between double quotes, after a number of quotes in a row. On
one line each quote is escaped, over several lines every third one.
-/
def basicCharacters (isLong : Bool) (run : Nat) : List Char → List Char
  | [] => []
  | '"' :: rest =>
    if run + 1 ≤ (if isLong then 2 else 0) then
      '"' :: basicCharacters isLong (run + 1) rest
    else '\\' :: '"' :: basicCharacters isLong 0 rest
  | first :: rest =>
    escapedCharacter isLong first ++ basicCharacters isLong 0 rest

/-- The end of a line in front of a text that goes over lines. -/
def leadingLine (text : List Char) : List Char :=
  if text.contains '\n' then ['\n'] else []

/-- A text in a form. -/
def inForm (text : List Char) : Form → List Char
  | .basic => '"' :: basicCharacters false 0 text ++ ['"']
  | .literal => '\'' :: text ++ ['\'']
  | .longBasic =>
    ['"', '"', '"'] ++ leadingLine text ++ basicCharacters true 0 text ++
      ['"', '"', '"']
  | .longLiteral =>
    ['\'', '\'', '\''] ++ leadingLine text ++ text ++ ['\'', '\'', '\'']

/-- A written text. -/
def writtenText (text : String) : String :=
  String.ofList (inForm text.toList (form text.toList))

/-- A written integer, if it can be written. -/
def writtenNumber? (number : Nat) : Option String :=
  if number < Text.bound63 then some (Text.decimalText number) else none

/-- A written truth value. -/
def writtenBoolean (value : Bool) : String :=
  if value then "true" else "false"

/-- A line with a name and its written value. -/
def line (name value : String) : String :=
  name ++ " = " ++ value ++ "\n"

/-- A table with its header. -/
def table (name : String) (lines : List (String × String)) : String :=
  "[" ++ name ++ "]\n" ++
    String.join (lines.map fun entry => line entry.1 entry.2)

/-- A document of tables. -/
def document (tables : List String) : String :=
  String.intercalate "\n" tables

example : form "plain".toList = .basic := by decide
example : form "a\\b".toList = .literal := by decide
example : form "tab\tand 'quote'".toList = .basic := by decide
example : form "1 \"2\"\n".toList = .longBasic := by decide

end MandateDesk.Toml
