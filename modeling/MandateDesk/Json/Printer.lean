import MandateDesk.Binary64.Shortest
import MandateDesk.Json.Value
import MandateDesk.Text.Quoted

/-!
# The text of a JSON value

A value is written either on one line without blanks, or with each item and
each field on a line of its own, indented by two blanks for each level; empty
lists and objects stay on one line. In texts only quotes, backslashes and
control characters are escaped.
-/

namespace MandateDesk.Json

/-- One character of a text. -/
def escapedCharacter (character : Char) : List Char :=
  if character = '"' then ['\\', '"']
  else if character = '\\' then ['\\', '\\']
  else if character = '\n' then ['\\', 'n']
  else if character = '\r' then ['\\', 'r']
  else if character = '\t' then ['\\', 't']
  else if character = '\x08' then ['\\', 'b']
  else if character = '\x0C' then ['\\', 'f']
  else if character.toNat < 32 then
    ['\\', 'u', '0', '0', Nat.digitChar (character.toNat / 16),
      Nat.digitChar (character.toNat % 16)]
  else [character]

/-- A text between quotes. -/
def stringCharacters (text : String) : List Char :=
  '"' :: text.toList.flatMap escapedCharacter ++ ['"']

/-- A floating-point number; what is not finite is written as `null`. -/
def floatCharacters (number : Binary64) : List Char :=
  if number.isFinite then
    let written := number.text.toList
    if written.contains '.' then written else written ++ ['.', '0']
  else "null".toList

mutual

/-- A value on one line. -/
def compactCharacters : Json → List Char
  | null => "null".toList
  | boolean value => (if value then "true" else "false").toList
  | integer value => (Text.integerText value).toList
  | float value => floatCharacters value
  | string value => stringCharacters value
  | array items => '[' :: compactItems items ++ [']']
  | object fields => '\x7b' :: compactFields fields ++ ['\x7d']

/-- Items of a list on one line. -/
def compactItems : List Json → List Char
  | [] => []
  | [item] => compactCharacters item
  | item :: rest => compactCharacters item ++ ',' :: compactItems rest

/-- Fields of an object on one line. -/
def compactFields : List (String × Json) → List Char
  | [] => []
  | [(name, value)] =>
    stringCharacters name ++ ':' :: compactCharacters value
  | (name, value) :: rest =>
    stringCharacters name ++ ':' :: compactCharacters value ++
      ',' :: compactFields rest

end

/-- The beginning of a line of a level. -/
def newLine (level : Nat) : List Char :=
  '\n' :: List.replicate (2 * level) ' '

mutual

/-- A value on lines of a level. -/
def indentedCharacters (level : Nat) : Json → List Char
  | null => "null".toList
  | boolean value => (if value then "true" else "false").toList
  | integer value => (Text.integerText value).toList
  | float value => floatCharacters value
  | string value => stringCharacters value
  | array [] => ['[', ']']
  | array (first :: rest) =>
    '[' :: indentedItems (level + 1) (first :: rest) ++ newLine level ++ [']']
  | object [] => ['\x7b', '\x7d']
  | object (first :: rest) =>
    '\x7b' :: indentedFields (level + 1) (first :: rest) ++ newLine level ++
      ['\x7d']

/-- Items of a list, each on a line of its own. -/
def indentedItems (level : Nat) : List Json → List Char
  | [] => []
  | [item] => newLine level ++ indentedCharacters level item
  | item :: rest =>
    newLine level ++ indentedCharacters level item ++
      ',' :: indentedItems level rest

/-- Fields of an object, each on a line of its own. -/
def indentedFields (level : Nat) : List (String × Json) → List Char
  | [] => []
  | [(name, value)] =>
    newLine level ++ stringCharacters name ++
      ':' :: ' ' :: indentedCharacters level value
  | (name, value) :: rest =>
    newLine level ++ stringCharacters name ++
      ':' :: ' ' :: indentedCharacters level value ++
      ',' :: indentedFields level rest

end

/-- A value on one line. -/
def compact (value : Json) : String :=
  String.ofList value.compactCharacters

/-- A value on indented lines. -/
def indented (value : Json) : String :=
  String.ofList (indentedCharacters 0 value)

end MandateDesk.Json
