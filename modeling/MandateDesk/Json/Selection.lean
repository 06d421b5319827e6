import MandateDesk.Json.Skipping

/-!
# Selected fields

A list of records may hold more than is asked for. `readRecords` reads such a
list from a text: of an object only the fields with given names are read, and
all others are skipped; any other item is read as a whole.
-/

namespace MandateDesk.Json

/-- Takes a field, which is only read if its name is one of some names. -/
def takeSelected
    (names : List String)
    (text : List Char) :
    Option (List (String × Json) × List Char) := do
  match skipGap text with
  | '"' :: rest =>
    let (name, rest) ← takeString rest
    match skipGap rest with
    | ':' :: rest =>
      let name := String.ofList name
      if names.contains name then
        let (value, left) ← takeValue depthLimit (skipGap rest)
        return ([(name, value)], left)
      else
        return ([], ← afterValue (skipGap rest))
    | _ => none
  | _ => none

/-- Takes the rest of an object whose next field is still to come. -/
def takeSelection
    (names : List String) :
    (fuel : Nat) → List Char → Option (List (String × Json) × List Char)
  | 0, _ => none
  | fuel + 1, text => do
    let (found, rest) ← takeSelected names text
    match skipGap rest with
    | '\x7d' :: left => return (found, left)
    | ',' :: next =>
      let (others, left) ← takeSelection names fuel next
      return (found ++ others, left)
    | _ => none

/-- Takes a record, of which only the fields with given names are read. -/
def takeRecord (names : List String) : List Char → Option (Json × List Char)
  | '\x7b' :: rest =>
    match skipGap rest with
    | '\x7d' :: left => some (object [], left)
    | other =>
      (takeSelection names other.length other).map fun (fields, left) =>
        (object fields, left)
  | other => takeValue depthLimit other

/-- Reads a list of records that has further items. -/
def readItems
    (names : List String)
    (text : List Char) :
    Option (List Json) := do
  let (items, rest) ← takeItems (takeRecord names) text.length text
  if rest.all isGap then some items else none

/-- Reads a text that holds a list of records between blanks. -/
def readRecords (names : List String) (text : String) : Option (List Json) :=
  match skipGap text.toList with
  | '[' :: rest =>
    match skipGap rest with
    | ']' :: left => if left.all isGap then some [] else none
    | other => readItems names other
  | _ => none

end MandateDesk.Json
