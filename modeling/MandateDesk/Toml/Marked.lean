import MandateDesk.Toml.Scalar

/-!
# Marked times

A table whose first name is the mark of times stands for the time whose text
it holds, whatever else is in it. It has no meaning when there is no time in
it. `resolved?` replaces all such tables in a value by the texts of the times.
-/

namespace MandateDesk.Toml

/-- The text of the time that stands under the mark of times. -/
def timeText? : Json → Option String
  | .string text => (readTime .marked text.toList).map String.ofList
  | _ => none

mutual

/-- A value with the texts of its times in place of marked tables. -/
def resolved? : Json → Option Json
  | .array items => (resolvedItems? items).map Json.array
  | .object [] => some (.object [])
  | .object ((name, value) :: rest) =>
    if name = timeMark then (timeText? value).map Json.string
    else do
      let first ← resolved? value
      return .object ((name, first) :: (← resolvedFields? rest))
  | other => some other

/-- Values with the texts of their times in place of marked tables. -/
def resolvedItems? : List Json → Option (List Json)
  | [] => some []
  | item :: rest => do
    let first ← resolved? item
    return first :: (← resolvedItems? rest)

/-- Fields with the texts of their times in place of marked tables. -/
def resolvedFields? :
    List (String × Json) → Option (List (String × Json))
  | [] => some []
  | (name, value) :: rest => do
    let first ← resolved? value
    return (name, first) :: (← resolvedFields? rest)

end

/-- The fields of a table, if it does not stand for a time. -/
def resolvedTable? (fields : List (String × Json)) :
    Option (List (String × Json)) :=
  match resolved? (.object fields) with
  | some (.object resolved) => some resolved
  | _ => none

end MandateDesk.Toml
