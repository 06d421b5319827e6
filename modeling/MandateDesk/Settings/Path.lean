import MandateDesk.Json.Value
import MandateDesk.Text.Digits
import MandateDesk.Text.Keyword

/-!
# Paths to settings

A path is a name and the steps from there: names behind dots, and positions in
lists between brackets. Names do not depend on case. A text that is not of
this form is a path of one name.

`Path.given` gives a path a value. Tables and lists that are missing on the
way are made, and whatever stands in their place is dropped. Giving a name a
table keeps what the name had before and adds to it; any other value takes the
place of the earlier one.
-/

namespace MandateDesk.Settings

/-- A table of values by name. -/
abbrev Fields := List (String × Json)

/-- The fields of a table; any other value has none. -/
def fieldsOf : Json → Fields
  | .object fields => fields
  | _ => []

/-- The items of a list; any other value has none. -/
def itemsOf : Json → List Json
  | .array items => items
  | _ => []

/-- A table in which a name has a value. -/
def withField (name : String) (value : Json) (fields : Fields) : Fields :=
  if fields.any fun field => field.1 == name then
    fields.map fun field => if field.1 == name then (name, value) else field
  else fields ++ [(name, value)]

mutual

/-- A table in which a name is given a value. -/
def given (fields : Fields) (name : String) : Json → Fields
  | .object added =>
    let key := Text.lowerCase name
    let known := (Json.field? key fields).getD (.object [])
    withField key (givenAll known added) fields
  | value => withField (Text.lowerCase name) value fields

/-- A value in which names are given values; it becomes a table with them. -/
def givenAll (known : Json) : List (String × Json) → Json
  | [] => known
  | (name, value) :: rest =>
    givenAll (.object (given (fieldsOf known) name value)) rest

end

/-- A step of a path. -/
inductive Step where
  /-- To the value with a name. -/
  | name (name : String)
  /-- To the item at a position, which is counted from the end below zero. -/
  | item (position : Int)
deriving DecidableEq

/-- A name and the steps from there. -/
structure Path where
  /-- The name. -/
  root : String
  /-- The steps. -/
  steps : List Step
deriving DecidableEq

/--
Items among which there is one at a position, and how many are in front of it.
The items that are missing are `null`.
-/
def withRoom (position : Int) (items : List Json) : List Json × Nat :=
  if 0 ≤ position then
    (items ++ List.replicate (position.toNat + 1 - items.length) .null,
      position.toNat)
  else
    (List.replicate (position.natAbs - items.length) .null ++ items,
      items.length - position.natAbs)

namespace Path

/-- A value in which steps are given a value. -/
def stepped (value : Json) : List Step → Json → Json
  | [], _ => value
  | [.name name], known => .object (given (fieldsOf known) name value)
  | .name name :: rest, known =>
    let key := Text.lowerCase name
    let inner := (Json.field? key (fieldsOf known)).getD .null
    .object (withField key (stepped value rest inner) (fieldsOf known))
  | .item position :: rest, known =>
    let (items, place) := withRoom position (itemsOf known)
    .array (items.set place (stepped value rest (items[place]?.getD .null)))

/-- A table in which a path is given a value. -/
def given (path : Path) (value : Json) (fields : Fields) : Fields :=
  fieldsOf (stepped value (.name path.root :: path.steps) (.object fields))

/-! ## Reading -/

/-- Whether a character may stand in a name. -/
def isNameCharacter (character : Char) : Bool :=
  Text.isDigit character || ('a' ≤ character && character ≤ 'z') ||
    ('A' ≤ character && character ≤ 'Z') || character == '_' ||
    character == '-' || character == ' '

/-- Takes a name. -/
def takeName (text : List Char) : Option (String × List Char) :=
  let name := text.takeWhile isNameCharacter
  if name.isEmpty then none
  else some (String.ofList name, text.drop name.length)

/-- Whether a character may stand around a position. -/
def isGap (character : Char) : Bool :=
  character == ' ' || character == '\t'

/-- Takes a position, up to its closing bracket. -/
def takePosition (text : List Char) : Option (Int × List Char) := do
  let written := text.dropWhile isGap
  let (sign, written) : List Char × List Char :=
    match written with
    | '-' :: rest => (['-'], rest)
    | other => ([], other)
  let digits := written.takeWhile Text.isDigit
  let position ← Text.signed64? (sign ++ digits)
  match (written.drop digits.length).dropWhile isGap with
  | ']' :: left => return (position, left)
  | _ => none

/-- Takes a step. -/
def takeStep : List Char → Option (Step × List Char)
  | '.' :: rest => (takeName rest).map fun (name, left) => (.name name, left)
  | '[' :: rest =>
    (takePosition rest).map fun (position, left) => (.item position, left)
  | _ => none

/-- Reads steps up to the end of a text. -/
def readSteps : (fuel : Nat) → List Char → Option (List Step)
  | 0, _ => none
  | fuel + 1, text =>
    match text with
    | [] => some []
    | _ => do
      let (step, rest) ← takeStep text
      return step :: (← readSteps fuel rest)

/-- The path that a text stands for. -/
def read (text : String) : Path :=
  let written : Option Path := do
    let (root, rest) ← takeName text.toList
    return ⟨root, ← readSteps (rest.length + 1) rest⟩
  written.getD ⟨text, []⟩

example : (read "a.b[ -1 ]").steps = [.name "b", .item (-1)] := by
  decide +kernel

example : read "a..b" = ⟨"a..b", []⟩ := by decide +kernel

end Path

end MandateDesk.Settings
