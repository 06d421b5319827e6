import MandateDesk.Ini.Reader
import MandateDesk.Json.Reader
import MandateDesk.Json5.Reader
import MandateDesk.Ron.Reader
import MandateDesk.Settings.Path
import MandateDesk.Text.Split
import MandateDesk.Toml.Reader
import MandateDesk.Yaml.Tree

/-!
# Documents with settings

A document holds a table in one of several formats, which the ending of its
name tells.

A document is looked for by a place below the directory of the settings: first
under that very name, then under the name with one of the known endings behind
it. What is found under the very name and has no known ending is no document.
-/

namespace MandateDesk.Settings

/-- A format of documents. -/
inductive Format where
  /-- Lines with keys and values below headers. -/
  | toml
  /-- One value. -/
  | json
  /-- Lines whose indentation gives their place. -/
  | yaml
  /-- Keys and texts below the names of sections. -/
  | ini
  /-- One value, as it is written by hand. -/
  | json5
  /-- One value, which may have names of types. -/
  | ron
deriving DecidableEq

namespace Format

/-- The formats, in the order in which they are looked for. -/
def all : List Format := [toml, json, yaml, ini, json5, ron]

/-- The endings of the names of documents. -/
def endings : Format → List String
  | toml => ["toml"]
  | json => ["json"]
  | yaml => ["yaml", "yml"]
  | ini => ["ini"]
  | json5 => ["json5"]
  | ron => ["ron"]

/-- The format of documents with an ending. -/
def ofEnding? (ending : String) : Option Format :=
  all.find? fun format => format.endings.contains ending

end Format

/-- The ending of a name, behind a point that is not its first character. -/
def ending? (name : String) : Option String :=
  let backward := name.toList.reverse
  let ending := backward.takeWhile fun character => character != '.'
  match backward.drop ending.length with
  | _ :: _ :: _ => some (String.ofList ending.reverse)
  | _ => none

/-- The format that the ending of a name tells. -/
def formatOf? (name : String) : Option Format :=
  (ending? name).bind Format.ofEnding?

/-- Where a document is looked for. -/
structure Place where
  /-- The name, below the directory. -/
  name : String
  /-- Whether the name may be that of a document as it is. -/
  exact : Bool
deriving DecidableEq

/-- Whether a part of a written place means nothing. -/
def isIdle (part : List Char) : Bool :=
  part.isEmpty || part == ['.']

/-- Reads a place; one that leaves the directory has no documents. -/
def Place.read? (text : String) : Option Place :=
  let parts := Text.parts '/' text.toList
  let names := parts.filter fun part => !isIdle part
  if text.toList.head? = some '/' ∨ names.isEmpty ∨
      names.contains ['.', '.'] then none
  else
    some
      ⟨String.intercalate "/" (names.map String.ofList),
        !parts.getLast?.any isIdle⟩

/-- Names with known endings behind a place. -/
def Place.extended (place : Place) : List (String × Option Format) :=
  Format.all.flatMap fun format =>
    format.endings.map fun ending =>
      (place.name ++ "." ++ ending, some format)

/-- The names under which a document is looked for, with their formats. -/
def Place.candidates (place : Place) : List (String × Option Format) :=
  if place.exact then
    (place.name, formatOf? place.name) :: place.extended
  else place.extended

/-- The names under which the document for a text is looked for. -/
def candidates (text : String) : List (String × Option Format) :=
  ((Place.read? text).map Place.candidates).getD []

/-- A number as it counts: an integer that is too large has no exact value. -/
def settledNumber (value : Int) : Json :=
  if value < Text.bound63 then .integer value
  else .float (Binary64.ofNat value.toNat)

mutual

/-- A value as it counts: of repeated names the last one does. -/
def settled : Json → Json
  | .integer value => settledNumber value
  | .array items => .array (settledItems items)
  | .object fields => .object (settledFields [] fields)
  | other => other

/-- Values as they count. -/
def settledItems : List Json → List Json
  | [] => []
  | item :: rest => settled item :: settledItems rest

/-- Fields as they count, behind those that are known. -/
def settledFields (known : Fields) : List (String × Json) → Fields
  | [] => known
  | (name, value) :: rest =>
    settledFields (withField name (settled value) known) rest

end

/-- The fields of an object as they count. -/
def tableOf? : Json → Option Fields
  | .object fields => some (settledFields [] fields)
  | _ => none

/-- The fields of the table in a text. -/
def Format.fields? (text : String) : Format → Option Fields
  | .toml => Toml.read? text
  | .json => (Json.read? text).bind tableOf?
  | .yaml => (Yaml.read? text).map (settledFields [])
  | .ini => (Ini.read? text).map (settledFields [])
  | .json5 => (Json5.read? text).bind tableOf?
  | .ron => (Ron.read? text).bind tableOf?

example : ending? ".toml" = none ∧ ending? "a.b.json" = some "json" := by
  decide +kernel

end MandateDesk.Settings
