import MandateDesk.Binary64.Reader
import MandateDesk.Settings.Basic
import MandateDesk.Settings.Document
import MandateDesk.Settings.Lenient

/-!
# Layers of settings

Settings are found in layers of which a later one goes before an earlier one,
path by path: what holds for the log, the document `default.toml`, the
document named for the stage, and the environment. A name of the outermost
table of a layer is read as a path.
-/

namespace MandateDesk.Settings

/-- A table with one more layer. -/
def layered (fields layer : Fields) : Fields :=
  layer.foldl (fun known field => (Path.read field.1).given field.2 known)
    fields

/-- The value of a variable of the environment. -/
def variableValue (text : String) : Json :=
  let word := Text.lowerCase text
  if word = "true" then .boolean true
  else if word = "false" then .boolean false
  else
    match Text.signed64? text.toList with
    | some number => .integer number
    | none =>
      match Binary64.read? text with
      | some number => .float number
      | none => .string text

/-- The beginning of the names of variables that count. -/
def variableMark : List Char := "arbiter__".toList

/-- A name in which two underscores are read as a dot. -/
def dottedName : List Char → List Char
  | '_' :: '_' :: rest => '.' :: dottedName rest
  | first :: rest => first :: dottedName rest
  | [] => []

/-- The name that a variable stands for, if it counts. -/
def variableName? (name : String) : Option String :=
  let written := (Text.lowerCase name).toList
  if written.take variableMark.length = variableMark then
    some (String.ofList (dottedName (written.drop variableMark.length)))
  else none

/-- The usual name of the variable for the setting at a path. -/
def variableFor (path : List String) : String :=
  Text.upperCase (String.intercalate "__" ("arbiter" :: path))

/-- The layer of an environment. -/
def environmentLayer (environment : List (String × String)) : Fields :=
  environment.filterMap fun entry =>
    (variableName? entry.1).map fun name => (name, variableValue entry.2)

/-- What holds for the log before any document. -/
def standardLayer : Fields :=
  [("logging.level", .string standard.logLevel),
    ("logging.json", .boolean standard.logRecords)]

/-- Where settings are found. -/
structure Sources where
  /-- The documents by name. -/
  documents : List (String × String)
  /-- The variables of the environment. -/
  environment : List (String × String)

namespace Sources

/-- The stage that a program runs in. -/
def stage (sources : Sources) : String :=
  (sources.environment.lookup "ARBITER_ENV").getD "development"

/-- The text under the first of some names that has one. -/
def found?
    (sources : Sources)
    (names : List (String × Option Format)) :
    Option (Option Format × String) :=
  names.findSome? fun candidate =>
    (sources.documents.lookup candidate.1).map fun text =>
      (candidate.2, text)

/-- The layer of the document at a place; a missing one has no names. -/
def documentLayer? (sources : Sources) (place : String) : Option Fields :=
  match sources.found? (candidates place) with
  | some (some format, text) => format.fields? text
  | _ => some []

/-- The layers, with later ones going before earlier ones. -/
def layers? (sources : Sources) : Option (List Fields) := do
  let base ← sources.documentLayer? "default.toml"
  let staged ← sources.documentLayer? sources.stage
  return [standardLayer, base, staged, environmentLayer sources.environment]

/-- The settings in sources, whether they are valid or not. -/
def read? (sources : Sources) : Option Settings := do
  let layers ← sources.layers?
  readAs? lenientForm (.object (layers.foldl layered []))

/-- The valid settings in sources. -/
def load (sources : Sources) : Except Fault Settings :=
  match sources.read? with
  | none => .error .configuration
  | some settings =>
    match settings.validate with
    | .error fault => .error fault
    | .ok () => .ok settings

end Sources

end MandateDesk.Settings
