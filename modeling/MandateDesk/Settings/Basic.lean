import MandateDesk.Desk.Parameters
import MandateDesk.Fault
import MandateDesk.Record.Parameters
import MandateDesk.Record.Risk
import MandateDesk.Text.Keyword

/-!
# Settings

All that a user can choose: the risk limits, the parameters of the desk, the
file in which positions are kept, and what is logged. Settings are valid when
none of their parts has a problem.
-/

namespace MandateDesk

/-- What a user has chosen. -/
structure Settings where
  /-- The risk limits. -/
  limits : Risk.Limits
  /-- The parameters of the desk. -/
  parameters : Desk.Parameters
  /--
  The file of the positions; they are kept in memory when it is missing. The
  path is a text. One that is not UTF-8, as file systems allow it, is left out.
  -/
  storePath : Option String
  /-- The least level of what is logged. -/
  logLevel : String
  /-- Whether the log is written as records. -/
  logRecords : Bool
deriving DecidableEq

namespace Settings

/-- The settings that hold unless others are chosen. -/
def standard : Settings where
  limits := .standard
  parameters := .standard
  storePath := none
  logLevel := "info"
  logRecords := false

instance : Inhabited Settings :=
  ⟨standard⟩

/-- The levels of a log. -/
def logLevels : List String :=
  ["trace", "debug", "info", "warn", "error"]

/-- What is wrong with the limits, in one text. -/
def limitProblems (limits : Risk.Limits) : List String :=
  match limits.problems with
  | [] => []
  | problems =>
    let texts := problems.map Risk.Limits.Problem.text
    ["risk: " ++ String.intercalate "; " texts]

/-- What is wrong with the level of the log; case does not matter. -/
def levelProblems (level : String) : List String :=
  if logLevels.contains (Text.lowerCase level) then []
  else ["unknown logging.level: " ++ level]

/-- What is wrong with settings. -/
def problems (settings : Settings) : List String :=
  limitProblems settings.limits ++
    settings.parameters.problems.map Desk.Parameters.Problem.text ++
    levelProblems settings.logLevel

/-- Accepts settings without problems. -/
def validate (settings : Settings) : Except Fault Unit :=
  match settings.problems with
  | [] => .ok ()
  | problems => .error (.invalidConfiguration problems)

/-- The file of the positions, from the part of settings about the store. -/
def storePathAs? (form : Record.Form) (value : Json) :
    Option (Option String) := do
  Record.defaulted? "path" none (Json.asOptional? form.text)
    (← form.parts ["path"] value)

/-- The level and the form of the log, from the part of settings about it. -/
def logAs? (form : Record.Form) (value : Json) : Option (String × Bool) := do
  let parts ← form.parts ["level", "json"] value
  return (
    ← Record.defaulted? "level" standard.logLevel form.text parts,
    ← Record.defaulted? "json" standard.logRecords form.boolean parts)

/-- The names of the parts of settings. -/
def partNames : List String :=
  ["risk", "pipeline", "persistence", "logging"]

/-- The names of all single settings, as paths from the outermost table. -/
def paths : List (List String) :=
  Risk.Limits.partNames.map (fun name => ["risk", name]) ++
    (Desk.Parameters.partNames.filter (· != "aging")).map
      (fun name => ["pipeline", name]) ++
    Aging.partNames.map (fun name => ["pipeline", "aging", name]) ++
    [["persistence", "path"], ["logging", "level"], ["logging", "json"]]

/-- Reads settings that are written in a form. -/
def readAs? (form : Record.Form) (value : Json) : Option Settings := do
  let parts ← form.parts partNames value
  let limits ←
    Record.defaulted? "risk" standard.limits (Risk.Limits.readAs? form) parts
  let parameters ←
    Record.defaulted? "pipeline" standard.parameters
      (Desk.Parameters.readAs? form) parts
  let storePath ←
    Record.defaulted? "persistence" standard.storePath (storePathAs? form)
      parts
  let (logLevel, logRecords) ←
    Record.defaulted? "logging" (standard.logLevel, standard.logRecords)
      (logAs? form) parts
  return { limits, parameters, storePath, logLevel, logRecords }

/-- The settings that a record stands for. -/
def ofRecord? (value : Json) : Option Settings :=
  readAs? .strict value

theorem validate_eq_ok_iff
    (settings : Settings) :
    settings.validate = .ok () ↔ settings.problems = [] := by
  unfold validate
  cases settings.problems <;> simp

end Settings

end MandateDesk
