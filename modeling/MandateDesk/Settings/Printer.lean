import MandateDesk.Settings.Basic
import MandateDesk.Toml.Printer

/-!
# The text of settings

Settings are written as a document with one table for each of their parts, in
a fixed order. Decimal numbers are written as texts. The file of the positions
is only written when there is one.
-/

namespace MandateDesk.Settings

/-- The table of the limits. -/
def limitsTable (limits : Risk.Limits) : String :=
  Toml.table "risk"
    (Risk.Limits.partNames.zip
      (limits.figures.map fun figure => Toml.writtenText figure.text))

/-- Lines with numbers, if they can be written. -/
def numberLines? (lines : List (String × Nat)) :
    Option (List (String × String)) :=
  lines.mapM fun entry =>
    (Toml.writtenNumber? entry.2).map fun written => (entry.1, written)

/-- The table of the parameters. -/
def parametersTable? (parameters : Desk.Parameters) : Option String := do
  let lines ← numberLines?
    [("cycle_interval_ms", parameters.cycleInterval),
      ("channel_capacity", parameters.channelCapacity),
      ("audit_capacity", parameters.auditCapacity),
      ("max_snapshot_age_ms", parameters.oldestSnapshot),
      ("reservation_timeout_ms", parameters.reservationTimeout),
      ("mandate_ttl_ms", parameters.mandateLifetime)]
  return Toml.table "pipeline"
    (lines ++ [("holder_id", Toml.writtenText parameters.holder)])

/-- The table of the aging. -/
def agingTable? (aging : Aging) : Option String := do
  return Toml.table "pipeline.aging"
    (← numberLines?
      [("step_ms", aging.interval), ("bump_per_step", aging.bump),
        ("max_bump", aging.ceiling)])

/-- The table of the store. -/
def storeTable (path : Option String) : String :=
  Toml.table "persistence"
    (path.toList.map fun written => ("path", Toml.writtenText written))

/-- The table of the log. -/
def logTable (settings : Settings) : String :=
  Toml.table "logging"
    [("level", Toml.writtenText settings.logLevel),
      ("json", Toml.writtenBoolean settings.logRecords)]

/-- The text of settings, if all their numbers can be written. -/
def text? (settings : Settings) : Option String := do
  return Toml.document
    [limitsTable settings.limits,
      ← parametersTable? settings.parameters,
      ← agingTable? settings.parameters.aging,
      storeTable settings.storePath,
      logTable settings]

/-- What is shown about settings that are checked. -/
def checked (settings : Settings) : Except Fault String :=
  match settings.validate with
  | .error fault => .error fault
  | .ok () =>
    match settings.text? with
    | some text => .ok (text ++ "\n# configuration OK\n")
    | none => .error .unprintable

end MandateDesk.Settings
