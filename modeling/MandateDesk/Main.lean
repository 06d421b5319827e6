import MandateDesk.CommandLine.Arbitrate
import MandateDesk.CommandLine.Invocation
import MandateDesk.Settings.Layers
import MandateDesk.Settings.Printer

/-!
# The program

Reads the arguments, the documents of the settings and the environment, and
prints what comes of them.
-/

namespace MandateDesk.Program

/-- What is said about arguments that are not understood. -/
def usage : CommandLine.Problem → String
  | .help | .helpWithoutArguments =>
    "usage: [-c DIRECTORY] check-config | simulate | arbitrate"
  | .version => "0.1.0"
  | .unknownArgument => "unexpected argument"
  | .unknownCommand => "unrecognized subcommand"
  | .missingCommand => "a subcommand is required"
  | .missingValue => "a value is required"
  | .badValue => "invalid value"
  | .repeated => "an option is given more than once"
  | .unexpectedValue => "a flag takes no value"
  | .missingOption => "a required option is missing"

/-- The document with a name in a directory, if there is one. -/
def document? (directory name : String) : IO (Option (String × String)) := do
  let place := directory ++ "/" ++ name
  try
    return some (name, ← IO.FS.readFile place)
  catch _ => return none

/-- The variable with a name in the environment, if it is set. -/
def namedVariable? (name : String) : IO (Option (String × String)) := do
  return (← IO.getEnv name).map fun value => (name, value)

/-- The settings in a directory and in the environment. -/
def sources (directory : String) : IO Settings.Sources := do
  let stage := (← IO.getEnv "ARBITER_ENV").getD "development"
  let candidates :=
    Settings.candidates "default.toml" ++ Settings.candidates stage
  let found ←
    candidates.mapM fun candidate => document? directory candidate.1
  let names := "ARBITER_ENV" :: Settings.paths.map Settings.variableFor
  let set ← names.mapM namedVariable?
  return ⟨found.filterMap id, set.filterMap id⟩

/-- Prints a result, or the text of a fault. -/
def report : Except Fault String → IO UInt32
  | .ok text => do
    IO.print text
    return 0
  | .error fault => do
    IO.eprintln (fault.message .plain)
    return 1

/-- Does what the program is asked to do. -/
def run (invocation : CommandLine.Invocation) : IO UInt32 := do
  match invocation.command with
  | .checkSettings =>
    let found ← sources invocation.directory
    report (found.load.bind Settings.checked)
  | .simulate .. =>
    IO.eprintln "there is no source of prices to simulate with"
    return 1
  | .arbitrate state symbol mandates =>
    report
      ((CommandLine.arbitrate state symbol mandates Instant.epoch).map
        (CommandLine.shown .plain))

end MandateDesk.Program

/-- Runs the program. -/
def main (arguments : List String) : IO UInt32 := do
  match MandateDesk.CommandLine.read arguments with
  | .ok invocation => MandateDesk.Program.run invocation
  | .error problem =>
    IO.eprintln (MandateDesk.Program.usage problem)
    return 2
