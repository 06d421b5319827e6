import MandateDesk.CommandLine.Arguments
import MandateDesk.Decimal.Reader
import MandateDesk.Text.Digits

/-!
# Invocations

What the program is asked to do: check the settings, simulate, or arbitrate
mandates. The directory of the settings is given in front of the command.
-/

namespace MandateDesk.CommandLine

/-- What the program is asked to do. -/
inductive Command where
  /-- Check the settings and show them. -/
  | checkSettings
  /-- Run the desk on random prices and mandates. -/
  | simulate (symbols cycles seed : Nat) (equity : Decimal)
  /-- Arbitrate written mandates for a symbol in a state. -/
  | arbitrate (state symbol : String) (mandates : List String)
deriving DecidableEq

/-- A command with the directory of the settings. -/
structure Invocation where
  /-- The directory of the settings. -/
  directory : String
  /-- What is to be done. -/
  command : Command
deriving DecidableEq

/-- Any value is right. -/
def anyText (_ : String) : Option Problem :=
  none

/-- The name of a directory is not empty. -/
def directoryProblem? (text : String) : Option Problem :=
  if text.isEmpty then some .missingValue else none

/-- A number is unsigned and has at most 64 bits. -/
def numberProblem? (text : String) : Option Problem :=
  match Text.unsigned? Text.bound64 text.toList with
  | some _ => none
  | none => some .badValue

/-- A decimal number is one that can be read. -/
def decimalProblem? (text : String) : Option Problem :=
  match Decimal.read? text with
  | some _ => none
  | none => some .badValue

/-- An option without a letter that is given at most once. -/
def single (name : String) (problem? : String → Option Problem) : OptionSpec :=
  ⟨name, none, problem?, false⟩

/-- What stands in front of the command. -/
def outerGrammar : Grammar where
  options := [⟨"config", some 'c', directoryProblem?, false⟩]
  hasVersion := true

/-- What follows the command that checks the settings. -/
def checkGrammar : Grammar where
  options := []
  hasVersion := false

/-- What follows the command that simulates. -/
def simulateGrammar : Grammar where
  options :=
    [single "symbols" numberProblem?, single "cycles" numberProblem?,
      single "seed" numberProblem?, single "equity" decimalProblem?]
  hasVersion := false

/-- What follows the command that arbitrates. -/
def arbitrateGrammar : Grammar where
  options :=
    [single "state" anyText, single "symbol" anyText,
      ⟨"mandate", none, anyText, true⟩]
  hasVersion := false

/-- The number that is the value of an option. -/
def numberOr (standard : Nat) (name : String) (scan : Scan) : Nat :=
  match scan.value? name with
  | some text => (Text.unsigned? Text.bound64 text.toList).getD standard
  | none => standard

/-- The equity that a simulation begins with unless another one is chosen. -/
def standardEquity : Decimal :=
  ⟨false, 100000, 0, by decide, Decimal.scale_zero_le⟩

/-- The decimal number that is the value of an option. -/
def decimalOr (standard : Decimal) (name : String) (scan : Scan) : Decimal :=
  match scan.value? name with
  | some text => (Decimal.read? text).getD standard
  | none => standard

/-- The command that checks the settings, with its arguments. -/
def readCheck (arguments : List String) : Except Problem Command := do
  let _ ← scanAll checkGrammar arguments
  return .checkSettings

/-- The command that simulates, with its arguments. -/
def readSimulate (arguments : List String) : Except Problem Command := do
  let scan ← scanAll simulateGrammar arguments
  return .simulate (numberOr 4 "symbols" scan) (numberOr 50 "cycles" scan)
    (numberOr 7 "seed" scan) (decimalOr standardEquity "equity" scan)

/-- The command that arbitrates, with its arguments. -/
def readArbitrate (arguments : List String) : Except Problem Command := do
  let scan ← scanAll arbitrateGrammar arguments
  match scan.valuesOf "mandate" with
  | [] => .error .missingOption
  | mandates =>
    return .arbitrate ((scan.value? "state").getD "FLAT")
      ((scan.value? "symbol").getD "BTC") mandates

/-- The names of the commands. -/
def commandNames : List String :=
  ["check-config", "simulate", "arbitrate", "help"]

/-- What is asked about by the command `help`. -/
def readHelp : List String → Problem
  | [] => .help
  | [name] => if commandNames.contains name then .help else .unknownCommand
  | _ => .unknownCommand

/-- A command with its arguments. -/
def readCommand
    (name : String)
    (arguments : List String) :
    Except Problem Command :=
  match name with
  | "check-config" => readCheck arguments
  | "simulate" => readSimulate arguments
  | "arbitrate" => readArbitrate arguments
  | "help" => .error (readHelp arguments)
  | _ => .error .unknownCommand

/-- The problem of a word behind two hyphens in place of a command. -/
def problemBehindMark (word : String) : Problem :=
  if commandNames.contains word then .unknownArgument else .unknownCommand

/-- What the program is asked to do by its arguments. -/
def read (arguments : List String) : Except Problem Invocation := do
  match ← scan outerGrammar arguments with
  | (outer, .finished) =>
    let settled ← outer.settle
    if settled.values.isEmpty then .error .helpWithoutArguments
    else .error .missingCommand
  | (_, .word word _ true) => .error (problemBehindMark word)
  | (outer, .word word rest false) =>
    let command ← readCommand word rest
    let settled ← outer.settle
    return ⟨(settled.value? "config").getD "config", command⟩

end MandateDesk.CommandLine
