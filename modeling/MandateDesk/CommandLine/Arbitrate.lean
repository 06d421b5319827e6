import MandateDesk.Arbitration
import MandateDesk.Json.Printer
import MandateDesk.Mandate.Reader
import MandateDesk.Record.Mandate

/-!
# Arbitration of written mandates

Mandates are read from texts, numbered in the order in which they are given,
and arbitrated for one symbol. The number of a mandate is its identifier, so
that of two equal mandates the first one wins.
-/

namespace MandateDesk.CommandLine

/-- The identifier of the mandate with a number. -/
def numbered (number : Nat) : Identifier :=
  if bounded : number < Identifier.bound then ⟨number, bounded⟩
  else Identifier.nil

/-- Reads mandates for a symbol, which are numbered from a number on. -/
def readMandates
    (symbol : Symbol)
    (now : Instant) :
    (number : Nat) → List String → Except Fault (List Mandate)
  | _, [] => .ok []
  | number, text :: rest => do
    let mandate ← Mandate.read (numbered number) symbol now text
    return mandate :: (← readMandates symbol now (number + 1) rest)

/-- The state that a word stands for. -/
def readState (text : String) : Except Fault Position.State :=
  match Position.State.read? text with
  | some state => .ok state
  | none => .error (.invalidConfiguration [Position.State.unknown text])

/-- The action for a symbol in a state under written mandates. -/
def arbitrate
    (state symbol : String)
    (mandates : List String)
    (now : Instant) :
    Except Fault Action := do
  let current ← readState state
  let read ← readMandates ⟨symbol⟩ now 1 mandates
  return Arbitration.resolve ⟨symbol⟩ current read

/-- What is shown of an action. -/
def shown (naming : Naming) (action : Action) : String :=
  (action.namedRecord naming.mandate).indented ++ "\n"

end MandateDesk.CommandLine
