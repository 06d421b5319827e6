import MandateDesk.Mandate.Basic

/-!
# The life of a position

A position is flat, is being entered, is open, is being reduced or is being
closed. `canBecome` says which changes of state are possible, `admits` which
kinds of mandate take part in decisions, and `acceptedEvents` what can happen
to a position.

While an entry works, an exit is admitted: it asks for the entry to be
cancelled.
-/

namespace MandateDesk.Position

/-- The state of a position. -/
inductive State where
  /-- Nothing is held and no order works. -/
  | flat
  /-- An entry order works. -/
  | entering
  /-- A quantity is held. -/
  | opened
  /-- A quantity is held and an order to reduce it works. -/
  | reducing
  /-- A quantity is held and an order to close it works. -/
  | closing
deriving DecidableEq, Inhabited

/-- What can happen to a position, without its details. -/
inductive EventKind where
  /-- An entry was admitted. -/
  | entryAdmitted
  /-- A reduction was admitted. -/
  | reduceAdmitted
  /-- An exit was admitted. -/
  | exitAdmitted
  /-- The venue filled the working order. -/
  | filled
  /-- The venue cancelled or rejected the working order. -/
  | failed
deriving DecidableEq, Inhabited

namespace EventKind

/-- The name of an event. -/
def name : EventKind → String
  | entryAdmitted => "entry_admitted"
  | reduceAdmitted => "reduce_admitted"
  | exitAdmitted => "exit_admitted"
  | filled => "filled"
  | failed => "failed"

end EventKind

namespace State

/-- All states, in the order of a position's life. -/
def all : List State := [flat, entering, opened, reducing, closing]

/-- The upper-case word for a state. -/
def word : State → String
  | flat => "FLAT"
  | entering => "ENTERING"
  | opened => "OPEN"
  | reducing => "REDUCING"
  | closing => "CLOSING"

instance : ToString State :=
  ⟨word⟩

/-- The name of a state inside records. -/
def name : State → String
  | flat => "Flat"
  | entering => "Entering"
  | opened => "Open"
  | reducing => "Reducing"
  | closing => "Closing"

/-- The state that a name inside records stands for. -/
def ofName? (text : String) : Option State :=
  all.find? fun state => state.name == text

/-- Reads the word for a state, in any case. -/
def read? (text : String) : Option State :=
  let written := Text.upperCase text
  all.find? fun state => state.word == written

/-- What is said about a text that is no word for a state. -/
def unknown (text : String) : String :=
  s!"Unknown state: {text}"

/-- Whether one state can follow another. -/
def canBecome : State → State → Bool
  | flat, entering => true
  | entering, opened => true
  | entering, flat => true
  | opened, reducing => true
  | opened, closing => true
  | reducing, opened => true
  | reducing, flat => true
  | closing, flat => true
  | _, _ => false

/-- The states that can follow a state. -/
def successors : State → List State
  | flat => [entering]
  | entering => [opened, flat]
  | opened => [reducing, closing]
  | reducing => [opened, flat]
  | closing => [flat]

/-- Whether a kind of mandate takes part in decisions in a state. -/
def admits : State → Mandate.Kind → Bool
  | flat, .entry => true
  | flat, .block => true
  | flat, .hold => true
  | entering, .exit => true
  | entering, .block => true
  | opened, .exit => true
  | opened, .block => true
  | opened, .reduce => true
  | opened, .hold => true
  | reducing, .block => true
  | reducing, .hold => true
  | closing, .block => true
  | closing, .hold => true
  | _, _ => false

theorem admits_entry_iff
    (state : State) :
    state.admits .entry = true ↔ state = .flat := by
  cases state <;> decide

theorem admits_reduce_iff
    (state : State) :
    state.admits .reduce = true ↔ state = .opened := by
  cases state <;> decide

theorem admits_exit_iff
    (state : State) :
    state.admits .exit = true ↔ state = .entering ∨ state = .opened := by
  cases state <;> decide

/-- The events that a position in a state accepts. -/
def acceptedEvents : State → List EventKind
  | flat => [.entryAdmitted]
  | entering => [.filled, .failed]
  | opened => [.reduceAdmitted, .exitAdmitted]
  | reducing => [.filled]
  | closing => [.filled]

/-- Whether a quantity is held. -/
def hasExposure : State → Bool
  | opened => true
  | reducing => true
  | closing => true
  | _ => false

/-- Whether an order waits at the venue. -/
def hasPendingOrder : State → Bool
  | entering => true
  | reducing => true
  | closing => true
  | _ => false

theorem mem_all (state : State) : state ∈ all := by
  cases state <;> decide

/-- The listed successors are the possible ones. -/
theorem mem_successors_iff
    (state target : State) :
    target ∈ state.successors ↔ state.canBecome target = true := by
  cases state <;> cases target <;> decide

theorem ofName?_name (state : State) : ofName? state.name = some state := by
  cases state <;> decide

theorem read?_word (state : State) : read? state.word = some state := by
  cases state <;> decide

end State

end MandateDesk.Position
