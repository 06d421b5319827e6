import MandateDesk.Mandate.Validation
import MandateDesk.OrderedMap

/-!
# The registry of mandates

The registry holds submitted mandates by identifier, and for each symbol the
set of identifiers of its mandates. A mandate enters it active, may leave the
active status once, and is dropped when inactive mandates are purged.
-/

namespace MandateDesk

/-- A set of identifiers. -/
abbrev IdentifierSet := OrderedMap Identifier Unit

/-- The submitted mandates. -/
structure Registry where
  /-- The mandates by identifier. -/
  mandates : OrderedMap Identifier Mandate
  /-- The identifiers of each symbol's mandates. -/
  bySymbol : OrderedMap Symbol IdentifierSet

namespace Registry

/-- No mandates. -/
def empty : Registry :=
  ⟨OrderedMap.empty, OrderedMap.empty⟩

instance : Inhabited Registry :=
  ⟨empty⟩

/-- The identifiers of a symbol's mandates. -/
def identifiers (registry : Registry) (symbol : Symbol) : IdentifierSet :=
  (registry.bySymbol.find? symbol).getD OrderedMap.empty

/-- The mandate with an identifier. -/
def get? (registry : Registry) (id : Identifier) : Option Mandate :=
  registry.mandates.find? id

/-- Number of mandates. -/
def size (registry : Registry) : Nat :=
  registry.mandates.size

/-- Whether there is no mandate. -/
def isEmpty (registry : Registry) : Bool :=
  registry.mandates.isEmpty

/-- The active mandates, by identifier. -/
def active (registry : Registry) : List Mandate :=
  registry.mandates.values.filter Mandate.isActive

/-- Number of active mandates. -/
def activeCount (registry : Registry) : Nat :=
  registry.active.length

/-- A registry with one more mandate, whatever it held before. -/
def adding (registry : Registry) (mandate : Mandate) : Registry :=
  { mandates := registry.mandates.insert mandate.id mandate
    bySymbol :=
      registry.bySymbol.insert mandate.symbol
        ((registry.identifiers mandate.symbol).insert mandate.id ()) }

/-- Takes a valid mandate whose identifier is new. -/
def register
    (registry : Registry)
    (mandate : Mandate) :
    Except Fault Registry :=
  match mandate.validate with
  | .error fault => .error fault
  | .ok () =>
    if registry.mandates.contains mandate.id then
      .error (.duplicateMandate mandate.id)
    else .ok (registry.adding mandate)

/-- A mandate with another status. -/
def withStatus (status : Mandate.Status) (mandate : Mandate) : Mandate :=
  { mandate with status }

/-- Moves an active mandate to another status. -/
def update
    (registry : Registry)
    (id : Identifier)
    (status : Mandate.Status) :
    Except Fault (Registry × Mandate) :=
  match registry.get? id with
  | none => .error (.unknownMandate id)
  | some mandate =>
    if mandate.isActive then
      let moved := withStatus status mandate
      .ok ({ registry with mandates := registry.mandates.insert id moved },
        moved)
    else
      .error (.invalidMandate (.settled id mandate.status status))

/-- The active mandates of a symbol, by identifier. -/
def activeOf (registry : Registry) (symbol : Symbol) : List Mandate :=
  ((registry.identifiers symbol).keys.filterMap registry.get?).filter
    Mandate.isActive

/-- The symbols that an active mandate concerns, in order. -/
def activeSymbols (registry : Registry) : List Symbol :=
  OrderedMap.sortedKeys (registry.active.map Mandate.symbol)

/-- All active mandates, grouped by symbol and by identifier within. -/
def activeMandates (registry : Registry) : List Mandate :=
  registry.activeSymbols.flatMap registry.activeOf

/-- Whether a mandate is active and passes a test. -/
def isMoved (test : Mandate → Bool) (mandate : Mandate) : Bool :=
  mandate.isActive && test mandate

/-- Moves all active mandates that pass a test to another status. -/
def moveWhere
    (registry : Registry)
    (status : Mandate.Status)
    (test : Mandate → Bool) :
    Registry × List Identifier :=
  ({ registry with
     mandates := registry.mandates.mapValues fun _ mandate =>
       if isMoved test mandate then withStatus status mandate else mandate },
    (registry.mandates.values.filter (isMoved test)).map Mandate.id)

/-- Expires the active mandates stamped before a time. -/
def expireBefore
    (registry : Registry)
    (cutoff : Instant) :
    Registry × List Identifier :=
  registry.moveWhere .expired fun mandate => decide (mandate.stamp < cutoff)

/-- Cancels the active mandates of a source. -/
def cancelSource
    (registry : Registry)
    (source : String) :
    Registry × List Identifier :=
  registry.moveWhere .cancelled fun mandate => mandate.source == source

/-- Drops the mandates that are not active. -/
def purge (registry : Registry) : Registry :=
  let kept := registry.mandates.filter fun _ mandate => mandate.isActive
  let dropped (id : Identifier) : Bool :=
    match registry.get? id with
    | some mandate => !mandate.isActive
    | none => false
  let trimmed := registry.bySymbol.mapValues fun _ ids =>
    ids.filter fun id _ => !dropped id
  { mandates := kept
    bySymbol := trimmed.filter fun _ ids => !ids.isEmpty }

/-- Number of mandates that are not active. -/
def inactiveCount (registry : Registry) : Nat :=
  (registry.mandates.values.filter fun mandate => !mandate.isActive).length

end Registry

end MandateDesk
