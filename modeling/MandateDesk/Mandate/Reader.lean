import MandateDesk.Decimal.Reader
import MandateDesk.Mandate.Validation
import MandateDesk.Text.Split

/-!
# Reading mandates

A mandate is written as `KIND:AUTHORITY:SOURCE`, to which a direction and a
quantity may be added: `KIND:AUTHORITY:SOURCE:DIRECTION:QUANTITY`. The
symbol, the identifier and the time are given beside the text. What has been
read must be a valid mandate.
-/

namespace MandateDesk.Mandate

/-- Reads a kind, or refuses it. -/
def readKind (text : String) : Except Refusal Kind :=
  match Kind.read? text with
  | some kind => .ok kind
  | none => .error (.unknownKind text)

/-- Reads an authority, or refuses it. -/
def readAuthority (text : String) : Except Refusal Nat :=
  match Text.unsigned? Text.bound32 text.toList with
  | some authority => .ok authority
  | none => .error (.badAuthority text)

/-- Reads a direction, or refuses it. -/
def readDirection (text : String) : Except Refusal Direction :=
  match Direction.read? text with
  | some direction => .ok direction
  | none => .error (.unknownDirection text)

/-- Reads a quantity, or refuses it. -/
def readQuantity (text : String) : Except Refusal Decimal :=
  match Decimal.read? text with
  | some quantity => .ok quantity
  | none => .error (.badQuantity text)

/-- An active mandate without direction and quantity. -/
def plain
    (id : Identifier)
    (symbol : Symbol)
    (stamp : Instant)
    (kind : Kind)
    (authority : Nat)
    (source : String) :
    Mandate :=
  { id, symbol, kind, authority, stamp, source
    direction := none
    quantity := Decimal.zero
    status := .active }

/-- Reads a mandate without asking whether it is valid. -/
def readUnchecked
    (id : Identifier)
    (symbol : Symbol)
    (stamp : Instant)
    (text : String) :
    Except Refusal Mandate :=
  match (Text.parts ':' text.toList).map String.ofList with
  | [kind, authority, source] => do
    let kind ← readKind kind
    let authority ← readAuthority authority
    return plain id symbol stamp kind authority source
  | [kind, authority, source, direction, quantity] => do
    let kind ← readKind kind
    let authority ← readAuthority authority
    let direction ← readDirection direction
    let quantity ← readQuantity quantity
    return { plain id symbol stamp kind authority source with
      direction := some direction
      quantity }
  | _ => .error (.fieldCount text)

/-- Reads a valid mandate. -/
def read
    (id : Identifier)
    (symbol : Symbol)
    (stamp : Instant)
    (text : String) :
    Except Fault Mandate :=
  match readUnchecked id symbol stamp text with
  | .error refusal => .error (.invalidMandate refusal)
  | .ok mandate =>
    match mandate.validate with
    | .error fault => .error fault
    | .ok () => .ok mandate

end MandateDesk.Mandate
