import MandateDesk.Json.Reading
import MandateDesk.Decimal.Printer
import MandateDesk.Direction
import MandateDesk.OrderedMap
import MandateDesk.Symbol

/-!
# Records

A record is the JSON form of a value with named parts: an object with a field
for each part, in any order, or a list of the parts in the order of their
names. Further fields of an object do not count, and a part of it that may be
`null` may be left out. A list may only end early where the missing parts have
values of their own.

The record of one of several alternatives carries the name of the alternative
in a part of its own, the tag, which comes first in a list. Where such a
record is a part of another one, the tag may also be a number that counts the
alternatives from zero.
-/

namespace MandateDesk.Record

/-- The named parts of a record. -/
structure Parts where
  /-- The parts that are there. -/
  fields : List (String × Json)
  /-- Whether the parts were listed, so that `null` has to be written. -/
  listed : Bool

/-- The parts of a record, by their names. -/
def parts? (names : List String) : Json → Option Parts
  | .object fields =>
    if Json.noneRepeated names fields then some ⟨fields, false⟩ else none
  | .array items =>
    if items.length ≤ names.length then some ⟨names.zip items, true⟩
    else none
  | _ => none

/-- Reads the name of an alternative. -/
def named? (value : Json) : Option String :=
  value.asText?

/-- Reads the name or the number of one of some alternatives. -/
def numbered? (alternatives : List String) : Json → Option String
  | .integer number =>
    if 0 ≤ number then alternatives[number.toNat]? else none
  | other => named? other

/--
The alternative that a record stands for, with its parts by their names; the
tag is read in its own way.
-/
def tagged?
    (readTag : Json → Option String)
    (tag : String)
    (names : String → List String) :
    Json → Option (String × Parts)
  | .object fields => do
    let alternative ← readTag (← Json.field? tag fields)
    return (alternative, ← parts? (tag :: names alternative) (.object fields))
  | .array (first :: rest) => do
    let alternative ← readTag first
    return (alternative, ← parts? (names alternative) (.array rest))
  | _ => none

/-- Reads a part that must be there. -/
def required?
    {α : Type}
    (name : String)
    (read : Json → Option α)
    (parts : Parts) :
    Option α :=
  (Json.field? name parts.fields).bind read

/-- Reads a part that may be `null` and, in an object, left out. -/
def optional?
    {α : Type}
    (name : String)
    (read : Json → Option α)
    (parts : Parts) :
    Option (Option α) :=
  match Json.field? name parts.fields with
  | none => if parts.listed then none else some none
  | some value => value.asOptional? read

/-- Reads a part that has a value of its own when it is left out. -/
def defaulted?
    {α : Type}
    (name : String)
    (standard : α)
    (read : Json → Option α)
    (parts : Parts) :
    Option α :=
  match Json.field? name parts.fields with
  | none => some standard
  | some value => read value

/-- Reads a list. -/
def list? {α : Type} (read : Json → Option α) : Json → Option (List α)
  | .array items => items.mapM read
  | _ => none

/-- Reads a table whose keys are symbols. -/
def bySymbol?
    {α : Type}
    (read : Json → Option α) :
    Json → Option (OrderedMap Symbol α)
  | .object fields => do
    let entries ← fields.mapM fun field => do
      return (⟨field.1⟩, ← read field.2)
    return OrderedMap.ofList entries
  | _ => none

/-- Reads a symbol. -/
def symbol? (value : Json) : Option Symbol :=
  value.asText?.map Symbol.mk

/-- Reads the word for a direction. -/
def direction? (value : Json) : Option Direction :=
  value.asWord?.bind Direction.ofWord?

/-- Reads the word for a direction in a record with a tag. -/
def looseDirection? (value : Json) : Option Direction :=
  value.asLooseWord?.bind Direction.ofWord?

/-- Reads an unsigned number of 32 bits. -/
def unsigned32? (value : Json) : Option Nat :=
  value.asUnsigned? Text.bound32

/-- Reads an unsigned number of 64 bits. -/
def unsigned64? (value : Json) : Option Nat :=
  value.asUnsigned? Text.bound64

/-- How a record, and the numbers, texts and truth values in it, are read. -/
structure Form where
  /-- The parts of a record, by their names. -/
  parts : List String → Json → Option Parts
  /-- Reads a decimal number. -/
  decimal : Json → Option Decimal
  /-- Reads an unsigned number of 32 bits. -/
  unsigned32 : Json → Option Nat
  /-- Reads an unsigned number of 64 bits. -/
  unsigned64 : Json → Option Nat
  /-- Reads a truth value. -/
  boolean : Json → Option Bool
  /-- Reads a text. -/
  text : Json → Option String

/-- Everything is written as what it is; decimal numbers may be texts. -/
def Form.strict : Form where
  parts := parts?
  decimal := Json.asDecimal?
  unsigned32 := unsigned32?
  unsigned64 := unsigned64?
  boolean := Json.asBoolean?
  text := Json.asText?

/-- The record of a number. -/
def ofNat (number : Nat) : Json :=
  .integer number

/-- The record of a decimal number. -/
def ofDecimal (number : Decimal) : Json :=
  .string number.text

/-- The record of a symbol. -/
def ofSymbol (symbol : Symbol) : Json :=
  .string symbol.name

/-- The record of a direction. -/
def ofDirection (direction : Direction) : Json :=
  .string direction.word

/-- The record of an identifier. -/
def ofIdentifier (identifier : Identifier) : Json :=
  .string identifier.text

/-- The record of a value that may be missing. -/
def ofOption {α : Type} (write : α → Json) : Option α → Json
  | none => .null
  | some value => write value

/-- The record of a list. -/
def ofList {α : Type} (write : α → Json) (values : List α) : Json :=
  .array (values.map write)

/-- The record of a table whose keys are symbols. -/
def ofTable
    {α : Type}
    (write : α → Json)
    (table : OrderedMap Symbol α) :
    Json :=
  .object (table.entries.map fun entry => (entry.1.name, write entry.2))

end MandateDesk.Record
