import MandateDesk.Binary64.Reader
import MandateDesk.Json.Value
import MandateDesk.Text.Digits
import MandateDesk.Yaml.Tag

/-!
# Values of a document

What is between quotes is a text. A plain scalar is whatever it looks like: an
integer, a floating-point number, a truth value, nothing at all, or a text. A
tag may ask for one of these. Where the scalar cannot be that, and where a
value refers to itself, there is no value.

The keys of a table are values, too. Only a table whose keys are texts and
integers has a meaning, and only a number that has a value.
-/

namespace MandateDesk.Yaml

/-- A value of a document. -/
inductive Node where
  /-- No value. -/
  | absent
  /-- Nothing at all. -/
  | null
  /-- A truth value. -/
  | boolean (value : Bool)
  /-- An integer. -/
  | integer (value : Int)
  /-- A floating-point number, as it is written. -/
  | float (written : String)
  /-- A text. -/
  | text (written : String)
  /-- A list. -/
  | list (items : List Node)
  /-- Keys with values, in written order. -/
  | table (fields : List (Node × Node))
deriving BEq

/-! ## Scalars -/

/-- The digits behind a sign, and whether it is a minus sign. -/
def signOf : List Char → Bool × List Char
  | '-' :: rest => (true, rest)
  | '+' :: rest => (false, rest)
  | other => (false, other)

/-- The integer of 64 bits that digits of a base behind a sign stand for. -/
def readBased (base : Nat) (text : List Char) : Option Int := do
  let (negative, digits) := signOf text
  let values ← digits.mapM Text.hexDigit?
  let number := values.foldl (fun known digit => base * known + digit) 0
  if digits.isEmpty || values.any (base ≤ ·) then none
  else if negative then
    if number ≤ Text.bound63 then some (-(number : Int)) else none
  else if number < Text.bound63 then some number
  else none

/-- The integer that a scalar with the mark of a base looks like. -/
def readMarked : List Char → Option Int
  | '0' :: 'x' :: digits => readBased 16 digits
  | '0' :: 'o' :: digits => readBased 8 digits
  | '+' :: written => Text.signed64? written
  | _ => none

/-- Words for numbers that have no value here. -/
def idleNumbers : List String :=
  [".inf", ".Inf", ".INF", "+.inf", "+.Inf", "+.INF", "-.inf", "-.Inf",
    "-.INF", ".nan", ".NAN"]

/-- Whether a scalar looks like a floating-point number. -/
def isFloat (word : String) : Bool :=
  idleNumbers.contains word || (Binary64.read? word).isSome

/-- What a plain scalar without a base looks like. -/
def plainWordNode (word : String) : Node :=
  if word = "~" ∨ word = "null" then .null
  else if word = "true" then .boolean true
  else if word = "false" then .boolean false
  else
    match Text.signed64? word.toList with
    | some number => .integer number
    | none => if isFloat word then .float word else .text word

/-- What a plain scalar looks like. -/
def plainNode (word : String) : Node :=
  match readMarked word.toList with
  | some number => .integer number
  | none => plainWordNode word

/-- What the handle for tags that have a meaning here stands for. -/
def knownHandle : String := "tag:yaml.org,2002:"

/-- What a plain scalar is whose tag has a meaning here. -/
def taggedNode (suffix word : String) : Node :=
  if suffix = "bool" then
    if word = "true" then .boolean true
    else if word = "false" then .boolean false
    else .absent
  else if suffix = "int" then
    ((Text.signed64? word.toList).map Node.integer).getD .absent
  else if suffix = "float" then
    if isFloat word then .float word else .absent
  else if suffix = "null" then
    if word = "~" ∨ word = "null" then .null else .absent
  else .text word

/-- What a scalar stands for. -/
def scalarNode (isPlain : Bool) (tag : Option Tag) (word : String) : Node :=
  match isPlain, tag with
  | false, _ => .text word
  | true, none => plainNode word
  | true, some tag =>
    if tag.handle = knownHandle then taggedNode tag.suffix word
    else .text word

/-! ## Tables -/

namespace Node

/-- Whether there is a value. -/
def isPresent : Node → Bool
  | .absent => false
  | _ => true

/--
The fields of a table behind those that are known, where the key of the next
value may be known. What is no value is no key, and no key is repeated.
-/
def pairedFields?
    (key : Option Node)
    (known : List (Node × Node)) :
    List Node → Option (List (Node × Node))
  | [] => some known
  | node :: rest =>
    match key with
    | none =>
      pairedFields? (if node.isPresent then some node else none) known rest
    | some key =>
      if known.any fun field => field.1 == key then none
      else pairedFields? none (known ++ [(key, node)]) rest

/-- The table of keys and values in turn. -/
def ofPairs? (nodes : List Node) : Option Node :=
  (pairedFields? none [] nodes).map Node.table

/-- The name that a key gives. -/
def name? : Node → Option String
  | .text written => some written
  | .integer number => some (Text.integerText number)
  | _ => none

mutual

/-- The value that a node means. -/
def toJson? : Node → Option Json
  | .absent => some .null
  | .null => some .null
  | .boolean value => some (.boolean value)
  | .integer value => some (.integer value)
  | .float written => (Binary64.read? written).map Json.float
  | .text written => some (.string written)
  | .list items => (itemsToJson? items).map Json.array
  | .table fields => (fieldsToJson? fields).map Json.object

/-- The values that nodes mean. -/
def itemsToJson? : List Node → Option (List Json)
  | [] => some []
  | item :: rest => do
    let first ← toJson? item
    return first :: (← itemsToJson? rest)

/-- The fields that keys with values mean. -/
def fieldsToJson? : List (Node × Node) → Option (List (String × Json))
  | [] => some []
  | (key, node) :: rest => do
    let name ← key.name?
    let value ← toJson? node
    return (name, value) :: (← fieldsToJson? rest)

end

end Node

end MandateDesk.Yaml
