import MandateDesk.Binary64.Reader
import MandateDesk.Json5.Quoted
import MandateDesk.Text.Word

/-!
# Reading JSON values that are written by hand

The form of such a value is wider than that of JSON: there are comments,
names of fields need no quotes, texts may stand between single quotes and may
go on behind the end of a line, a comma may follow the last item, and numbers
may begin with a plus sign or a point, end with a point, or be hexadecimal.

A number without point and exponent is an integer of 64 bits.
-/

namespace MandateDesk.Json5

/-! ## Names of fields

A name is a text between quotes or a word without them. A word begins with a
letter, a dollar sign or an underscore, and goes on as words do, also with a
character that joins its neighbours or keeps them apart without a space. Any
character of a word may be given by its code behind a backslash, whether or
not it could stand there itself.
-/

/-- Whether a character may begin a name. -/
def startsName (character : Char) : Bool :=
  Text.isLetter character || character == '$' || character == '_'

/-- Whether a character may stand in a name behind its beginning. -/
def continuesName (character : Char) : Bool :=
  startsName character || Text.continuesWord character ||
    character == '\u200C' || character == '\u200D'

/-- Takes the rest of a name without quotes. -/
def takeNameRest : (fuel : Nat) → List Char → Option (List Char × List Char)
  | 0, _ => none
  | _ + 1, [] => some ([], [])
  | fuel + 1, '\\' :: rest =>
    match rest with
    | 'u' :: code => do
      let (character, rest) ← takeCode id code
      let (read, left) ← takeNameRest fuel rest
      return (character :: read, left)
    | _ => none
  | fuel + 1, first :: rest =>
    if continuesName first then
      (takeNameRest fuel rest).map fun (read, left) => (first :: read, left)
    else some ([], first :: rest)

/-- Takes the name of a field. -/
def takeName : List Char → Option (String × List Char)
  | [] => none
  | first :: rest =>
    if first = '\\' ∨ startsName first = true then
      (takeNameRest (rest.length + 2) (first :: rest)).map fun (read, left) =>
        (String.ofList read, left)
    else takeQuoted (first :: rest)

example : (takeName "a^\\u0062:".toList).map Prod.fst = some "a^b" := by
  decide +kernel

/-! ## Blanks -/

/-- Whether a character may stand between the parts of a value. -/
def isBlank (character : Char) : Bool :=
  (Text.isBlank character && character != '\x85') || character == '\uFEFF'

/-- Gaps: a comment over lines holds no others. -/
def gaps : Text.GapForm :=
  ⟨isBlank, Text.isLineEnd, false⟩

/-- A text without blanks and comments in front of it. -/
def afterGap (text : List Char) : List Char :=
  gaps.after text

/-! ## Words -/

/-- Whether a character may stand in a word or a number. -/
def isWordCharacter (character : Char) : Bool :=
  character.isAlphanum || "+-.".toList.contains character

/-- Reads a hexadecimal number of 32 bits. -/
def readHexadecimal (digits : List Char) : Option Json := do
  let values ← digits.mapM Text.hexDigit?
  let number := values.foldl (fun known digit => 16 * known + digit) 0
  if digits.isEmpty || Text.bound32 ≤ number then none
  else return .integer number

/-- Whether digits begin with a zero that is not the only one. -/
def hasLeadingZero : List Char → Bool
  | '0' :: next :: _ => Text.isDigit next
  | _ => false

/-- Reads a decimal number behind its sign. -/
def readNumber (sign magnitude : List Char) : Option Json :=
  if hasLeadingZero magnitude then none
  else if magnitude.all Text.isDigit then
    (Text.signed64? (sign ++ magnitude)).map Json.integer
  else
    match Binary64.readDigits (sign == ['-']) magnitude with
    | some number => if number.isFinite then some (.float number) else none
    | none => none

/-- Reads a word. -/
def readWord (word : List Char) : Option Json :=
  match word with
  | '0' :: 'x' :: digits => readHexadecimal digits
  | '0' :: 'X' :: digits => readHexadecimal digits
  | '+' :: magnitude => readNumber ['+'] magnitude
  | '-' :: magnitude =>
    if magnitude = "Infinity".toList then some (.float (.infinite true))
    else if magnitude = "NaN".toList then some (.float .undefined)
    else readNumber ['-'] magnitude
  | other =>
    if other = "null".toList then some .null
    else if other = "true".toList then some (.boolean true)
    else if other = "false".toList then some (.boolean false)
    else if other = "Infinity".toList then some (.float (.infinite false))
    else if other = "NaN".toList then some (.float .undefined)
    else readNumber [] other

/-- Takes a text, a number or a word. -/
def takeScalar (text : List Char) : Option (Json × List Char) :=
  match takeQuoted text with
  | some (read, left) => some (.string read, left)
  | none =>
    let word := text.takeWhile isWordCharacter
    (readWord word).map fun value => (value, text.drop word.length)

/-! ## Values -/

/-- Takes the rest of a list whose next item, if any, is still to come. -/
def takeItems
    (takeOne : List Char → Option (Json × List Char)) :
    (fuel : Nat) → List Char → Option (List Json × List Char)
  | 0, _ => none
  | fuel + 1, text => do
    let (item, rest) ← takeOne (afterGap text)
    match afterGap rest with
    | ']' :: left => return ([item], left)
    | ',' :: next =>
      match afterGap next with
      | ']' :: left => return ([item], left)
      | other =>
        let (items, left) ← takeItems takeOne fuel other
        return (item :: items, left)
    | _ => none

/-- Takes the rest of an object whose next field is still to come. -/
def takeFields
    (takeOne : List Char → Option (Json × List Char)) :
    (fuel : Nat) → List Char → Option (List (String × Json) × List Char)
  | 0, _ => none
  | fuel + 1, text => do
    let (name, rest) ← takeName (afterGap text)
    match afterGap rest with
    | ':' :: rest =>
      let (value, rest) ← takeOne (afterGap rest)
      match afterGap rest with
      | '\x7d' :: left => return ([(name, value)], left)
      | ',' :: next =>
        match afterGap next with
        | '\x7d' :: left => return ([(name, value)], left)
        | other =>
          let (fields, left) ← takeFields takeOne fuel other
          return ((name, value) :: fields, left)
      | _ => none
    | _ => none

/-- Takes a value that is nested less deeply than a depth. -/
def takeValue : (depth : Nat) → List Char → Option (Json × List Char)
  | 0, _ => none
  | depth + 1, text =>
    match text with
    | '[' :: rest =>
      match afterGap rest with
      | ']' :: left => some (.array [], left)
      | other =>
        (takeItems (takeValue depth) other.length other).map
          fun (items, left) => (.array items, left)
    | '\x7b' :: rest =>
      match afterGap rest with
      | '\x7d' :: left => some (.object [], left)
      | other =>
        (takeFields (takeValue depth) other.length other).map
          fun (fields, left) => (.object fields, left)
    | other => takeScalar other

/-- Reads a text that holds one value. -/
def readCharacters (text : List Char) : Option Json := do
  let (value, rest) ← takeValue (text.length + 1) (afterGap text)
  if (afterGap rest).isEmpty then some value else none

/-- Reads a text that holds one value. -/
def read? (text : String) : Option Json :=
  readCharacters text.toList

end MandateDesk.Json5
