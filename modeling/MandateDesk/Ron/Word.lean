import MandateDesk.Binary64.Reader
import MandateDesk.Json.Value

/-!
# Words and numbers

A name is a word of letters, digits and underscores. Behind `r#` it may hold a
point and signs as well, which must not follow any other name. Some words are
values, wherever they are not the beginning of a longer word.

A number with a point, an exponent or too many digits is a floating-point
number. Any other one is an integer, of base ten, two, eight or sixteen, which
may have underscores behind its first digit.
-/

namespace MandateDesk.Ron

/-! ## Words -/

/-- Whether a character may stand in a name. -/
def isNameCharacter (character : Char) : Bool :=
  character.isAlphanum || character == '_'

/-- Whether a character may stand in a name behind `r#`. -/
def isRawCharacter (character : Char) : Bool :=
  isNameCharacter character || ".+-".toList.contains character

/-- Takes a name with nothing in front of it. -/
def takePlainName (text : List Char) : Option (String × List Char) :=
  let name := text.takeWhile isNameCharacter
  let rest := text.drop name.length
  if name.isEmpty || name.head?.any Text.isDigit ||
      rest.head?.any isRawCharacter then none
  else some (String.ofList name, rest)

/-- Takes a name. -/
def takeName (text : List Char) : Option (String × List Char) :=
  match text with
  | ['r'] => none
  | 'r' :: '"' :: _ => none
  | 'r' :: '#' :: rest =>
    let name := rest.takeWhile isRawCharacter
    if name.isEmpty then none
    else some (String.ofList name, rest.drop name.length)
  | other => takePlainName other

/-- What is left behind a word that is not part of a longer one. -/
def afterWord? (word : String) (text : List Char) : Option (List Char) :=
  let rest := text.drop word.length
  if word.toList.isPrefixOf text && !rest.head?.any isNameCharacter then
    some rest
  else none

/-- Takes one of some words that have values. -/
def takeAmong {α : Type} (words : List (String × α)) (text : List Char) :
    Option (α × List Char) :=
  words.findSome? fun (word, value) =>
    (afterWord? word text).map fun left => (value, left)

/-- Takes a word that is a value. -/
def takeWord (text : List Char) : Option (Json × List Char) :=
  takeAmong
    [("true", .boolean true), ("false", .boolean false), ("None", .null),
      ("inf", .float (.infinite false)), ("-inf", .float (.infinite true)),
      ("NaN", .float .undefined)] text

/-! ## Numbers -/

/-- Whether a character may stand in a floating-point number. -/
def isFloatCharacter (character : Char) : Bool :=
  Text.isDigit character || "eE.+-_".toList.contains character

/-- Whether a character may stand in an integer. -/
def isIntegerCharacter (character : Char) : Bool :=
  (Text.hexDigit? character).isSome || character == '_'

/-- Words that are floating-point numbers. -/
def floatWords : List (String × Binary64) :=
  [("inf", .infinite false), ("+inf", .infinite false),
    ("-inf", .infinite true), ("NaN", .undefined), ("+NaN", .undefined),
    ("-NaN", .undefined)]

/-- Takes a floating-point number. -/
def takeFloat (text : List Char) : Option (Binary64 × List Char) :=
  match takeAmong floatWords text with
  | some taken => some taken
  | none =>
    let written := text.takeWhile isFloatCharacter
    if written.contains '_' then none
    else
      (Binary64.readCharacters written).map fun number =>
        (number, text.drop written.length)

/-- The base of a magnitude, and what is behind the mark of the base. -/
def baseOf : List Char → Nat × List Char
  | '0' :: 'x' :: rest => (16, rest)
  | '0' :: 'o' :: rest => (8, rest)
  | '0' :: 'b' :: rest => (2, rest)
  | other => (10, other)

/-- Takes the magnitude of an integer. -/
def takeMagnitude (text : List Char) : Option (Nat × List Char) := do
  let (base, rest) := baseOf text
  let written := rest.takeWhile isIntegerCharacter
  let digits := written.filter fun character => character != '_'
  let values ← digits.mapM Text.hexDigit?
  if written.isEmpty ∨ written.head? = some '_' ∨ values.any (base ≤ ·) then
    none
  else
    return (values.foldl (fun known digit => base * known + digit) 0,
      rest.drop written.length)

/-- Takes an integer: one with a sign has 63 bits, another one has 64. -/
def takeInteger : List Char → Option (Int × List Char)
  | '+' :: rest =>
    ((takeMagnitude rest).filter fun taken => taken.1 < Text.bound63).map
      fun (number, left) => (number, left)
  | '-' :: rest =>
    ((takeMagnitude rest).filter fun taken => taken.1 ≤ Text.bound63).map
      fun (number, left) => (-(number : Int), left)
  | other =>
    ((takeMagnitude other).filter fun taken => taken.1 < Text.bound64).map
      fun (number, left) => (number, left)

/-- A text without the sign in front of it. -/
def afterSign : List Char → List Char
  | '+' :: rest => rest
  | '-' :: rest => rest
  | other => other

/-- Whether the number in front of a text goes on where an integer ends. -/
def isFloating (text : List Char) : Bool :=
  let magnitude := afterSign text
  (magnitude.takeWhile isIntegerCharacter).length <
    (magnitude.takeWhile isFloatCharacter).length

/-- Takes a number; an integer that cannot be one is tried as another one. -/
def takeNumber (text : List Char) : Option (Json × List Char) :=
  let integer := if isFloating text then none else takeInteger text
  match integer with
  | some (number, left) => some (.integer number, left)
  | none =>
    (takeFloat text).map fun (number, left) => (.float number, left)

end MandateDesk.Ron
