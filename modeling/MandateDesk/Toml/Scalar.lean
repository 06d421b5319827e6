import MandateDesk.Binary64.Reader
import MandateDesk.Json.Value
import MandateDesk.Toml.Time

/-!
# Single words of a document

Numbers, truth values and times are written as one word. Digits may be joined
by single underscores; an integer has no leading zero and fits 64 bits, with a
base of its own behind `0x`, `0o` and `0b`. A floating-point number has a
fraction or a power of ten. A time is a table with one name, the mark of times,
under which its text stands.
-/

namespace MandateDesk.Toml

/-- Digits without the underscores that join them. -/
def joined? (isDigit : Char → Bool) : List Char → Option (List Char)
  | [] => none
  | [last] => if isDigit last then some [last] else none
  | first :: '_' :: rest =>
    if isDigit first then (joined? isDigit rest).map (first :: ·) else none
  | first :: rest =>
    if isDigit first then (joined? isDigit rest).map (first :: ·) else none

/-- The number that digits of a base denote. -/
def valueIn (base : Nat) (digits : List Char) : Nat :=
  digits.foldl
    (fun known digit => base * known + (Text.hexDigit? digit).getD 0) 0

/-- Whether a character is a digit of a base of at most sixteen. -/
def isDigitIn (base : Nat) (character : Char) : Bool :=
  match Text.hexDigit? character with
  | some digit => decide (digit < base)
  | none => false

/-- Reads an integer of a base without a sign. -/
def readBased (base : Nat) (text : List Char) : Option Json := do
  let digits ← joined? (isDigitIn base) text
  let number := valueIn base digits
  if number < Text.bound63 then return .integer number else none

/-- The sign of a word, and the rest of it. -/
def splitSign : List Char → List Char × List Char
  | '-' :: rest => (['-'], rest)
  | '+' :: rest => (['+'], rest)
  | other => ([], other)

/-- Whether digits begin with a zero that is not the only one. -/
def hasLeadingZero : List Char → Bool
  | '0' :: _ :: _ => true
  | _ => false

/-- Reads an integer of base ten. -/
def readInteger (text : List Char) : Option Json := do
  let (sign, magnitude) := splitSign text
  let digits ← joined? Text.isDigit magnitude
  if hasLeadingZero digits then none
  else (Text.signed64? (sign ++ digits)).map Json.integer

/-- A power of ten without underscores, if it is one or none at all. -/
def power? : List Char → Option (List Char)
  | [] => some []
  | mark :: rest =>
    let (sign, digits) := splitSign rest
    if Binary64.isPowerMark mark then
      (joined? Text.isDigit digits).map fun kept => 'e' :: sign ++ kept
    else none

/-- A fraction with a power of ten, without underscores. -/
def fraction? : List Char → Option (List Char)
  | '.' :: rest => do
    let digits := rest.takeWhile fun character =>
      !Binary64.isPowerMark character
    let kept ← joined? Text.isDigit digits
    return '.' :: kept ++ (← power? (rest.drop digits.length))
  | other => power? other

/-- Reads a floating-point number that is written in digits. -/
def readFloat (text : List Char) : Option Json := do
  let (sign, magnitude) := splitSign text
  let whole := magnitude.takeWhile fun character =>
    character != '.' && !Binary64.isPowerMark character
  let digits ← joined? Text.isDigit whole
  let tail ← fraction? (magnitude.drop whole.length)
  if hasLeadingZero digits || tail.isEmpty then none
  else
    let number ← Binary64.readCharacters (sign ++ digits ++ tail)
    if number = .infinite false then none else return .float number

/-- The name that marks a text as a time. -/
def timeMark : String := "$__toml_private_datetime"

/-- A time: a table in which its text is marked. -/
def markedTime (time : List Char) : Json :=
  .object [(timeMark, .string (String.ofList time))]

/-- Reads a word without digits. -/
def readName (text : List Char) : Option Json :=
  let (sign, name) := splitSign text
  if text = "true".toList then some (.boolean true)
  else if text = "false".toList then some (.boolean false)
  else if name = "inf".toList then
    some (.float (.infinite (sign == ['-'])))
  else if name = "nan".toList then some (.float .undefined)
  else none

/-- Reads a word. -/
def readScalar (text : List Char) : Option Json :=
  match text with
  | '0' :: 'x' :: digits => readBased 16 digits
  | '0' :: 'o' :: digits => readBased 8 digits
  | '0' :: 'b' :: digits => readBased 2 digits
  | other =>
    (readName other).or
      ((readInteger other).or
        ((readFloat other).or
          ((readTime .plain other).map markedTime)))

end MandateDesk.Toml
