import MandateDesk.Text.Digits
import MandateDesk.Yaml.Cursor

/-!
# Tags, anchors and directives

A tag says what a value is. It is written in full between angle brackets, or
as a handle, which stands for the beginning of the tag, and the rest of it.
Directives in front of a document say what handles stand for.

An anchor gives a value a name, by which it can be referred to.
-/

namespace MandateDesk.Yaml

/-- A handle, which may be empty, and the rest of a tag. -/
structure Tag where
  /-- The handle, or what it stands for. -/
  handle : String
  /-- The rest. -/
  suffix : String
deriving DecidableEq

/-! ## Characters -/

/-- Whether a character may stand in a handle. -/
def isHandleCharacter (character : Char) : Bool :=
  character.isAlphanum || character == '_' || character == '-'

/-- Whether a character may stand in a tag. -/
def isTagCharacter (character : Char) : Bool :=
  character.isAlphanum || "-#;/?:@&=+$,_.!~*'()[]%".toList.contains character

/-- Whether a character may stand in a tag behind a handle. -/
def isSuffixCharacter (character : Char) : Bool :=
  isTagCharacter character && !isBracket character && character != '!'

/-- Whether a character may stand in a name. -/
def isNameCharacter (character : Char) : Bool :=
  !endsWord character && !isBracket character && character != '\uFEFF'

/-- Takes the name of a value behind its mark. -/
def takeName (cursor : Cursor) : Option (String × Cursor) :=
  let (name, behind) := cursor.step.takeWhile isNameCharacter
  if name.isEmpty then none else some (String.ofList name, behind)

/-- The byte of two hexadecimal digits behind a percent sign. -/
def byte? : List Char → Option Nat
  | '%' :: high :: low :: _ => do
    return 16 * (← Text.hexDigit? high) + (← Text.hexDigit? low)
  | _ => none

/-- Number of bytes behind a first byte, if one can begin with it. -/
def bytesBehind? (byte : Nat) : Option Nat :=
  if byte < 0x80 then some 0
  else if byte < 0xC0 then none
  else if byte < 0xE0 then some 1
  else if byte < 0xF0 then some 2
  else if byte < 0xF8 then some 3
  else none

/-- Takes bytes behind a number, each of which moves it by eight bits. -/
def takeBytes : (count : Nat) → Nat → Cursor → Option (Nat × Cursor)
  | 0, number, cursor => some (number, cursor)
  | count + 1, number, cursor => do
    let byte ← byte? cursor.rest
    if 0x80 ≤ byte ∧ byte < 0xC0 then
      takeBytes count (0x100 * number + byte) (cursor.steps 3)
    else none

/-- Takes a character that is written as bytes. -/
def takeEncoded (cursor : Cursor) : Option (Char × Cursor) := do
  let first ← byte? cursor.rest
  let count ← bytesBehind? first
  let (number, behind) ← takeBytes count first (cursor.steps 3)
  if number.isValidChar then some (Char.ofNat number, behind) else none

/-- Takes characters of a tag. -/
def takeTagText (condition : Char → Bool) :
    (fuel : Nat) → Cursor → Option (List Char × Cursor)
  | 0, _ => none
  | fuel + 1, cursor =>
    if !condition cursor.head then some ([], cursor)
    else do
      let (character, behind) ←
        if cursor.head = '%' then takeEncoded cursor
        else some (cursor.head, cursor.step)
      let (read, left) ← takeTagText condition fuel behind
      return (character :: read, left)

/-! ## Tags -/

/-- Takes the beginning of a tag, which is a handle if it ends with its mark. -/
def takeHandle (cursor : Cursor) : Option (List Char × Cursor) :=
  if cursor.head = '!' then
    let (name, behind) := cursor.step.takeWhile isHandleCharacter
    if behind.head = '!' then some ('!' :: name ++ ['!'], behind.step)
    else some ('!' :: name, behind)
  else none

/-- Whether the beginning of a tag is a handle. -/
def isHandle (text : List Char) : Bool :=
  2 ≤ text.length && text.getLast? == some '!'

/-- A tag from its beginning, which is no handle, and the rest. -/
def localTag (beginning rest : List Char) : Tag :=
  let suffix := beginning.drop 1 ++ rest
  if suffix.isEmpty then ⟨"", "!"⟩ else ⟨"!", String.ofList suffix⟩

/-- Takes a tag in full. -/
def takeVerbatim (cursor : Cursor) : Option (Tag × Cursor) := do
  let (text, behind) ←
    takeTagText isTagCharacter (cursor.rest.length + 1) (cursor.steps 2)
  if behind.head = '>' then return (⟨"", String.ofList text⟩, behind.step)
  else none

/-- Takes a tag of a handle and the rest. -/
def takeShorthand (cursor : Cursor) : Option (Tag × Cursor) := do
  let (beginning, behind) ← takeHandle cursor
  let (rest, left) ←
    takeTagText isSuffixCharacter (cursor.rest.length + 1) behind
  if !isHandle beginning then return (localTag beginning rest, left)
  else if rest.isEmpty then none
  else return (⟨String.ofList beginning, String.ofList rest⟩, left)

/-- Takes a tag. -/
def takeTag (bracketed : Bool) (cursor : Cursor) : Option (Tag × Cursor) := do
  let (tag, behind) ←
    if cursor.next = '<' then takeVerbatim cursor else takeShorthand cursor
  if endsWord behind.head || (bracketed && isBracket behind.head) then
    return (tag, behind)
  else none

/-! ## Directives -/

/-- What a directive says. -/
inductive Directive where
  /-- The version of the format. -/
  | version
  /-- What a handle stands for; another directive says it of no handle. -/
  | handle (tag : Tag)

/-- Takes a number of at most nine digits. -/
def takeVersionPart (cursor : Cursor) : Option Cursor :=
  let (digits, behind) := cursor.takeWhile Text.isDigit
  if digits.isEmpty ∨ 9 < digits.length then none else some behind

/-- Takes the numbers of a version. -/
def takeVersion (cursor : Cursor) : Option (Directive × Cursor) := do
  let behind ← takeVersionPart (cursor.skipWhile isBlank)
  if behind.head = '.' then
    return (.version, ← takeVersionPart behind.step)
  else none

/-- Takes what a handle stands for. -/
def takeMeaning (cursor : Cursor) : Option (List Char × Cursor) := do
  let first := cursor.head
  let (read, behind) ←
    if first = '!' then some ('!', cursor.step)
    else if !isSuffixCharacter first then none
    else if first = '%' then takeEncoded cursor
    else some (first, cursor.step)
  let (text, left) ←
    takeTagText isTagCharacter (behind.rest.length + 1) behind
  if endsWord left.head then return (read :: text, left) else none

/-- Takes a handle with what it stands for. -/
def takeHandleMeaning (cursor : Cursor) : Option (Directive × Cursor) := do
  let (handle, behind) ← takeHandle (cursor.skipWhile isBlank)
  if handle != ['!'] && !isHandle handle then none
  else
    let (text, left) ← takeMeaning (behind.skipWhile isBlank)
    return (.handle ⟨String.ofList handle, String.ofList text⟩, left)

/-- Takes a directive with the end of its line. -/
def takeDirective (cursor : Cursor) : Option (Directive × Cursor) := do
  let (name, behind) := cursor.step.takeWhile isHandleCharacter
  if name.isEmpty || !endsWord behind.head then none
  else
    let (directive, left) ←
      if name = "YAML".toList then takeVersion behind
      else if name = "TAG".toList then takeHandleMeaning behind
      else some (.handle ⟨"", ""⟩, behind.lineEnd)
    return (directive, (← left.atLineEnd?).afterBreak)

example :
    (takeTag false (.ofText "!!int ".toList)).map Prod.fst =
      some ⟨"!!", "int"⟩ := by
  decide +kernel

end MandateDesk.Yaml
