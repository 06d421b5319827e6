import MandateDesk.Ron.Quoted
import MandateDesk.Ron.Word
import MandateDesk.Text.Gap

/-!
# Reading values with names of types

A record and a tuple stand in round brackets, and the name of a type may stand
in front of them. A list stands in square brackets and a table, whose keys are
texts, in curly ones. A comma may follow the last part of each. What may be
missing is `None` or stands between the brackets of `Some`. There are comments.

Attributes in front of the value change what it may look like. A value may be
nested up to a depth, where brackets and what is in them count separately.
-/

namespace MandateDesk.Ron

/-- Whether a character may stand between the parts of a value. -/
def isBlank (character : Char) : Bool :=
  " \t\n\r".toList.contains character

/-- Gaps: a comment over lines may hold others. -/
def gaps : Text.GapForm :=
  ⟨isBlank, (· == '\n'), true⟩

/-- A text without blanks and comments in front of it. -/
def afterGap (text : List Char) : List Char :=
  gaps.after text

/-! ## Attributes -/

/-- What the attributes in front of a value allow. -/
structure Extensions where
  /-- `Some` may stand in front of a value without brackets. -/
  implicitSome : Bool

/-- Names of extensions that concern types, of which a value has none. -/
def idleExtensions : List String :=
  ["unwrap_newtypes", "unwrap_variant_newtypes"]

/-- Extensions with the one that has a name. -/
def Extensions.enabled? (name : String) (extensions : Extensions) :
    Option Extensions :=
  if name = "implicit_some" then
    some { extensions with implicitSome := true }
  else if idleExtensions.contains name then some extensions
  else none

/-- What is left behind parts with gaps behind each. -/
def afterParts? : (parts : List String) → List Char → Option (List Char)
  | [], text => some text
  | part :: parts, text =>
    if part.toList.isPrefixOf text then
      afterParts? parts (afterGap (text.drop part.length))
    else none

/-- Takes the names of an attribute. -/
def takeExtensions :
    (fuel : Nat) → Extensions → List Char → Option (Extensions × List Char)
  | 0, _, _ => none
  | fuel + 1, extensions, text => do
    let (name, rest) ← takeName text
    let extensions ← extensions.enabled? name
    match afterGap rest with
    | ',' :: rest =>
      let next := afterGap rest
      if next.head?.any isNameCharacter then
        takeExtensions fuel extensions next
      else return (extensions, next)
    | left => return (extensions, left)

/-- Takes the attributes in front of a value. -/
def takeAttributes :
    (fuel : Nat) → Extensions → List Char → Option (Extensions × List Char)
  | 0, _, _ => none
  | fuel + 1, extensions, text =>
    if text.head? = some '#' then do
      let rest ← afterParts? ["#", "!", "[", "enable", "("] text
      let (extensions, rest) ←
        takeExtensions (rest.length + 1) extensions rest
      takeAttributes fuel extensions (← afterParts? [")", "]"] rest)
    else some (extensions, text)

/-! ## Values -/

/-- How one value is taken. -/
abbrev Taking := List Char → Option (Json × List Char)

/-- Takes the rest of parts that are separated by commas. -/
def takeParts
    {α : Type}
    (closing : Char)
    (takeOne : List Char → Option (α × List Char)) :
    (fuel : Nat) → List Char → Option (List α × List Char)
  | 0, _ => none
  | fuel + 1, text =>
    let written := afterGap text
    if written.head? = some closing then some ([], written.drop 1)
    else do
      let (part, rest) ← takeOne written
      match afterGap rest with
      | ',' :: next =>
        let (parts, left) ← takeParts closing takeOne fuel next
        return (part :: parts, left)
      | first :: left => if first = closing then some ([part], left) else none
      | [] => none

/-- Takes a name or a key with its value. -/
def takeEntry
    (takeKey : List Char → Option (String × List Char))
    (takeOne : Taking)
    (text : List Char) :
    Option ((String × Json) × List Char) := do
  let (name, rest) ← takeKey text
  match afterGap rest with
  | ':' :: rest =>
    let (value, left) ← takeOne (afterGap rest)
    return ((name, value), left)
  | _ => none

/-- Whether a name with a colon behind it is in front of a text. -/
def isField (text : List Char) : Bool :=
  (takeName (afterGap text)).any fun taken =>
    (afterGap taken.2).head? == some ':'

/-- Takes the rest of a record or a tuple. -/
def takeRecord (takeOne : Taking) (text : List Char) :
    Option (Json × List Char) :=
  let fuel := text.length + 1
  if isField text then
    (takeParts ')' (takeEntry takeName takeOne) fuel text).map
      fun (fields, left) => (.object fields, left)
  else
    (takeParts ')' takeOne fuel text).map fun (items, left) =>
      (.array items, left)

/-- Takes what brackets hold. -/
def takeBrackets (takeOne : Taking) : Taking
  | '(' :: ')' :: rest => some (.null, rest)
  | '(' :: rest => takeRecord takeOne rest
  | '[' :: rest =>
    (takeParts ']' takeOne (rest.length + 1) rest).map fun (items, left) =>
      (.array items, left)
  | '\x7b' :: rest =>
    (takeParts '\x7d' (takeEntry takeText takeOne) (rest.length + 1) rest).map
      fun (fields, left) => (.object fields, left)
  | _ => none

/-- Takes the rest of a value that may be missing and is not. -/
def takeSome (extensions : Extensions) (takeInside : Taking) : Taking :=
  fun text =>
    match afterGap text with
    | '(' :: rest => do
      let (value, rest) ← takeInside (afterGap rest)
      match afterGap rest with
      | ',' :: rest => return (value, ← afterParts? [")"] (afterGap rest))
      | rest => return (value, ← afterParts? [")"] rest)
    | rest => if extensions.implicitSome then takeInside rest else none

/-- Takes a value that is no word. -/
def takeOther (takeOne : Option Taking) (text : List Char) :
    Option (Json × List Char) :=
  match takeName text with
  | some (_, rest) =>
    match afterGap rest with
    | '(' :: rest => takeOne.bind fun takeOne => takeRecord takeOne rest
    | left => some (.null, left)
  | none =>
    if text.head?.any "([\x7b".toList.contains then
      takeOne.bind fun takeOne => takeBrackets takeOne text
    else
      match takeText text with
      | some (read, left) => some (.string read, left)
      | none => takeNumber text

/--
Takes a value. What `Some` holds is taken by `takeInside`, and the parts of
what stands in other brackets by `takeOne`, where there may be some.
-/
def takeWritten
    (extensions : Extensions)
    (takeInside takeOne : Option Taking)
    (text : List Char) :
    Option (Json × List Char) :=
  match takeWord text with
  | some taken => some taken
  | none =>
    match afterWord? "Some" text with
    | some rest =>
      takeInside.bind fun takeInside => takeSome extensions takeInside rest
    | none => takeOther takeOne text

/-- Takes a value that is nested no more deeply than a depth. -/
def takeValue (extensions : Extensions) : (depth : Nat) → Taking
  | 0 => takeWritten extensions none none
  | 1 =>
    takeWritten extensions (some (takeValue extensions 0))
      (some fun _ => none)
  | depth + 2 =>
    takeWritten extensions (some (takeValue extensions (depth + 1)))
      (some (takeValue extensions depth))

/-- How deeply values may be nested. -/
def deepest : Nat := 128

/-- Reads a text that holds one value. -/
def readCharacters (text : List Char) : Option Json := do
  let (extensions, rest) ←
    takeAttributes (text.length + 1) ⟨false⟩ (afterGap text)
  let (value, rest) ← takeValue extensions deepest rest
  if (afterGap rest).isEmpty then some value else none

/-- Reads a text that holds one value. -/
def read? (text : String) : Option Json :=
  readCharacters text.toList

end MandateDesk.Ron
