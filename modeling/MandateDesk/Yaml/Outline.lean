import MandateDesk.Yaml.Token

/-!
# The outline of a text

While a text is divided into tokens, its outline is known up to a place: the
tokens in front of it, the columns of the lists and tables over lines that it
is in, and the brackets that it is in.

What turns out to be a key has been read as a value before. For each bracket,
and outside of all of them, there may be one place where a key may have begun;
the tokens that belong in front of it are put there once its colon is found.
-/

namespace MandateDesk.Yaml

/-- Where a key may have begun. -/
structure PossibleKey where
  /-- Whether it must turn out to be one. -/
  required : Bool
  /-- Number of tokens in front of it. -/
  number : Nat
  /-- Number of characters in front of it. -/
  index : Nat
  /-- Its line. -/
  line : Nat
  /-- Its column. -/
  column : Nat

/-- A level of indentation. -/
structure Level where
  /-- The column of the level around it. -/
  outer : Int
  /-- Whether a list or a table begins there. -/
  isBlock : Bool

/-- What is known of a text up to a place. -/
structure Outline where
  /-- The place. -/
  cursor : Cursor
  /-- The tokens in front of it. -/
  tokens : Array Token
  /-- Whether a key may begin here. -/
  keyAllowed : Bool
  /-- Where a key may have begun, within the innermost bracket. -/
  possibleKey : Option PossibleKey
  /-- The same within the brackets around it, innermost first. -/
  outerKeys : List (Option PossibleKey)
  /-- The column of the innermost level. -/
  indent : Int
  /-- The levels, innermost first. -/
  levels : List Level
  /-- Whether the last colon made a pair of its own, which goes on. -/
  inPair : Bool
  /-- Whether a table in brackets or a marked key was the last to begin. -/
  tableOpen : Bool
  /-- The place behind a quote or a bracket. -/
  adjacent : Nat

namespace Outline

/-- The outline at the beginning of a text. -/
def ofText (text : List Char) : Outline :=
  ⟨.ofText text, #[], true, none, [], -1, [], false, false, 0⟩

/-- Whether a place is within brackets. -/
def bracketed (outline : Outline) : Bool :=
  !outline.outerKeys.isEmpty

/-- The outline at another place. -/
def moved (cursor : Cursor) (outline : Outline) : Outline :=
  { outline with cursor := cursor }

/-- The outline with a further token. -/
def push (token : Token) (outline : Outline) : Outline :=
  { outline with tokens := outline.tokens.push token }

/-- The outline with a token behind a number of tokens. -/
def insert (number : Nat) (token : Token) (outline : Outline) : Outline :=
  { outline with
    tokens := outline.tokens.insertIdxIfInBounds number token }

/-- The outline where a key may begin or may not. -/
def allowing (allowed : Bool) (outline : Outline) : Outline :=
  { outline with keyAllowed := allowed }

/-! ## Levels -/

/-- The column, levels and number of ended blocks left of a column. -/
def endedLevels (column : Int) :
    Int → List Level → Int × List Level × Nat
  | indent, [] => (indent, [], 0)
  | indent, level :: rest =>
    if column < indent then
      let (left, levels, ended) := endedLevels column level.outer rest
      (left, levels, ended + level.isBlock.toNat)
    else (indent, level :: rest, 0)

/-- A column that is not left of the innermost level ends no level. -/
theorem endedLevels_of_le
    {column indent : Int}
    (reached : indent ≤ column)
    (levels : List Level) :
    endedLevels column indent levels = (indent, levels, 0) := by
  cases levels with
  | nil => rfl
  | cons level rest =>
    have inside : ¬ column < indent := Int.not_lt.mpr reached
    simp [endedLevels, inside]

/-- The outline after all levels beyond a column have ended. -/
def leftTo (column : Int) (outline : Outline) : Outline :=
  if outline.bracketed then outline
  else
    let (indent, levels, ended) :=
      endedLevels column outline.indent outline.levels
    { outline with
      indent := indent
      levels := levels
      tokens := outline.tokens ++ Array.replicate ended Token.lineEnd }

/-- The column and levels without those that are no blocks. -/
def blockLevels : Int → List Level → Int × List Level
  | indent, [] => (indent, [])
  | indent, level :: rest =>
    if level.isBlock then (indent, level :: rest)
    else blockLevels level.outer rest

/-- The outline without the innermost levels that are no blocks. -/
def withoutColumns (outline : Outline) : Outline :=
  let (indent, levels) := blockLevels outline.indent outline.levels
  { outline with indent := indent, levels := levels }

/-- The outline without an innermost level that is no block. -/
def withoutColumn (outline : Outline) : Outline :=
  match outline.levels with
  | ⟨outer, false⟩ :: rest => { outline with indent := outer, levels := rest }
  | _ => outline

/-- The outline whose innermost block has one more column in front of it. -/
def withColumn (outline : Outline) : Outline :=
  match outline.bracketed, outline.levels with
  | false, ⟨_, true⟩ :: _ =>
    { outline with
      indent := outline.indent + 1
      levels := ⟨outline.indent, false⟩ :: outline.levels }
  | _, _ => outline

/--
The outline in which a list or a table over lines begins at a column, if none
has begun there, behind a number of tokens.
-/
def entered (column number : Nat) (token : Token) (outline : Outline) :
    Outline :=
  if outline.bracketed then outline
  else
    let reached :=
      if outline.indent ≤ column then outline.withoutColumn else outline
    if reached.indent < column then
      { reached with
        indent := column
        levels := ⟨reached.indent, true⟩ :: reached.levels }.insert number
          token
    else reached

/-! ## Keys -/

/-- Whether what begins here has to be a key. -/
def requiresKey (outline : Outline) : Bool :=
  !outline.bracketed && outline.indent == outline.cursor.column &&
    outline.levels.head?.any Level.isBlock

/-- The outline that remembers a place where a key may have begun. -/
def withKey (outline : Outline) : Outline :=
  let cursor := outline.cursor
  if outline.keyAllowed then
    { outline with
      possibleKey :=
        some
          ⟨outline.requiresKey, outline.tokens.size, cursor.index,
            cursor.line, cursor.column⟩ }
  else outline

/-- The outline in which no key has begun, if none had to. -/
def withoutKey? (outline : Outline) : Option Outline :=
  if outline.possibleKey.any PossibleKey.required then none
  else some { outline with possibleKey := none }

/-- How many characters a key outside of brackets may have. -/
def longestKey : Nat := 1024

/-- Whether a key would be too long or would go over lines at a place. -/
def PossibleKey.isStale (cursor : Cursor) (key : PossibleKey) : Bool :=
  key.line < cursor.line || key.index + longestKey < cursor.index

/-- The outline without a key that can no longer be one. -/
def withoutStaleKey? (outline : Outline) : Option Outline :=
  if !outline.bracketed &&
      outline.possibleKey.any (PossibleKey.isStale outline.cursor) then
    outline.withoutKey?
  else some outline

/-! ## Brackets -/

/-- How many brackets a place may be in. -/
def deepestBracket : Nat := 255

/-- The outline within a further bracket. -/
def inBracket? (outline : Outline) : Option Outline :=
  if outline.outerKeys.length < deepestBracket then
    some
      { outline with
        possibleKey := none
        outerKeys := outline.possibleKey :: outline.outerKeys }
  else none

/-- The outline behind the innermost bracket. -/
def behindBracket (outline : Outline) : Outline :=
  match outline.outerKeys with
  | [] => outline
  | key :: rest => { outline with possibleKey := key, outerKeys := rest }

/--
Whether a colon makes a pair of its own. No colon does so once a table in
brackets has begun, not even behind that table, until such a pair ends.
-/
def startsPair (outline : Outline) : Bool :=
  outline.bracketed && !outline.tableOpen

/--
The outline after a pair of its own, if there is one. Only one is known at a
time, and it may end within brackets that have begun since.
-/
def afterPair (outline : Outline) : Outline :=
  if outline.inPair then
    { outline with inPair := false, tableOpen := false }.push .closeTable
  else outline

end Outline

end MandateDesk.Yaml
