import MandateDesk.Yaml.Block
import MandateDesk.Yaml.Outline
import MandateDesk.Yaml.Plain
import MandateDesk.Yaml.Quoted

/-!
# The tokens of a text

Each function of this module goes over one part of a text and adds its tokens
to the outline; `tokens?` goes over all of them. What kind of part it is, the
next characters tell, together with the column and the brackets around.
-/

namespace MandateDesk.Yaml

namespace Outline

/-! ## Gaps -/

/--
The outline in front of the next part. A tab in front of the column of a block
must not have anything but a comment behind it on its line.
-/
def skipGaps : (fuel : Nat) → Outline → Option Outline
  | 0, _ => none
  | fuel + 1, outline =>
    let cursor := outline.cursor
    if cursor.head = '\t' ∧ outline.levels.isEmpty = false ∧
        cursor.leading = true ∧ (cursor.column : Int) < outline.indent then do
      skipGaps fuel (outline.moved (← cursor.atLineEnd?))
    else if isBlank cursor.head then
      skipGaps fuel (outline.moved cursor.step)
    else if isBreak cursor.head then
      let next := outline.moved cursor.afterBreak
      skipGaps fuel (if outline.bracketed then next else next.allowing true)
    else if cursor.head = '#' then
      skipGaps fuel (outline.moved cursor.lineEnd)
    else some outline

/-- The outline in front of the next part. -/
def afterGaps? (outline : Outline) : Option Outline :=
  outline.skipGaps (outline.cursor.rest.length + 1)

/-! ## Documents -/

/-- The outline outside of all levels, where no key begins. -/
def outside? (outline : Outline) : Option Outline :=
  ((outline.leftTo (-1)).withoutKey?).map (allowing false)

/-- Goes over the mark in front of a document. -/
def startDocument? (outline : Outline) : Option Outline := do
  let outside ← outline.outside?
  return (outside.moved (outside.cursor.steps 3)).push .documentStart

/-- Goes over the mark behind a document, which has its line for itself. -/
def endDocument? (outline : Outline) : Option Outline := do
  let outside ← outline.outside?
  let behind ← (outside.cursor.steps 3).atLineEnd?
  return (outside.moved behind).push .documentEnd

/-- Goes over a directive. -/
def directive? (outline : Outline) : Option Outline := do
  let outside ← outline.outside?
  let (directive, behind) ← takeDirective outside.cursor
  return (outside.moved behind).push (.directive directive)

/-! ## Brackets -/

/-- Goes over an opening bracket. -/
def openBracket? (token : Token) (isList : Bool) (outline : Outline) :
    Option Outline := do
  let inside ← outline.withKey.withColumn.inBracket?
  let behind ← inside.cursor.step.afterGap?
  let opened := ((inside.allowing true).moved behind).push token
  return if isList then opened else { opened with tableOpen := true }

/-- The outline where a colon needs no blank in front of what follows it. -/
def adjacentHere (outline : Outline) : Outline :=
  { outline with adjacent := outline.cursor.index }

/-- Goes over a closing bracket. -/
def closeBracket? (token : Token) (isList : Bool) (outline : Outline) :
    Option Outline := do
  let outside := (← outline.withoutKey?).behindBracket.allowing false
  let ended := if isList then outside.afterPair else outside
  let behind ← ended.cursor.step.afterGap?
  let closed := (ended.moved behind).push token
  return if closed.bracketed then closed.adjacentHere else closed

/-- Goes over a comma. -/
def comma? (outline : Outline) : Option Outline := do
  let ended := ((← outline.withoutKey?).allowing true).afterPair
  return (ended.moved (← ended.cursor.step.afterGap?)).push .comma

/-! ## Items, keys and values -/

/-- Goes over the dash of an item. -/
def dash? (outline : Outline) : Option Outline :=
  if outline.bracketed || !outline.keyAllowed then none
  else do
    let cursor := outline.cursor
    let entered := outline.entered cursor.column outline.tokens.size .lineList
    let (blanks, behind) ← cursor.step.takeGap
    if blanks.contains '\t' && behind.head == '-' && endsWord behind.next then
      none
    else
      let isDeeper := isBreak behind.head || isBracket behind.head
      let reached := entered.moved behind
      let kept ←
        (if isDeeper then reached.withColumn else reached).withoutKey?
      return (kept.allowing true).push .dash

/-- The place behind spaces, comments and ends of lines. -/
def overKeyGap : (fuel : Nat) → Cursor → Cursor
  | 0, cursor => cursor
  | fuel + 1, cursor =>
    if cursor.head = ' ' then overKeyGap fuel cursor.step
    else if isBreak cursor.head then overKeyGap fuel cursor.afterBreak
    else if cursor.head = '#' then overKeyGap fuel cursor.lineEnd
    else cursor

/-- Goes over the mark of a key, behind which there must be no tab. -/
def key? (outline : Outline) : Option Outline := do
  let cursor := outline.cursor
  let isLine := !outline.bracketed
  let behind := cursor.step
  let left := overKeyGap (behind.rest.length + 1) behind
  let isApart := behind.head == ' ' || isBreak behind.head
  if (isLine && !outline.keyAllowed) || !isApart || left.head == '\t' then
    none
  else
    let started :=
      if isLine then
        outline.entered cursor.column outline.tokens.size .lineTable
      else { outline with tableOpen := true }
    let kept := (← started.withoutKey?).allowing isLine
    return (kept.moved left).push .key

/--
The place behind the colon of a value and a tab with what follows it. Where
there are only tabs, no word may follow.
-/
def overColon? (cursor : Cursor) : Option Cursor :=
  if cursor.next = '\t' then do
    let (blanks, behind) ← cursor.step.takeGap
    if !blanks.contains ' ' && isHandleCharacter behind.head then none
    else some behind
  else some cursor.step

/-- Marks a key that has already been read. -/
def markKey? (isPair : Bool) (line : Nat) (key : PossibleKey)
    (outline : Outline) : Option Outline :=
  if isPair && key.line < line then none
  else
    let marked := outline.insert key.number .key
    let paired := if isPair then marked.insert key.number .openTable else marked
    let entered := paired.entered key.column key.number .lineTable
    some ({ entered.withColumn with possibleKey := none }.allowing false)

/-- Begins a value whose key has been marked before or is missing. -/
def beginValue? (isPair : Bool) (column : Nat) (outline : Outline) :
    Option Outline :=
  let paired := if isPair then outline.push .openTable else outline
  if outline.bracketed then some (paired.withColumn.allowing false)
  else if !outline.keyAllowed then none
  else
    let entered := paired.entered column paired.tokens.size .lineTable
    some (entered.withColumn.allowing true)

/-- Goes over the colon of a value. -/
def value? (outline : Outline) : Option Outline := do
  let cursor := outline.cursor
  let isPair := outline.startsPair
  let reached :=
    { outline with inPair := isPair }.moved (← overColon? cursor)
  let begun ←
    match outline.possibleKey with
    | some key => reached.markKey? isPair cursor.line key
    | none => reached.beginValue? isPair cursor.column
  return begun.push .value

/-! ## Properties and scalars -/

/-- The outline that remembers a key, behind which no other one begins. -/
def started (outline : Outline) : Outline :=
  outline.withKey.allowing false

/-- Goes over the name of a value. -/
def name? (token : String → Token) (outline : Outline) : Option Outline := do
  let (name, behind) ← takeName outline.cursor
  return (outline.started.moved behind).push (token name)

/-- Goes over a tag. -/
def tag? (outline : Outline) : Option Outline := do
  let (tag, behind) ← takeTag outline.bracketed outline.cursor
  return (outline.started.moved behind).push (.tag tag)

/-- Goes over a scalar of lines, behind which a key may begin. -/
def block? (isLiteral : Bool) (outline : Outline) : Option Outline := do
  let kept := (outline.withKey.allowing true).withoutColumns
  let (text, behind) ← takeBlock isLiteral kept.indent kept.cursor
  return (kept.moved behind).push (.scalar false (String.ofList text))

/-- Whether a character may follow a scalar between quotes. -/
def mayFollow (sameLine bracketed : Bool) (character : Char) : Bool :=
  endsLine character || (character == ':' && (bracketed || sameLine)) ||
    (bracketed && ",]\x7d".toList.contains character)

/-- Goes over a scalar between quotes. -/
def quoted? (quote : Char) (outline : Outline) : Option Outline := do
  let kept := outline.started
  let cursor := kept.cursor
  let (text, behind) ←
    takeQuoted quote kept.indent (cursor.rest.length + 1) cursor.step
  let left ← behind.afterGap?
  if mayFollow (left.line == cursor.line) kept.bracketed left.head then
    let next ← (kept.moved left).afterGaps?
    return next.adjacentHere.push (.scalar false (String.ofList text))
  else none

/-- Goes over a plain scalar. -/
def plain? (outline : Outline) : Option Outline := do
  let kept := outline.started.withoutColumns
  let cursor := kept.cursor
  let indent := kept.indent + 1
  if kept.bracketed && (cursor.column : Int) < indent then none
  else
    let (text, behind) ←
      takePlain kept.bracketed indent (cursor.rest.length + 1) .empty cursor
    let read := (kept.moved behind).push (.scalar true (String.ofList text))
    return if behind.leading then read.allowing true else read

/-! ## Parts -/

/-- Whether the colon at a place is in front of a value. -/
def isAtValue (outline : Outline) : Bool :=
  let cursor := outline.cursor
  endsWord cursor.next ||
    (outline.bracketed &&
      (isBracket cursor.next || cursor.index == outline.adjacent))

/-- Goes over the part that the next characters begin. -/
def part? (outline : Outline) : Option Outline :=
  let cursor := outline.cursor
  let isAlone := endsWord cursor.next
  let isLine := !outline.bracketed
  match cursor.head with
  | '[' => outline.openBracket? .openList true
  | '\x7b' => outline.openBracket? .openTable false
  | ']' => outline.closeBracket? .closeList true
  | '\x7d' => outline.closeBracket? .closeTable false
  | ',' => outline.comma?
  | '-' => if isAlone then outline.dash? else outline.plain?
  | '?' => if isAlone then outline.key? else outline.plain?
  | ':' => if outline.isAtValue then outline.value? else outline.plain?
  | '*' => outline.name? .reference
  | '&' => outline.name? .anchor
  | '!' => outline.tag?
  | '|' => if isLine then outline.block? true else outline.plain?
  | '>' => if isLine then outline.block? false else outline.plain?
  | '\'' => outline.quoted? '\''
  | '"' => outline.quoted? '"'
  | '%' => none
  | '@' => none
  | '\x60' => none
  | _ => outline.plain?

/-- Goes over the next part. -/
def advanced? (outline : Outline) : Option Outline :=
  let cursor := outline.cursor
  if cursor.column = 0 ∧ cursor.head = '%' then outline.directive?
  else if cursor.isAt "---" then outline.startDocument?
  else if cursor.isAt "..." then outline.endDocument?
  else if (cursor.column : Int) < outline.indent then none
  else outline.part?

/-- The tokens of a whole text whose end is at a place. -/
def finished? (outline : Outline) : Option (Array Token) :=
  outline.outside?.map fun outside => (outside.push .done).tokens

/-- Goes over parts up to the end of the text. -/
def read : (fuel : Nat) → Outline → Option (Array Token)
  | 0, _ => none
  | fuel + 1, outline => do
    let reached ← (← outline.afterGaps?).withoutStaleKey?
    let entered := reached.leftTo reached.cursor.column
    if entered.cursor.isDone then entered.finished?
    else read fuel (← entered.advanced?)

end Outline

/-- The tokens of a text. -/
def tokens? (text : List Char) : Option (List Token) :=
  ((Outline.ofText text).read (text.length + 2)).map Array.toList

example : (tokens? "a: 'b' # c\n".toList).map List.length = some 7 := by
  decide +kernel

end MandateDesk.Yaml
