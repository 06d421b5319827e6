import MandateDesk.Yaml.Node
import MandateDesk.Yaml.Tokens

/-!
# The tree of a document

A value is a scalar, a list or a table, with a tag and a name in front of it
in either order, or it refers to one with a name. A value that is missing is
nothing at all; one that has a tag or a name and is missing is empty.

`Reading` is what is left of the tokens, with the values that have names. A
name means the last value that was given it, also while that one is still
being read.
-/

namespace MandateDesk.Yaml

/-- Tokens, and what is known of those in front of them. -/
structure Reading where
  /-- The tokens. -/
  tokens : List Token
  /-- What handles stand for. -/
  handles : List (String × String)
  /-- Numbers of values by their names, latest first. -/
  names : List (String × Nat)
  /-- The values of numbers. -/
  nodes : List (Nat × Node)

/-- How one value is taken. -/
abbrev Taking := Reading → Option (Node × Reading)

/-- How one value or several are taken. -/
abbrev TakingMany := Reading → Option (List Node × Reading)

namespace Reading

/-- The reading in front of other tokens. -/
def moved (tokens : List Token) (reading : Reading) : Reading :=
  { reading with tokens := tokens }

/-- The reading behind one token. -/
def behind (reading : Reading) : Reading :=
  { reading with tokens := reading.tokens.drop 1 }

/-! ## Properties -/

/-- What stands in front of a value. -/
structure Properties where
  /-- The number of its name. -/
  number : Option Nat
  /-- Its tag. -/
  tag : Option Tag

/-- A tag with what its handle stands for. -/
def meant? (reading : Reading) (tag : Tag) : Option Tag :=
  match reading.handles.lookup tag.handle with
  | some meaning => some { tag with handle := meaning }
  | none =>
    if tag.handle = "!!" then some { tag with handle := knownHandle }
    else if isHandle tag.handle.toList then none
    else some tag

/-- The reading in which a name means the next value. -/
def named (name : String) (reading : Reading) : Nat × Reading :=
  let number := reading.names.length
  (number, { reading with names := (name, number) :: reading.names })

/-- Takes a name and a tag in front of a value. -/
def takeProperties (reading : Reading) : Option (Properties × Reading) :=
  match reading.tokens with
  | .anchor name :: .tag tag :: rest => do
    let (number, left) := reading.named name
    return (⟨some number, some (← reading.meant? tag)⟩, left.moved rest)
  | .tag tag :: .anchor name :: rest => do
    let (number, left) := reading.named name
    return (⟨some number, some (← reading.meant? tag)⟩, left.moved rest)
  | .anchor name :: rest =>
    let (number, left) := reading.named name
    some (⟨some number, none⟩, left.moved rest)
  | .tag tag :: rest => do
    return (⟨none, some (← reading.meant? tag)⟩, reading.moved rest)
  | _ => some (⟨none, none⟩, reading)

/-- The reading in which a value that has a name is known. -/
def known (properties : Properties) (node : Node) (reading : Reading) :
    Reading :=
  match properties.number with
  | some number =>
    { reading with nodes := (number, node) :: reading.nodes }
  | none => reading

/-- The value that a name means; there is none while it is being read. -/
def meantNode? (reading : Reading) (name : String) : Option Node := do
  let number ← reading.names.lookup name
  return (reading.nodes.lookup number).getD .absent

/-! ## Lists and tables over lines -/

/-- Takes a value, which is missing in front of some tokens. -/
def takeUnless (isMissing : Token → Bool) (takeOne : Taking) : Taking :=
  fun reading =>
    if reading.tokens.head?.any isMissing then some (.null, reading)
    else takeOne reading

/-- Whether an item that begins with a dash is missing in front of a token. -/
def endsItem : Token → Bool
  | .dash => true
  | .lineEnd => true
  | _ => false

/-- Whether a key or its value is missing in front of a token. -/
def endsField : Token → Bool
  | .key => true
  | .value => true
  | .lineEnd => true
  | _ => false

/-- Takes the items of a list over lines. -/
def takeLineItems (takeOne : Taking) : (fuel : Nat) → TakingMany
  | 0, _ => none
  | fuel + 1, reading =>
    match reading.tokens with
    | .lineEnd :: rest => some ([], reading.moved rest)
    | .dash :: rest => do
      let (item, next) ← takeUnless endsItem takeOne (reading.moved rest)
      let (items, left) ← takeLineItems takeOne fuel next
      return (item :: items, left)
    | _ => none

/-- Takes the items of a list whose dashes stand below a key. -/
def takeKeyItems (takeOne : Taking) : (fuel : Nat) → TakingMany
  | 0, _ => none
  | fuel + 1, reading =>
    match reading.tokens with
    | .dash :: rest => do
      let (item, next) ←
        takeUnless (fun token => endsItem token || endsField token) takeOne
          (reading.moved rest)
      let (items, left) ← takeKeyItems takeOne fuel next
      return (item :: items, left)
    | _ => some ([], reading)

/-- Takes the value of a key in a table over lines. -/
def takeLineValue (takeOne : Taking) : Taking :=
  fun reading =>
    match reading.tokens with
    | .value :: rest =>
      takeUnless endsField takeOne (reading.moved rest)
    | _ => some (.null, reading)

/-- Takes the keys and values of a table over lines in turn. -/
def takeLineFields (takeOne : Taking) : (fuel : Nat) → TakingMany
  | 0, _ => none
  | fuel + 1, reading =>
    match reading.tokens with
    | .lineEnd :: rest => some ([], reading.moved rest)
    | .key :: rest => do
      let (key, next) ← takeUnless endsField takeOne (reading.moved rest)
      let (value, next) ← takeLineValue takeOne next
      let (others, left) ← takeLineFields takeOne fuel next
      return (key :: value :: others, left)
    | .value :: _ => do
      let (value, next) ← takeLineValue takeOne reading
      let (others, left) ← takeLineFields takeOne fuel next
      return (.null :: value :: others, left)
    | _ => none

/-! ## Lists and tables in brackets -/

/-- The tokens behind the comma that is in front of all parts but the first. -/
def afterComma? (isFirst : Bool) (reading : Reading) : Option Reading :=
  if isFirst then some reading
  else
    match reading.tokens with
    | .comma :: rest => some (reading.moved rest)
    | _ => none

/-- Whether a value in a table is missing in front of a token. -/
def endsPart : Token → Bool
  | .comma => true
  | .closeTable => true
  | _ => false

/-- Takes the value of a key in brackets. -/
def takePartValue (endsPart : Token → Bool) (takeOne : Taking) : Taking :=
  fun reading =>
    match reading.tokens with
    | .value :: rest => takeUnless endsPart takeOne (reading.moved rest)
    | _ => some (.null, reading)

/-- Takes a key in brackets and its value. -/
def takePart (takeOne : Taking) : TakingMany :=
  fun reading =>
    match reading.tokens with
    | .key :: rest => do
      let isMissing (token : Token) : Bool :=
        match token with
        | .value => true
        | other => endsPart other
      let (key, next) ← takeUnless isMissing takeOne (reading.moved rest)
      let (value, left) ← takePartValue endsPart takeOne next
      return ([key, value], left)
    | .value :: _ => do
      let (value, left) ← takePartValue endsPart takeOne reading
      return ([.null, value], left)
    | _ => (takeOne reading).map fun (key, left) => ([key, .null], left)

/-- Takes the keys and values of a table in brackets in turn. -/
def takeParts (takeOne : Taking) : (fuel : Nat) → Bool → TakingMany
  | 0, _, _ => none
  | fuel + 1, isFirst, reading =>
    match reading.tokens with
    | .closeTable :: rest => some ([], reading.moved rest)
    | _ => do
      let next ← afterComma? isFirst reading
      match next.tokens with
      | .closeTable :: rest => return ([], next.moved rest)
      | _ =>
        let (part, next) ← takePart takeOne next
        let (others, left) ← takeParts takeOne fuel false next
        return (part ++ others, left)

/-- Whether a value in a pair is missing in front of a token. -/
def endsPair : Token → Bool
  | .comma => true
  | .closeList => true
  | _ => false

/-- Takes the key of a pair; the token where it is missing does not count. -/
def takePairKey (takeOne : Taking) : Taking :=
  fun reading =>
    match reading.tokens with
    | .value :: rest => some (.null, reading.moved rest)
    | token :: rest =>
      if endsPair token then some (.null, reading.moved rest)
      else takeOne reading
    | [] => none

/-- Takes an item of a list in brackets, which may be a pair. -/
def takeEntry (takeOne : Taking) : Taking :=
  fun reading =>
    match reading.tokens with
    | .key :: rest => do
      let (key, next) ← takePairKey takeOne (reading.moved rest)
      let (value, left) ← takePartValue endsPair takeOne next
      return (← Node.ofPairs? [key, value], left)
    | _ => takeOne reading

/-- Takes the items of a list in brackets. -/
def takeEntries (takeOne : Taking) : (fuel : Nat) → Bool → TakingMany
  | 0, _, _ => none
  | fuel + 1, isFirst, reading =>
    match reading.tokens with
    | .closeList :: rest => some ([], reading.moved rest)
    | _ => do
      let next ← afterComma? isFirst reading
      match next.tokens with
      | .closeList :: rest => return ([], next.moved rest)
      | _ =>
        let (item, next) ← takeEntry takeOne next
        let (others, left) ← takeEntries takeOne fuel false next
        return (item :: others, left)

/-! ## Values -/

/-- Where a value stands. -/
inductive Site where
  /-- Within brackets. -/
  | bracket
  /-- Within a list over lines, or outside of all. -/
  | line
  /-- Behind the mark of a key or its value in a table over lines. -/
  | field
deriving DecidableEq

/-- The list of items that have been taken. -/
def asList (taken : Option (List Node × Reading)) : Option (Node × Reading) :=
  taken.map fun (items, left) => (.list items, left)

/-- The table of keys and values that have been taken. -/
def asTable (taken : Option (List Node × Reading)) :
    Option (Node × Reading) := do
  let (nodes, left) ← taken
  return (← Node.ofPairs? nodes, left)

/-- Takes a list or a table over lines. -/
def takeLines (takeAt : Site → Taking) (site : Site) : Taking :=
  fun reading =>
    let fuel := reading.tokens.length + 1
    match site, reading.tokens with
    | .bracket, _ => none
    | .field, .dash :: _ =>
      asList (takeKeyItems (takeAt .line) fuel reading)
    | _, .lineList :: _ =>
      asList (takeLineItems (takeAt .line) fuel reading.behind)
    | _, .lineTable :: _ =>
      asTable (takeLineFields (takeAt .field) fuel reading.behind)
    | _, _ => none

/-- Takes a value behind its properties. -/
def takeContent (takeAt : Site → Taking) (site : Site)
    (properties : Properties) : Taking :=
  fun reading =>
    let fuel := reading.tokens.length + 1
    let isNamed := properties.number.isSome || properties.tag.isSome
    match reading.tokens with
    | .scalar isPlain text :: rest =>
      some (scalarNode isPlain properties.tag text, reading.moved rest)
    | .openList :: _ =>
      asList (takeEntries (takeAt .bracket) fuel true reading.behind)
    | .openTable :: _ =>
      asTable (takeParts (takeAt .bracket) fuel true reading.behind)
    | token :: _ =>
      let begins : Bool :=
        match token with
        | .dash => site == .field
        | .lineList => site != .bracket
        | .lineTable => site != .bracket
        | _ => false
      if begins then takeLines takeAt site reading
      else if isNamed then
        some (scalarNode true properties.tag "", reading)
      else none
    | [] => none

/-- Takes a value that is nested less deeply than a depth. -/
def takeNode : (depth : Nat) → Site → Taking
  | 0, _, _ => none
  | depth + 1, site, reading =>
    match reading.tokens with
    | .reference name :: rest => do
      return (← reading.meantNode? name, reading.moved rest)
    | _ => do
      let (properties, next) ← takeProperties reading
      let (node, left) ← takeContent (takeNode depth) site properties next
      return (node, left.known properties node)

/-! ## Documents -/

/-- The reading behind marks of the ends of documents. -/
def afterEnds (reading : Reading) : Reading :=
  let isEnd (token : Token) : Bool :=
    match token with
    | .documentEnd => true
    | _ => false
  reading.moved (reading.tokens.dropWhile isEnd)

/-- What handles stand for after the directives in front of a document. -/
def takeDirectives :
    (hasVersion : Bool) → List (String × String) → List Token →
      Option (List (String × String) × List Token)
  | hasVersion, _, .directive .version :: rest =>
    if hasVersion then none else takeDirectives true [] rest
  | hasVersion, _, .directive (.handle tag) :: rest =>
    takeDirectives hasVersion [(tag.handle, tag.suffix)] rest
  | _, handles, rest => some (handles, rest)

/-- Whether a document ends in front of a token. -/
def endsDocument : Token → Bool
  | .done => true
  | .directive _ => true
  | .documentStart => true
  | .documentEnd => true
  | _ => false

/-- Takes a document, which may begin with directives and a mark. -/
def takeDocument (reading : Reading) : Option (Node × Reading) := do
  let takeOne := takeNode (reading.tokens.length + 1) .line
  let (handles, rest) ← takeDirectives false [] reading.tokens
  match rest with
  | .documentStart :: rest =>
    takeUnless endsDocument takeOne
      { reading with handles := handles, tokens := rest }
  | _ =>
    if rest.length < reading.tokens.length then none else takeOne reading

/-- Whether no tokens are left. -/
def isDone (reading : Reading) : Bool :=
  match reading.tokens with
  | .done :: _ => true
  | _ => false

end Reading

/-- The value of the only document of tokens; without one it is empty. -/
def nodeOf? (tokens : List Token) : Option Node :=
  let reading := (Reading.mk tokens [] [] []).afterEnds
  if reading.isDone then some (.table [])
  else do
    let (node, left) ← reading.takeDocument
    if left.afterEnds.isDone then some node else none

example : (nodeOf? [.openList, .comma, .closeList, .done]).isNone := by
  decide +kernel

/-! ## Documents

A text is divided into tokens, a tree is read from these, and the tree has a
meaning. It holds one document at most, which must be a table.
-/

/-- Reads a document, in which names may be repeated. -/
def read? (text : String) : Option (List (String × Json)) := do
  let node ← nodeOf? (← tokens? text.toList)
  match ← node.toJson? with
  | .object fields => some fields
  | _ => none

end MandateDesk.Yaml
