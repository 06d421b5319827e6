import MandateDesk.Yaml.Tag

/-!
# Tokens

Tokens are the parts of a text from which its documents are read. Brackets and
commas stand in it; where lists and tables over lines begin and end is told by
how far its lines are indented.
-/

namespace MandateDesk.Yaml

/-- A part of a text. -/
inductive Token where
  /-- The end of the text. -/
  | done
  /-- A directive in front of a document. -/
  | directive (directive : Directive)
  /-- The mark in front of a document. -/
  | documentStart
  /-- The mark behind a document. -/
  | documentEnd
  /-- The beginning of a list over lines. -/
  | lineList
  /-- The beginning of a table over lines. -/
  | lineTable
  /-- The end of a list or a table over lines. -/
  | lineEnd
  /-- The dash in front of an item. -/
  | dash
  /-- The opening bracket of a list. -/
  | openList
  /-- The closing bracket of a list. -/
  | closeList
  /-- The opening bracket of a table. -/
  | openTable
  /-- The closing bracket of a table. -/
  | closeTable
  /-- A comma. -/
  | comma
  /-- What stands in front of a key. -/
  | key
  /-- What stands in front of the value of a key. -/
  | value
  /-- The name of a value that is meant. -/
  | reference (name : String)
  /-- The name of the value that follows. -/
  | anchor (name : String)
  /-- The tag of the value that follows. -/
  | tag (tag : Tag)
  /-- A scalar, which stands between quotes or over lines or is plain. -/
  | scalar (isPlain : Bool) (text : String)

end MandateDesk.Yaml
