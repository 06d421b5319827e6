import MandateDesk.Yaml.Folding

/-!
# Plain scalars

A plain scalar stands for itself. It ends at a comment and at a colon with a
blank behind it, and within brackets at a bracket or a comma as well. It may
go on in the next line if that is indented far enough.
-/

namespace MandateDesk.Yaml

/-- The word in front of a text. -/
def plainWord (bracketed : Bool) : List Char → List Char
  | [] => []
  | first :: rest =>
    let following := rest.headD nothing
    let isColon :=
      first == ':' &&
        (endsWord following || (bracketed && isBracket following))
    if endsWord first || isColon || (bracketed && isBracket first) then []
    else first :: plainWord bracketed rest

/--
The place behind a tab at the start of a line. In front of the column where
the scalar may go on, a tab must not have anything but a comment behind it.
-/
def overPlainTab (indent : Int) (cursor : Cursor) : Option Cursor :=
  if (cursor.column : Int) < indent then cursor.atLineEnd?
  else some cursor.step

/-- Takes a plain scalar, of whose lines all but the first are indented. -/
def takePlain (bracketed : Bool) (indent : Int) :
    (fuel : Nat) → Fold → Cursor → Option (List Char × Cursor)
  | 0, _, _ => none
  | fuel + 1, fold, cursor =>
    if cursor.isAtMark || cursor.head == '#' then some ([], cursor)
    else if bracketed && cursor.head == '-' && isBracket cursor.next then none
    else
      let word := plainWord bracketed cursor.rest
      let held := if word.isEmpty then [] else fold.text cursor ++ word
      let behind := cursor.steps word.length
      if isBlank behind.head || isBreak behind.head then do
        let (fold, left) ←
          Fold.take (overPlainTab indent) (behind.rest.length + 1) .empty
            behind
        if !bracketed && (left.column : Int) < indent then
          return (held, left)
        else
          let (read, left) ← takePlain bracketed indent fuel fold left
          return (held ++ read, left)
      else some (held, behind)

example : plainWord true "a:b, c".toList = "a:b".toList := by decide

end MandateDesk.Yaml
