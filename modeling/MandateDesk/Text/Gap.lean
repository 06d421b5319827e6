/-!
# Gaps

A gap between the parts of a value holds blanks and comments. A comment goes
to the end of its line behind two slashes, or over lines up to a star and a
slash. Which characters are blanks, which ones end a line and whether a
comment over lines may hold others is up to the form of the value.
-/

namespace MandateDesk.Text

/-- Whether a character ends a line. -/
def isLineEnd (character : Char) : Bool :=
  character == '\n' || character == '\r' || character == '\u2028' ||
    character == '\u2029'

/-- What gaps hold. -/
structure GapForm where
  /-- Whether a character is a blank. -/
  isBlank : Char → Bool
  /-- Whether a character ends a comment behind two slashes. -/
  endsComment : Char → Bool
  /-- Whether a comment over lines may hold others. -/
  nested : Bool

namespace GapForm

/-- What is left behind the ends of a comment and of those that hold it. -/
def afterComment? (form : GapForm) :
    (outer : Nat) → List Char → Option (List Char)
  | outer, '*' :: '/' :: rest =>
    match outer with
    | 0 => some rest
    | outer + 1 => form.afterComment? outer rest
  | outer, '/' :: '*' :: rest =>
    if form.nested then form.afterComment? (outer + 1) rest
    else form.afterComment? outer ('*' :: rest)
  | outer, _ :: rest => form.afterComment? outer rest
  | _, [] => none

/-- A text without as many blanks and comments in front of it. -/
def skipGaps (form : GapForm) : (fuel : Nat) → List Char → List Char
  | 0, text => text
  | fuel + 1, text =>
    match text.dropWhile form.isBlank with
    | '/' :: '/' :: rest =>
      form.skipGaps fuel
        (rest.dropWhile fun character => !form.endsComment character)
    | '/' :: '*' :: rest =>
      match form.afterComment? 0 rest with
      | some left => form.skipGaps fuel left
      | none => '/' :: '*' :: rest
    | other => other

/-- A text without blanks and comments in front of it. -/
def after (form : GapForm) (text : List Char) : List Char :=
  form.skipGaps (text.length + 1) text

end GapForm

example :
    (GapForm.mk (· == ' ') (· == '\n') true).after "/*/**/*/ // b\n1".toList =
      "\n1".toList := by
  decide

end MandateDesk.Text
