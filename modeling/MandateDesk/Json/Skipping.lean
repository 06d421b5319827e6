import MandateDesk.Json.Reader

/-!
# Skipping JSON values

A value that nobody asks for is skipped: what is left behind it is given, and
nothing of it is read. It must have the form of a value, but it need not have
a meaning: a number may be out of range, a text may hold half of a pair that
names a character, and values may be nested to any depth.
-/

namespace MandateDesk.Json

/-- What is left behind the closing quote of a text. -/
def afterString : List Char → Option (List Char)
  | '"' :: rest => some rest
  | '\\' :: 'u' :: a :: b :: c :: d :: rest =>
    if (hexWord? a b c d).isSome then afterString rest else none
  | '\\' :: letter :: rest =>
    if (escapeLetter? letter).isSome then afterString rest else none
  | first :: rest =>
    if first.toNat < 32 ∨ first = '\\' then none else afterString rest
  | [] => none

/-- What is left behind digits, of which there is at least one. -/
def afterDigits : List Char → Option (List Char)
  | [] => none
  | first :: rest =>
    if Text.isDigit first then some (rest.dropWhile Text.isDigit) else none

/-- What is left behind the count of an exponent. -/
def afterCount : List Char → Option (List Char)
  | '+' :: rest => afterDigits rest
  | '-' :: rest => afterDigits rest
  | other => afterDigits other

/-- What is left behind an exponent, if there is one. -/
def afterExponent : List Char → Option (List Char)
  | 'e' :: rest => afterCount rest
  | 'E' :: rest => afterCount rest
  | other => some other

/-- What is left behind a fraction and an exponent, as far as there are any. -/
def afterFraction : List Char → Option (List Char)
  | '.' :: rest => (afterDigits rest).bind afterExponent
  | other => afterExponent other

/-- What is left behind the magnitude of a number. -/
def afterMagnitude : List Char → Option (List Char)
  | '0' :: rest =>
    if (afterDigits rest).isSome then none else afterFraction rest
  | other => (afterDigits other).bind afterFraction

/-- What is left behind the rest of a list that has a further item. -/
def afterItems
    (afterOne : List Char → Option (List Char)) :
    (fuel : Nat) → List Char → Option (List Char)
  | 0, _ => none
  | fuel + 1, text => do
    match skipGap (← afterOne (skipGap text)) with
    | ']' :: left => some left
    | ',' :: left => afterItems afterOne fuel left
    | _ => none

/-- What is left behind the rest of an object that has a further field. -/
def afterFields
    (afterOne : List Char → Option (List Char)) :
    (fuel : Nat) → List Char → Option (List Char)
  | 0, _ => none
  | fuel + 1, text =>
    match skipGap text with
    | '"' :: rest => do
      match skipGap (← afterString rest) with
      | ':' :: rest =>
        match skipGap (← afterOne (skipGap rest)) with
        | '\x7d' :: left => some left
        | ',' :: left => afterFields afterOne fuel left
        | _ => none
      | _ => none
    | _ => none

/-- What is left behind a value that is nested less deeply than a depth. -/
def afterNested : (depth : Nat) → List Char → Option (List Char)
  | 0, _ => none
  | depth + 1, text =>
    match text with
    | 'n' :: rest => afterWord "ull".toList rest
    | 't' :: rest => afterWord "rue".toList rest
    | 'f' :: rest => afterWord "alse".toList rest
    | '"' :: rest => afterString rest
    | '[' :: rest =>
      match skipGap rest with
      | ']' :: left => some left
      | other => afterItems (afterNested depth) other.length other
    | '\x7b' :: rest =>
      match skipGap rest with
      | '\x7d' :: left => some left
      | other => afterFields (afterNested depth) other.length other
    | '-' :: rest => afterMagnitude rest
    | other => afterMagnitude other

/-- What is left behind a value. -/
def afterValue (text : List Char) : Option (List Char) :=
  afterNested (text.length + 1) text

end MandateDesk.Json
