import MandateDesk.Text.Invisible

/-!
# Quoted text

A quoted text stands between double quotes. A quote, a backslash and the
control characters that have a letter of their own are written with a
backslash; any other character that has no visible form of its own is written
by its code point in hexadecimal, between braces.
-/

namespace MandateDesk.Text

/-- Digits of a number in lower-case hexadecimal. -/
def hexadecimal (number : Nat) : List Char :=
  Nat.toDigits 16 number

/-- The form of one character inside double quotes. -/
def quotedCharacter (character : Char) : List Char :=
  if character = '"' then ['\\', '"']
  else if character = '\\' then ['\\', '\\']
  else if character = '\n' then ['\\', 'n']
  else if character = '\r' then ['\\', 'r']
  else if character = '\t' then ['\\', 't']
  else if character = '\x00' then ['\\', '0']
  else if isInvisible character then
    ['\\', 'u', '\x7b'] ++ hexadecimal character.toNat ++ ['\x7d']
  else [character]

/-- A text between double quotes. -/
def quoted (text : String) : String :=
  "\"" ++ String.ofList (text.toList.flatMap quotedCharacter) ++ "\""

example : quoted "q\"u\\o\nte" = "\"q\\\"u\\\\o\\nte\"" := by decide

end MandateDesk.Text
