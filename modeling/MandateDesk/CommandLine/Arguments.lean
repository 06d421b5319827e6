/-!
# Arguments

Arguments are options, flags and words. An option has a long name, which is
written behind two hyphens, and may have a letter, which is written behind
one; its value follows as the next argument or is attached to it. Behind two
hyphens alone everything is a word.

Arguments are scanned one after another up to the first word that is no value.
The value of an option is checked when the next known option or flag is met,
or at the end.
-/

namespace MandateDesk.CommandLine

/-- Why arguments are not understood, or not meant to be. -/
inductive Problem where
  /-- Help is asked for. -/
  | help
  /-- There are no arguments where some are needed. -/
  | helpWithoutArguments
  /-- The version is asked for. -/
  | version
  /-- An option or a word is not known. -/
  | unknownArgument
  /-- A command is not known. -/
  | unknownCommand
  /-- There is no command. -/
  | missingCommand
  /-- An option has no value. -/
  | missingValue
  /-- The value of an option has not the right form. -/
  | badValue
  /-- An option is given more than once. -/
  | repeated
  /-- A flag is given a value. -/
  | unexpectedValue
  /-- An option that is needed is not given. -/
  | missingOption
deriving DecidableEq

/-- An option. -/
structure OptionSpec where
  /-- Its long name. -/
  name : String
  /-- Its letter. -/
  letter : Option Char
  /-- What is wrong with a value. -/
  problem? : String → Option Problem
  /-- Whether it may be given more than once. -/
  repeats : Bool

/-- The options and flags that are understood; help always is. -/
structure Grammar where
  /-- The options. -/
  options : List OptionSpec
  /-- Whether the version can be asked for. -/
  hasVersion : Bool

/-- What an argument is. -/
inductive Argument where
  /-- Two hyphens alone. -/
  | mark
  /-- A long name, with an attached value if there is one. -/
  | long (name : List Char) (value : Option (List Char))
  /-- Letters behind a hyphen. -/
  | letters (letters : List Char)
  /-- Anything else. -/
  | word (text : List Char)

/-- What follows an equals sign, if there is one. -/
def attached? (text : List Char) : Option (List Char) :=
  match text.dropWhile fun character => character != '=' with
  | [] => none
  | _ :: value => some value

/-- What the text of an argument is. -/
def Argument.ofCharacters : List Char → Argument
  | ['-', '-'] => mark
  | '-' :: '-' :: rest =>
    long (rest.takeWhile fun character => character != '=') (attached? rest)
  | '-' :: first :: rest => letters (first :: rest)
  | other => word other

/-- How far arguments are scanned. -/
structure Scan where
  /-- The values that have been checked, with the names of their options. -/
  values : List (String × String)
  /-- The last option, with its value if it has been met. -/
  pending : Option (OptionSpec × Option String)

namespace Scan

/-- Nothing scanned yet. -/
def start : Scan :=
  ⟨[], none⟩

/-- The first value of an option. -/
def value? (scan : Scan) (name : String) : Option String :=
  scan.values.lookup name

/-- All values of an option. -/
def valuesOf (scan : Scan) (name : String) : List String :=
  (scan.values.filter fun entry => entry.1 == name).map Prod.snd

/-- Checks the value of an option and keeps it. -/
def keep
    (scan : Scan)
    (spec : OptionSpec)
    (value : String) :
    Except Problem Scan :=
  if (scan.value? spec.name).isSome && !spec.repeats then .error .repeated
  else
    match spec.problem? value with
    | some problem => .error problem
    | none => .ok ⟨scan.values ++ [(spec.name, value)], none⟩

/-- Checks the value of the last option. -/
def settle (scan : Scan) : Except Problem Scan :=
  match scan.pending with
  | none => .ok scan
  | some (_, none) => .error .missingValue
  | some (spec, some value) => keep { scan with pending := none } spec value

/-- Whether a word would be the value of the last option. -/
def awaitsValue (scan : Scan) : Option OptionSpec :=
  match scan.pending with
  | some (spec, none) => some spec
  | _ => none

/-- Meets an option, with an attached value if there is one. -/
def meet
    (scan : Scan)
    (spec : OptionSpec)
    (value : Option (List Char)) :
    Except Problem Scan := do
  let settled ← scan.settle
  match value with
  | some text => settled.keep spec (String.ofList text)
  | none => return { settled with pending := some (spec, none) }

/-- Meets a flag that ends the scan. -/
def meetFlag (scan : Scan) (problem : Problem) : Except Problem Scan := do
  let _ ← scan.settle
  .error problem

/-- Meets a long name. -/
def meetLong
    (grammar : Grammar)
    (scan : Scan)
    (name : List Char)
    (value : Option (List Char)) :
    Except Problem Scan :=
  match grammar.options.find? fun spec => spec.name.toList == name with
  | some spec => scan.meet spec value
  | none =>
    let flag :=
      if name = "help".toList then some Problem.help
      else if name = "version".toList ∧ grammar.hasVersion then
        some Problem.version
      else none
    match flag with
    | none => .error .unknownArgument
    | some problem =>
      if value.isSome then .error .unexpectedValue else scan.meetFlag problem

/-- The value that is attached to a letter. -/
def valueBehindLetter : List Char → Option (List Char)
  | [] => none
  | '=' :: rest => some rest
  | other => some other

/-- Meets the first of some letters; all others either follow from it or not. -/
def meetLetters
    (grammar : Grammar)
    (scan : Scan) :
    List Char → Except Problem Scan
  | [] => .error .unknownArgument
  | first :: rest =>
    match grammar.options.find? fun spec => spec.letter == some first with
    | some spec => scan.meet spec (valueBehindLetter rest)
    | none =>
      if first = 'h' then scan.meetFlag .help
      else if first = 'V' ∧ grammar.hasVersion then scan.meetFlag .version
      else .error .unknownArgument

end Scan

/-- Where a scan ends. -/
inductive Stop where
  /-- At the last argument. -/
  | finished
  /-- At a word that is no value, maybe behind two hyphens. -/
  | word (text : String) (rest : List String) (isBehindMark : Bool)

/-- Where a scan ends at two hyphens alone. -/
def stopAtMark : List String → Stop
  | [] => .finished
  | first :: rest => .word first rest true

/-- Goes on with a scan up to the first word that is no value. -/
def scanFrom
    (grammar : Grammar) :
    Scan → List String → Except Problem (Scan × Stop)
  | scan, [] => .ok (scan, .finished)
  | scan, first :: rest =>
    match Argument.ofCharacters first.toList with
    | .mark => .ok (scan, stopAtMark rest)
    | .long name value => do
      scanFrom grammar (← scan.meetLong grammar name value) rest
    | .letters letters => do
      scanFrom grammar (← scan.meetLetters grammar letters) rest
    | .word _ =>
      match scan.awaitsValue with
      | some spec =>
        scanFrom grammar { scan with pending := some (spec, some first) } rest
      | none => .ok (scan, .word first rest false)

/-- Scans arguments up to the first word that is no value. -/
def scan
    (grammar : Grammar)
    (arguments : List String) :
    Except Problem (Scan × Stop) :=
  scanFrom grammar .start arguments

/-- Scans arguments among which no word may stand on its own. -/
def scanAll
    (grammar : Grammar)
    (arguments : List String) :
    Except Problem Scan := do
  match ← scan grammar arguments with
  | (scanned, .finished) => scanned.settle
  | (_, .word ..) => .error .unknownArgument

end MandateDesk.CommandLine
