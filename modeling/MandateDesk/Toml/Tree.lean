import MandateDesk.Json.Value

/-!
# The tree of a document

A document is a tree of tables that grows statement by statement. A table is
opened by a header of its own, lies on the way to such a table, or is opened
by a dotted key; each of these may be extended in its own way and not in the
others. What is a finished value is never extended.

`within` is the one way to a table. `opened`, `appended` and `assigned` are
the three kinds of statements.
-/

namespace MandateDesk.Toml

/-- How a table came to be. -/
inductive TableKind where
  /-- It has a header of its own. -/
  | headed
  /-- It lies on the way to a table with a header. -/
  | passed
  /-- It was opened by a dotted key. -/
  | dotted
deriving DecidableEq

/-- What a name stands for. -/
inductive Item where
  /-- A finished value. -/
  | value (value : Json)
  /-- A table. -/
  | table (kind : TableKind) (entries : List (String × Item))
  /-- A list of tables: the last one and those in front of it, last first. -/
  | tables
      (last : List (String × Item))
      (earlier : List (List (String × Item)))

/-- The names of a table, in the order in which they were written. -/
abbrev Entries := List (String × Item)

/-- What a name stands for in a table. -/
def find? (name : String) (entries : Entries) : Option Item :=
  entries.lookup name

/-- A table in which a name stands for something else. -/
def replaced (name : String) (item : Item) (entries : Entries) : Entries :=
  entries.map fun entry => if entry.1 == name then (name, item) else entry

/--
Changes the table at the end of a path, where `dotted` says that the path is a
dotted key. Tables that are missing on the way are opened.
-/
def within
    (dotted : Bool)
    (change : TableKind → Entries → Option Entries) :
    (path : List String) → TableKind → Entries → Option Entries
  | [], kind, entries => change kind entries
  | name :: rest, _, entries =>
    match find? name entries with
    | none => do
      let kind := if dotted then TableKind.dotted else TableKind.passed
      let inner ← within dotted change rest kind []
      return entries ++ [(name, .table kind inner)]
    | some (.value _) => none
    | some (.tables last earlier) => do
      let inner ← within dotted change rest .headed last
      return replaced name (.tables inner earlier) entries
    | some (.table kind inner) =>
      if dotted = true ∧ kind = .headed then none
      else do
        let inner ← within dotted change rest kind inner
        return replaced name (.table kind inner) entries

/-- A table in which a name comes last and stands for something else. -/
def moved (name : String) (item : Item) (entries : Entries) : Entries :=
  (entries.filter fun entry => entry.1 != name) ++ [(name, item)]

/-- A name that is moved stands for what it is given. -/
theorem find?_moved
    (name : String)
    (item : Item)
    (entries : Entries) :
    find? name (moved name item entries) = some item := by
  have absent :
      (entries.filter fun entry => entry.1 != name).lookup name = none := by
    rw [List.lookup_eq_none_iff]
    intro entry member
    have other := (List.mem_filter.mp member).2
    simp only [bne_iff_ne, ne_eq] at other
    exact bne_iff_ne.mpr fun equal => other equal.symm
  simp [find?, moved, List.lookup_append, absent]

/-- Opens the table with a name, which then comes last. -/
def openTable (name : String) (_ : TableKind) (entries : Entries) :
    Option Entries :=
  match find? name entries with
  | none => some (entries ++ [(name, .table .headed [])])
  | some (.table .passed inner) =>
    some (moved name (.table .headed inner) entries)
  | some _ => none

/-- Appends a table to the list with a name. -/
def appendTable (name : String) (_ : TableKind) (entries : Entries) :
    Option Entries :=
  match find? name entries with
  | none => some (entries ++ [(name, .tables [] [])])
  | some (.tables last earlier) =>
    some (replaced name (.tables [] (last :: earlier)) entries)
  | some _ => none

/-- Gives a name a value; a dotted key must end in a table of its own kind. -/
def assign
    (isDotted : Bool)
    (name : String)
    (value : Json)
    (kind : TableKind)
    (entries : Entries) :
    Option Entries :=
  if isDotted ≠ (kind == .dotted) then none
  else
    match find? name entries with
    | none => some (entries ++ [(name, .value value)])
    | some _ => none

/-- The document after the header of a table. -/
def opened (path : List String) (entries : Entries) : Option Entries := do
  within false (openTable (← path.getLast?)) path.dropLast .headed entries

/-- The document after the header of a table in a list. -/
def appended (path : List String) (entries : Entries) : Option Entries := do
  within false (appendTable (← path.getLast?)) path.dropLast .headed entries

/-- The table after a key with its value. -/
def assignedIn
    (key : List String)
    (value : Json)
    (kind : TableKind)
    (entries : Entries) :
    Option Entries := do
  let way := key.dropLast
  within true (assign (!way.isEmpty) (← key.getLast?) value) way kind entries

/-- The document after a key with its value, below the header of a table. -/
def assigned
    (header key : List String)
    (value : Json)
    (entries : Entries) :
    Option Entries :=
  within false (assignedIn key value) header .headed entries

mutual

/-- The value that a tree stands for. -/
def Item.toJson : Item → Json
  | .value value => value
  | .table _ entries => .object (entriesToJson entries)
  | .tables last earlier =>
    .array ((tablesToJson earlier).reverse ++ [.object (entriesToJson last)])

/-- The values that the names of a table stand for. -/
def entriesToJson : List (String × Item) → List (String × Json)
  | [] => []
  | (name, item) :: rest => (name, item.toJson) :: entriesToJson rest

/-- The values that tables stand for. -/
def tablesToJson : List (List (String × Item)) → List Json
  | [] => []
  | entries :: rest => .object (entriesToJson entries) :: tablesToJson rest

end

end MandateDesk.Toml
