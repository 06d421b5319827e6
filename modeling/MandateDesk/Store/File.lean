import MandateDesk.Fault
import MandateDesk.Json.Printer
import MandateDesk.Json.Selection
import MandateDesk.Store.Memory
import MandateDesk.Record.Position

/-!
# The store in a file

A file store keeps all saved positions in memory and writes them to its file
on every save, as a list of records in symbol order. It is opened with what
its file holds: a file that is absent or empty holds nothing.
-/

namespace MandateDesk

/-- A store with the text of its file. -/
structure FileStore where
  /-- The saved positions. -/
  cache : Positions
  /-- The text of the file, if there is one. -/
  file : Option String

namespace FileStore

/-- The text of a file with positions. -/
def written (positions : List Position) : String :=
  (Json.array (positions.map Position.record)).indented

/-- Reads the positions that a file holds. -/
def readText (text : String) : Option (List Position) :=
  if text.isEmpty then some []
  else
    (Json.readRecords Position.partNames text).bind fun records =>
      records.mapM Position.ofRecord?

/-- Reads the positions of a file that may be absent. -/
def readFile : Option String → Option (List Position)
  | none => some []
  | some text => readText text

/-- Opens a store with the text of its file. -/
def openFile (file : Option String) : Except Fault FileStore :=
  match readFile file with
  | none => .error .persistence
  | some positions =>
    .ok ⟨OrderedMap.indexed Position.symbol positions, file⟩

/-- Closes a store and opens it again. -/
def reopen (store : FileStore) : Except Fault FileStore :=
  openFile store.file

/-- The saved positions, in symbol order. -/
def loadAll (store : FileStore) : List Position :=
  store.cache.values

/-- Saves a position and writes the file. -/
def save (store : FileStore) (position : Position) : FileStore :=
  let cache := store.cache.insert position.symbol position
  ⟨cache, some (written cache.values)⟩

/-- A store behind whose back the file was written. -/
def overwritten (store : FileStore) (text : String) : FileStore :=
  { store with file := some text }

end FileStore

end MandateDesk
