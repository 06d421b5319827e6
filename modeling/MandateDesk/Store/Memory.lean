import MandateDesk.Position.Basic

/-!
# The store in memory

A store keeps the last saved position of each symbol and gives them back in
symbol order.
-/

namespace MandateDesk

/-- The saved positions. -/
structure MemoryStore where
  /-- The last saved position of each symbol. -/
  positions : Positions

namespace MemoryStore

/-- Nothing saved. -/
def empty : MemoryStore :=
  ⟨OrderedMap.empty⟩

instance : Inhabited MemoryStore :=
  ⟨empty⟩

/-- Saves a position in place of an earlier one of its symbol. -/
def save (store : MemoryStore) (position : Position) : MemoryStore :=
  ⟨store.positions.insert position.symbol position⟩

/-- A store into which positions were saved, one after another. -/
def ofList (positions : List Position) : MemoryStore :=
  positions.foldl save empty

/-- The saved positions, in symbol order. -/
def loadAll (store : MemoryStore) : List Position :=
  store.positions.values

/-- Number of saved positions. -/
def size (store : MemoryStore) : Nat :=
  store.positions.size

/-- Whether nothing was saved. -/
def isEmpty (store : MemoryStore) : Bool :=
  store.positions.isEmpty

@[simp]
theorem find?_save
    (store : MemoryStore)
    (position : Position)
    (symbol : Symbol) :
    (store.save position).positions.find? symbol =
      if symbol = position.symbol then some position
      else store.positions.find? symbol :=
  OrderedMap.find?_insert _ _ _ _

end MemoryStore

end MandateDesk
