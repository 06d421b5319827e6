import MandateDesk.Fault
import MandateDesk.Store.Memory

/-!
# The store of a desk

A desk saves the positions that it changes. Its store may fail, and a failed
save leaves the store as it is.
-/

namespace MandateDesk

/-- A store whose saves may fail, with the positions that it holds. -/
structure Store where
  /-- What has been saved. -/
  memory : MemoryStore
  /-- Whether saves fail. -/
  isFailing : Bool

namespace Store

/-- A store that works. -/
def working (memory : MemoryStore) : Store :=
  ⟨memory, false⟩

/-- Saves a position. -/
def save (store : Store) (position : Position) : Except Fault Store :=
  if store.isFailing then .error .persistence
  else .ok { store with memory := store.memory.save position }

theorem save_working
    (memory : MemoryStore)
    (position : Position) :
    (working memory).save position =
      .ok (working (memory.save position)) :=
  rfl

end Store

end MandateDesk
