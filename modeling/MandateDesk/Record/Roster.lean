import MandateDesk.Fault

/-!
# Rosters of dispatches

Dispatches may be called `d1`, `d2` and so on in the order in which they are
first mentioned. A roster lists those that were mentioned so far.
-/

namespace MandateDesk

/-- The dispatches that a dispatch mentions: itself, and one to be cancelled. -/
def Venue.Dispatch.mentions (dispatch : Dispatch) : List DispatchId :=
  match dispatch.order with
  | .cancelEntry target => [dispatch.id, target]
  | _ => [dispatch.id]

/-- The dispatches that were mentioned, in the order of their first mention. -/
structure Roster where
  /-- The dispatches, without repetition. -/
  known : List DispatchId
  /-- No dispatch is listed twice. -/
  distinct : known.Nodup

namespace Roster

/-- Nothing was mentioned yet. -/
def empty : Roster :=
  ⟨[], List.nodup_nil⟩

/-- Mentions a dispatch. -/
def mention (roster : Roster) (id : DispatchId) : Roster :=
  if present : id ∈ roster.known then roster
  else
    ⟨roster.known ++ [id], by
      rw [List.nodup_append]
      refine ⟨roster.distinct, by simp, ?_⟩
      intro first member second single same
      rw [List.mem_singleton.mp single] at same
      exact present (same ▸ member)⟩

/-- Mentions dispatches one after another. -/
def mentionAll (roster : Roster) (ids : List DispatchId) : Roster :=
  ids.foldl mention roster

/-- The name of a dispatch by its place. -/
def nameAt (place : Nat) : String :=
  "d" ++ Text.decimalText (place + 1)

/-- Dispatches that were mentioned are called by their place. -/
def naming (roster : Roster) : Naming :=
  { Naming.plain with dispatch := fun id =>
      match roster.known.idxOf? id with
      | some place => nameAt place
      | none => Naming.plain.dispatch id }

/-- The dispatch with a name. -/
def named? (roster : Roster) (name : String) : Option DispatchId :=
  roster.known.find? fun id => roster.naming.dispatch id == name

theorem mem_mention
    (roster : Roster)
    (id : DispatchId) :
    id ∈ (roster.mention id).known := by
  unfold mention
  split
  · assumption
  · simp

end Roster

end MandateDesk
