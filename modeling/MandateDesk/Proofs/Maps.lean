import Mathlib.Data.List.Induction
import MandateDesk.OrderedMap

/-!
# What is listed in a map

A map is determined by its look-ups: two maps that answer every key alike are
equal.  This module relates the lists that a map gives out — its keys, its
values, the maps built from a list — to the look-up, so that later modules
never open the entries of a map.
-/

namespace MandateDesk.OrderedMap

variable {κ α : Type} [Ord κ]

section Look

variable [Std.LawfulEqOrd κ] [DecidableEq κ]

/-- A value is listed exactly when it is found under some key. -/
theorem mem_values_iff
    (map : OrderedMap κ α)
    (value : α) :
    value ∈ map.values ↔ ∃ key, map.find? key = some value := by
  constructor
  · intro member
    rcases List.mem_map.mp member with ⟨⟨key, stored⟩, listed, same⟩
    cases same
    exact ⟨key, (map.mem_entries_iff key stored).mp listed⟩
  · rintro ⟨key, found⟩
    exact List.mem_map.mpr
      ⟨(key, value), (map.mem_entries_iff key value).mpr found, rfl⟩

/-- Where the values of a map carry their keys, these are the keys. -/
theorem map_values_eq_keys
    {map : OrderedMap κ α}
    {index : α → κ}
    (keyed : ∀ key value, map.find? key = some value → index value = key) :
    map.values.map index = map.keys := by
  unfold values keys
  rw [List.map_map]
  refine List.map_congr_left ?_
  rintro ⟨known, value⟩ member
  exact keyed known value ((map.mem_entries_iff known value).mp member)

theorem find?_filter
    (map : OrderedMap κ α)
    (test : κ → α → Bool)
    (key : κ) :
    (map.filter test).find? key = (map.find? key).filter (test key) := by
  apply Option.ext
  intro value
  rw [← mem_entries_iff, Option.filter_eq_some_iff, ← mem_entries_iff]
  exact List.mem_filter

end Look

/-- The keys of a map strictly increase. -/
theorem keys_pairwise
    (map : OrderedMap κ α) :
    map.keys.Pairwise fun first second => compare first second = .lt :=
  List.pairwise_map.mpr map.ordered

theorem keys_nodup
    [Std.LawfulEqOrd κ]
    (map : OrderedMap κ α) :
    map.keys.Nodup := by
  refine map.keys_pairwise.imp ?_
  intro first second before equal
  rw [equal] at before
  simp [Std.ReflCmp.compare_self] at before

theorem entries_nodup
    [Std.LawfulEqOrd κ]
    (map : OrderedMap κ α) :
    map.entries.Nodup :=
  List.Pairwise.of_map Prod.fst
    (fun _ _ apart equal => apart (congrArg Prod.fst equal)) map.keys_nodup

theorem sortedKeys_pairwise
    [Std.TransOrd κ]
    [Std.LawfulEqOrd κ]
    (keys : List κ) :
    (sortedKeys keys).Pairwise fun first second =>
      compare first second = .lt :=
  keys_pairwise _

section Built

variable [Std.TransOrd κ] [Std.LawfulEqOrd κ] [DecidableEq κ]

/-- A map is determined by its look-ups. -/
theorem eq_of_find?_eq
    {first second : OrderedMap κ α}
    (same : ∀ key, first.find? key = second.find? key) :
    first = second := by
  have members : first.entries.Perm second.entries := by
    refine (List.perm_ext_iff_of_nodup first.entries_nodup
      second.entries_nodup).mpr ?_
    rintro ⟨key, value⟩
    rw [mem_entries_iff, mem_entries_iff, same key]
  refine ext (members.eq_of_pairwise ?_ first.ordered second.ordered)
  rintro ⟨key, value⟩ ⟨other, another⟩ listed alsoListed before after
  have swapped : compare key other = .gt :=
    Std.OrientedCmp.gt_of_lt after
  rw [swapped] at before
  contradiction

/-- With a key that is new, one more entry is listed. -/
theorem perm_entries_insert
    {map : OrderedMap κ α}
    {key : κ}
    (absent : map.find? key = none)
    (value : α) :
    (map.insert key value).entries.Perm ((key, value) :: map.entries) := by
  have new : (key, value) ∉ map.entries := by
    rw [mem_entries_iff, absent]
    exact nofun
  refine (List.perm_ext_iff_of_nodup (entries_nodup _)
    (List.nodup_cons.mpr ⟨new, map.entries_nodup⟩)).mpr ?_
  rintro ⟨other, stored⟩
  rw [List.mem_cons, mem_entries_iff, find?_insert, mem_entries_iff,
    Prod.mk.injEq]
  by_cases same : other = key
  · subst same
    rw [if_pos rfl, absent]
    constructor
    · rintro ⟨⟩
      exact Or.inl ⟨rfl, rfl⟩
    · rintro (⟨_, rfl⟩ | found)
      · rfl
      · contradiction
  · rw [if_neg same]
    constructor
    · exact Or.inr
    · rintro (⟨equal, _⟩ | found)
      · exact absurd equal same
      · exact found

/-- Erasing a key that was new takes its entry away again. -/
theorem erase_insert
    {map : OrderedMap κ α}
    {key : κ}
    (absent : map.find? key = none)
    (value : α) :
    (map.insert key value).erase key = map := by
  refine eq_of_find?_eq fun other => ?_
  rw [find?_erase, find?_insert]
  by_cases same : other = key
  · rw [if_pos same, same, absent]
  · rw [if_neg same, if_neg same]

/-- Building a map from a list, on top of a map that is there already. -/
def insertAll
    (map : OrderedMap κ α)
    (entries : List (κ × α)) :
    OrderedMap κ α :=
  entries.foldl (fun known entry => known.insert entry.1 entry.2) map

theorem isSome_find?_insertAll
    (map : OrderedMap κ α)
    (entries : List (κ × α))
    (key : κ) :
    ((map.insertAll entries).find? key).isSome = true ↔
      (map.find? key).isSome = true ∨ key ∈ entries.map Prod.fst := by
  induction entries generalizing map with
  | nil => simp [insertAll]
  | cons entry rest hypothesis =>
    rcases entry with ⟨known, value⟩
    have step :
        (insertAll map ((known, value) :: rest)) =
          (map.insert known value).insertAll rest := rfl
    rw [step, hypothesis, find?_insert]
    by_cases same : key = known
    · simp [same]
    · simp [same]

/-- A list answers for a key in the map built from it if it mentions it. -/
theorem isSome_find?_ofList
    (entries : List (κ × α))
    (key : κ) :
    ((ofList entries).find? key).isSome = true ↔
      key ∈ entries.map Prod.fst := by
  have built := isSome_find?_insertAll empty entries key
  rw [find?_empty] at built
  exact built.trans (by simp)

/-- What is found was there already or comes from the list. -/
theorem mem_of_find?_insertAll
    {map : OrderedMap κ α}
    {entries : List (κ × α)}
    {key : κ}
    {value : α}
    (found : (map.insertAll entries).find? key = some value) :
    map.find? key = some value ∨ (key, value) ∈ entries := by
  induction entries generalizing map with
  | nil => exact Or.inl found
  | cons entry rest hypothesis =>
    rcases entry with ⟨known, stored⟩
    have step :
        ((map.insert known stored).insertAll rest).find? key = some value :=
      found
    rcases hypothesis step with earlier | later
    · rw [find?_insert] at earlier
      split at earlier
      · rename_i same
        cases earlier
        exact Or.inr (by rw [same]; exact List.mem_cons_self ..)
      · exact Or.inl earlier
    · exact Or.inr (List.mem_cons_of_mem _ later)

omit [DecidableEq κ] in
theorem indexed_eq_ofList
    (index : α → κ)
    (values : List α) :
    indexed index values =
      ofList (values.map fun value => (index value, value)) := by
  unfold indexed ofList
  rw [List.foldl_map]

/-- A value that is found in an index is one of the indexed, under its key. -/
theorem mem_of_find?_indexed
    {index : α → κ}
    {values : List α}
    {key : κ}
    {value : α}
    (found : (indexed index values).find? key = some value) :
    value ∈ values ∧ index value = key := by
  rw [indexed_eq_ofList] at found
  have collected :
      (empty.insertAll
        (values.map fun value => (index value, value))).find? key =
          some value := found
  rcases mem_of_find?_insertAll collected with earlier | listed
  · simp at earlier
  · rcases List.mem_map.mp listed with ⟨stored, member, same⟩
    cases same
    exact ⟨member, rfl⟩

/-- Something is found in an index under the key of each value. -/
theorem isSome_find?_indexed
    {index : α → κ}
    {values : List α}
    {value : α}
    (member : value ∈ values) :
    ((indexed index values).find? (index value)).isSome = true := by
  rw [indexed_eq_ofList, isSome_find?_ofList, List.map_map]
  exact List.mem_map.mpr ⟨value, member, rfl⟩

omit [DecidableEq κ] in
theorem indexed_concat
    (index : α → κ)
    (values : List α)
    (value : α) :
    indexed index (values ++ [value]) =
      (indexed index values).insert (index value) value := by
  simp only [indexed, List.foldl_append, List.foldl_cons, List.foldl_nil]

/-- An index finds the last value that is listed under a key. -/
theorem find?_indexed_eq_some_iff
    {index : α → κ}
    {values : List α}
    {key : κ}
    {value : α} :
    (indexed index values).find? key = some value ↔
      ∃ front back, values = front ++ value :: back ∧ index value = key ∧
        ∀ later ∈ back, index later ≠ key := by
  induction values using List.reverseRecOn with
  | nil =>
    constructor
    · intro impossible
      cases impossible
    · rintro ⟨front, back, impossible, _⟩
      simp at impossible
  | append_singleton values last hypothesis =>
    have ends {front rest : List α} {final : α}
        (split : values ++ [last] = front ++ value :: (rest ++ [final])) :
        values = front ++ value :: rest ∧ last = final := by
      rw [← List.cons_append, ← List.append_assoc] at split
      exact List.append_singleton_inj.mp split
    rw [indexed_concat, find?_insert]
    by_cases same : key = index last
    · rw [if_pos same]
      constructor
      · rintro ⟨⟩
        exact ⟨values, [], rfl, same.symm, nofun⟩
      · rintro ⟨front, back, split, _, apart⟩
        rcases List.eq_nil_or_concat back with rfl | ⟨rest, final, rfl⟩
        · rw [(List.append_singleton_inj.mp split).2]
        · rw [List.concat_eq_append] at split apart
          rw [(ends split).2] at same
          exact absurd same.symm (apart final (by simp))
    · rw [if_neg same, hypothesis]
      constructor
      · rintro ⟨front, back, rfl, own, apart⟩
        refine ⟨front, back ++ [last], by simp, own, ?_⟩
        intro later member
        rcases List.mem_append.mp member with listed | final
        · exact apart later listed
        · rw [List.mem_singleton.mp final]
          exact Ne.symm same
      · rintro ⟨front, back, split, own, apart⟩
        rcases List.eq_nil_or_concat back with rfl | ⟨rest, final, rfl⟩
        · rw [(List.append_singleton_inj.mp split).2] at same
          exact absurd own.symm same
        · rw [List.concat_eq_append] at split apart
          refine ⟨front, rest, (ends split).1, own, ?_⟩
          intro later member
          exact apart later (List.mem_append_left _ member)

omit [Ord κ] [Std.TransOrd κ] [Std.LawfulEqOrd κ] [DecidableEq κ] in
/-- Where no two values are listed under one key, each is the last one. -/
theorem index_ne_of_nodup
    {index : α → κ}
    {front back : List α}
    {value later : α}
    (distinct : ((front ++ value :: back).map index).Nodup)
    (member : later ∈ back) :
    index later ≠ index value := by
  rw [List.map_append, List.map_cons, List.nodup_append] at distinct
  intro same
  refine (List.nodup_cons.mp distinct.2.1).1 ?_
  rw [← same]
  exact List.mem_map_of_mem member

/-- Where no two values are listed under one key, an index finds each. -/
theorem find?_indexed_of_nodup
    {index : α → κ}
    {values : List α}
    (distinct : (values.map index).Nodup)
    {key : κ}
    {value : α} :
    (indexed index values).find? key = some value ↔
      value ∈ values ∧ index value = key := by
  constructor
  · exact mem_of_find?_indexed
  · rintro ⟨member, rfl⟩
    rcases List.mem_iff_append.mp member with ⟨front, back, rfl⟩
    exact find?_indexed_eq_some_iff.mpr
      ⟨front, back, rfl, rfl, fun _ listed => index_ne_of_nodup distinct listed⟩

/-- A map whose values carry their keys is the index of its values. -/
theorem find?_indexed_values
    {map : OrderedMap κ α}
    {index : α → κ}
    (keyed : ∀ key value, map.find? key = some value → index value = key)
    (key : κ) :
    (indexed index map.values).find? key = map.find? key := by
  have own := map_values_eq_keys keyed
  apply Option.ext
  intro value
  rw [find?_indexed_of_nodup (own ▸ map.keys_nodup), mem_values_iff]
  constructor
  · rintro ⟨⟨known, found⟩, rfl⟩
    rw [keyed known value found]
    exact found
  · intro found
    exact ⟨⟨key, found⟩, keyed key value found⟩

@[simp]
theorem mem_sortedKeys
    (keys : List κ)
    (key : κ) :
    key ∈ sortedKeys keys ↔ key ∈ keys := by
  unfold sortedKeys
  rw [mem_keys_iff, isSome_find?_ofList]
  simp

end Built

end MandateDesk.OrderedMap
