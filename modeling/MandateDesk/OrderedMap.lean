/-!
# Maps in key order

An `OrderedMap` is a list of entries whose keys strictly increase, so that the
order in which a table is listed is the order of its keys and no key occurs
twice. The invariant is part of the type.

The view of a map is its look-up `find?`. Each operation has one equation that
says what it does to the view, and an entry is listed exactly when the look-up
finds it.
-/

namespace MandateDesk

/-- A table whose entries are listed in strictly increasing key order. -/
structure OrderedMap (κ : Type) (α : Type) [Ord κ] where
  /-- The entries, by increasing key. -/
  entries : List (κ × α)
  /-- No entry comes before one with a smaller or equal key. -/
  ordered :
    entries.Pairwise fun first second =>
      compare first.1 second.1 = .lt

namespace OrderedMap

variable {κ α β : Type} [Ord κ]

@[ext]
theorem ext
    {first second : OrderedMap κ α}
    (same : first.entries = second.entries) :
    first = second := by
  cases first
  cases second
  cases same
  rfl

instance [DecidableEq κ] [DecidableEq α] :
    DecidableEq (OrderedMap κ α) :=
  fun first second =>
    if same : first.entries = second.entries then
      isTrue (ext same)
    else
      isFalse fun equal => same (congrArg entries equal)

/-- The table without entries. -/
def empty : OrderedMap κ α :=
  ⟨[], List.Pairwise.nil⟩

instance : Inhabited (OrderedMap κ α) :=
  ⟨empty⟩

/-- Number of entries. -/
def size (map : OrderedMap κ α) : Nat :=
  map.entries.length

/-- Whether there is no entry. -/
def isEmpty (map : OrderedMap κ α) : Bool :=
  map.entries.isEmpty

/-- The keys, in increasing order. -/
def keys (map : OrderedMap κ α) : List κ :=
  map.entries.map Prod.fst

/-- The values, in the order of their keys. -/
def values (map : OrderedMap κ α) : List α :=
  map.entries.map Prod.snd

/-- Looks a key up in a list of entries. -/
def findIn (key : κ) : List (κ × α) → Option α
  | [] => none
  | (known, value) :: rest =>
    match compare key known with
    | .eq => some value
    | _ => findIn key rest

/-- The value that a table holds for a key. -/
def find? (map : OrderedMap κ α) (key : κ) : Option α :=
  findIn key map.entries

/-- Whether a table holds a value for a key. -/
def contains (map : OrderedMap κ α) (key : κ) : Bool :=
  (map.find? key).isSome

/-- Puts an entry at its place in a list of entries. -/
def insertIn (key : κ) (value : α) : List (κ × α) → List (κ × α)
  | [] => [(key, value)]
  | (known, old) :: rest =>
    match compare key known with
    | .lt => (key, value) :: (known, old) :: rest
    | .eq => (key, value) :: rest
    | .gt => (known, old) :: insertIn key value rest

theorem mem_insertIn
    {key : κ}
    {value : α}
    {entries : List (κ × α)}
    {entry : κ × α}
    (member : entry ∈ insertIn key value entries) :
    entry = (key, value) ∨ entry ∈ entries := by
  induction entries with
  | nil => simpa [insertIn] using member
  | cons head rest hypothesis =>
    obtain ⟨known, old⟩ := head
    unfold insertIn at member
    split at member
    · simpa using member
    · rcases List.mem_cons.mp member with same | later
      · exact Or.inl same
      · exact Or.inr (List.mem_cons_of_mem _ later)
    · rcases List.mem_cons.mp member with same | later
      · exact Or.inr (by simp [same])
      · rcases hypothesis later with same | present
        · exact Or.inl same
        · exact Or.inr (List.mem_cons_of_mem _ present)

section Lawful

variable [Std.TransOrd κ] [Std.LawfulEqOrd κ]

theorem insertIn_ordered
    {key : κ}
    {value : α}
    {entries : List (κ × α)}
    (ordered :
      entries.Pairwise fun first second =>
        compare first.1 second.1 = .lt) :
    (insertIn key value entries).Pairwise fun first second =>
      compare first.1 second.1 = .lt := by
  induction entries with
  | nil => simp [insertIn]
  | cons head rest hypothesis =>
    obtain ⟨known, old⟩ := head
    obtain ⟨below, restOrdered⟩ := List.pairwise_cons.mp ordered
    unfold insertIn
    split
    · rename_i before
      refine List.pairwise_cons.mpr ⟨?_, ordered⟩
      intro entry member
      rcases List.mem_cons.mp member with same | later
      · simpa [same] using before
      · exact Std.TransCmp.lt_trans before (below entry later)
    · rename_i same
      have equal : key = known := Std.LawfulEqCmp.eq_of_compare same
      subst equal
      exact List.pairwise_cons.mpr ⟨below, restOrdered⟩
    · rename_i after
      refine List.pairwise_cons.mpr ⟨?_, hypothesis restOrdered⟩
      intro entry member
      rcases mem_insertIn member with same | later
      · subst same
        exact Std.OrientedCmp.lt_of_gt after
      · exact below entry later

/-- A table with one more entry, or with a key's value replaced. -/
def insert
    (map : OrderedMap κ α)
    (key : κ)
    (value : α) :
    OrderedMap κ α :=
  ⟨insertIn key value map.entries, insertIn_ordered map.ordered⟩

/-- A table built from entries; of several with one key the last one stays. -/
def ofList (entries : List (κ × α)) : OrderedMap κ α :=
  entries.foldl (fun map entry => map.insert entry.1 entry.2) empty

/-- A table of values under the keys that they carry; the last one stays. -/
def indexed (key : α → κ) (values : List α) : OrderedMap κ α :=
  values.foldl (fun map value => map.insert (key value) value) empty

/-- A list without repetitions, in increasing order. -/
def sortedKeys (keys : List κ) : List κ :=
  (ofList (keys.map fun key => (key, ()))).keys

end Lawful

/-- A table without one key. -/
def erase
    (map : OrderedMap κ α)
    (key : κ) :
    OrderedMap κ α :=
  ⟨map.entries.filter fun entry => compare key entry.1 != .eq,
    map.ordered.filter _⟩

/-- The entries that satisfy a test. -/
def filter
    (test : κ → α → Bool)
    (map : OrderedMap κ α) :
    OrderedMap κ α :=
  ⟨map.entries.filter fun entry => test entry.1 entry.2,
    map.ordered.filter _⟩

/-- The same keys with their values changed. -/
def mapValues
    (change : κ → α → β)
    (map : OrderedMap κ α) :
    OrderedMap κ β :=
  ⟨map.entries.map fun entry => (entry.1, change entry.1 entry.2),
    List.pairwise_map.mpr map.ordered⟩

@[simp]
theorem find?_empty
    (key : κ) :
    (empty : OrderedMap κ α).find? key = none :=
  rfl

section Look

variable [Std.LawfulEqOrd κ] [DecidableEq κ]

/-- A look-up takes the first entry with its key. -/
theorem findIn_cons
    (key known : κ)
    (value : α)
    (rest : List (κ × α)) :
    findIn key ((known, value) :: rest) =
      if key = known then some value else findIn key rest := by
  by_cases same : key = known
  · subst same
    simp [findIn, Std.ReflCmp.compare_self]
  · have apart : compare key known ≠ .eq := fun equal =>
      same (Std.LawfulEqCmp.eq_of_compare equal)
    rw [if_neg same]
    show (match compare key known with
      | .eq => some value
      | _ => findIn key rest) = findIn key rest
    split
    · rename_i equal
      exact absurd equal apart
    · rfl

theorem findIn_insertIn
    (key other : κ)
    (value : α)
    (entries : List (κ × α)) :
    findIn other (insertIn key value entries) =
      if other = key then some value else findIn other entries := by
  induction entries with
  | nil => simp [insertIn, findIn_cons]
  | cons head rest hypothesis =>
    obtain ⟨known, old⟩ := head
    unfold insertIn
    split
    · simp [findIn_cons]
    · rename_i same
      have equal : key = known := Std.LawfulEqCmp.eq_of_compare same
      subst equal
      simp only [findIn_cons]
      split <;> rfl
    · rename_i after
      have distinct : key ≠ known := by
        intro equal
        subst equal
        simp [Std.ReflCmp.compare_self] at after
      simp only [findIn_cons, hypothesis]
      by_cases same : other = key
      · subst same
        simp [distinct]
      · simp [same]

theorem findIn_filter_ne
    (key other : κ)
    (entries : List (κ × α)) :
    findIn other
        (entries.filter fun entry => compare key entry.1 != .eq) =
      if other = key then none else findIn other entries := by
  induction entries with
  | nil => simp [findIn]
  | cons head rest hypothesis =>
    obtain ⟨known, value⟩ := head
    by_cases same : key = known
    · subst same
      have dropped : (compare key key != .eq) = false := by
        simp [Std.ReflCmp.compare_self]
      simp only [List.filter, dropped, hypothesis, findIn_cons]
      split <;> rfl
    · have kept : (compare key known != .eq) = true := by
        rw [bne_iff_ne]
        exact fun equal => same (Std.LawfulEqCmp.eq_of_compare equal)
      simp only [List.filter, kept, findIn_cons, hypothesis]
      by_cases found : other = known
      · subst found
        have apart : ¬ other = key := fun equal => same equal.symm
        simp [apart]
      · simp [found]

omit [DecidableEq κ] in
theorem mem_of_findIn
    {key : κ}
    {value : α}
    {entries : List (κ × α)}
    (found : findIn key entries = some value) :
    (key, value) ∈ entries := by
  induction entries with
  | nil => simp [findIn] at found
  | cons head rest hypothesis =>
    obtain ⟨known, stored⟩ := head
    unfold findIn at found
    split at found
    · rename_i same
      have equal : key = known := Std.LawfulEqCmp.eq_of_compare same
      subst equal
      simp [Option.some.inj found]
    · exact List.mem_cons_of_mem _ (hypothesis found)

theorem findIn_of_mem
    {key : κ}
    {value : α}
    {entries : List (κ × α)}
    (ordered :
      entries.Pairwise fun first second =>
        compare first.1 second.1 = .lt)
    (member : (key, value) ∈ entries) :
    findIn key entries = some value := by
  induction entries with
  | nil => simp at member
  | cons head rest hypothesis =>
    obtain ⟨known, stored⟩ := head
    obtain ⟨below, restOrdered⟩ := List.pairwise_cons.mp ordered
    rcases List.mem_cons.mp member with same | later
    · obtain ⟨rfl, rfl⟩ := Prod.mk.inj same
      simp [findIn_cons]
    · have before : compare known key = .lt := below _ later
      have apart : key ≠ known := by
        intro equal
        subst equal
        simp [Std.ReflCmp.compare_self] at before
      simp [findIn_cons, apart, hypothesis restOrdered later]

theorem findIn_mapValues
    (change : κ → α → β)
    (key : κ)
    (entries : List (κ × α)) :
    findIn key
        (entries.map fun entry => (entry.1, change entry.1 entry.2)) =
      (findIn key entries).map (change key) := by
  induction entries with
  | nil => rfl
  | cons head rest hypothesis =>
    obtain ⟨known, value⟩ := head
    simp only [List.map_cons, findIn_cons, hypothesis]
    by_cases same : key = known
    · subst same
      simp
    · simp [same]

/-- Erasing clears the view at the erased key and nowhere else. -/
theorem find?_erase
    (map : OrderedMap κ α)
    (key other : κ) :
    (map.erase key).find? other =
      if other = key then none else map.find? other :=
  findIn_filter_ne key other map.entries

/-- An entry is listed exactly when the look-up finds it. -/
theorem mem_entries_iff
    (map : OrderedMap κ α)
    (key : κ)
    (value : α) :
    (key, value) ∈ map.entries ↔ map.find? key = some value :=
  ⟨findIn_of_mem map.ordered, mem_of_findIn⟩

/-- A key is listed exactly when the look-up finds a value for it. -/
theorem mem_keys_iff
    (map : OrderedMap κ α)
    (key : κ) :
    key ∈ map.keys ↔ (map.find? key).isSome := by
  constructor
  · intro member
    obtain ⟨⟨known, value⟩, listed, same⟩ := List.mem_map.mp member
    cases same
    rw [(map.mem_entries_iff known value).mp listed]
    rfl
  · intro present
    obtain ⟨value, found⟩ := Option.isSome_iff_exists.mp present
    exact List.mem_map.mpr
      ⟨(key, value), (map.mem_entries_iff key value).mpr found, rfl⟩

@[simp]
theorem find?_mapValues
    (map : OrderedMap κ α)
    (change : κ → α → β)
    (key : κ) :
    (map.mapValues change).find? key =
      (map.find? key).map (change key) :=
  findIn_mapValues change key map.entries

end Look

section Insertion

variable [Std.TransOrd κ] [Std.LawfulEqOrd κ] [DecidableEq κ]

/-- Inserting changes the view at the inserted key and nowhere else. -/
theorem find?_insert
    (map : OrderedMap κ α)
    (key other : κ)
    (value : α) :
    (map.insert key value).find? other =
      if other = key then some value else map.find? other :=
  findIn_insertIn key other value map.entries

@[simp]
theorem find?_insert_self
    (map : OrderedMap κ α)
    (key : κ)
    (value : α) :
    (map.insert key value).find? key = some value := by
  simp [find?_insert]

theorem find?_insert_of_ne
    (map : OrderedMap κ α)
    {key other : κ}
    (value : α)
    (distinct : other ≠ key) :
    (map.insert key value).find? other = map.find? other := by
  simp [find?_insert, distinct]

end Insertion

end OrderedMap

end MandateDesk
