import Mathlib.Data.List.Nodup
import MandateDesk.Settings.Layers

/-!
# Tables given to tables

A table whose names are in lower case and none of which is repeated, at any
depth, is what it was when it is given to a place where nothing is, and changes
nothing when it is given to itself.
-/

namespace MandateDesk.Settings

mutual

/-- A value whose tables have distinct names in lower case. -/
def IsTidy : Json → Prop
  | .object fields => AreTidy fields
  | _ => True

/-- Fields with distinct names in lower case, and so are those in them. -/
def AreTidy : List (String × Json) → Prop
  | [] => True
  | (name, value) :: rest =>
    Text.lowerCase name = name ∧ name ∉ rest.map Prod.fst ∧ IsTidy value ∧
      AreTidy rest

end

theorem AreTidy.nodup
    {fields : Fields}
    (tidy : AreTidy fields) :
    (fields.map Prod.fst).Nodup := by
  induction fields with
  | nil => exact List.nodup_nil
  | cons field rest hypothesis =>
    obtain ⟨-, unrepeated, -, others⟩ := tidy
    exact List.nodup_cons.mpr ⟨unrepeated, hypothesis others⟩

theorem AreTidy.of_append
    {first second : Fields}
    (tidy : AreTidy (first ++ second)) :
    AreTidy first := by
  induction first with
  | nil => simp [AreTidy]
  | cons field rest hypothesis =>
    obtain ⟨lower, unrepeated, inner, others⟩ := tidy
    have fresh : field.1 ∉ rest.map Prod.fst := fun member =>
      unrepeated (List.map_append ▸ List.mem_append_left _ member)
    exact ⟨lower, fresh, inner, hypothesis others⟩

/-! ## New names -/

theorem beq_eq_false_of_fresh
    {name : String}
    {fields : Fields}
    (fresh : name ∉ fields.map Prod.fst)
    {field : String × Json}
    (member : field ∈ fields) :
    (field.1 == name) = false :=
  beq_eq_false_iff_ne.mpr fun same =>
    fresh (List.mem_map.mpr ⟨field, member, same⟩)

theorem withField_of_fresh
    {name : String}
    {fields : Fields}
    (fresh : name ∉ fields.map Prod.fst)
    (value : Json) :
    withField name value fields = fields ++ [(name, value)] := by
  have absent : (fields.any fun field => field.1 == name) = false :=
    List.any_eq_false.mpr fun field member => by
      simp [beq_eq_false_of_fresh fresh member]
  simp [withField, absent]

theorem field?_of_fresh
    {name : String}
    {fields : Fields}
    (fresh : name ∉ fields.map Prod.fst) :
    Json.field? name fields = none := by
  have absent : (fields.reverse.find? fun field => field.1 == name) = none :=
    List.find?_eq_none.mpr fun field member => by
      simp [beq_eq_false_of_fresh fresh (List.mem_reverse.mp member)]
  simp [Json.field?, absent]

theorem withField_cons_of_fresh
    {name : String}
    {others : Fields}
    (fresh : name ∉ others.map Prod.fst)
    (old new : Json) :
    withField name new ((name, old) :: others) = (name, new) :: others := by
  have kept : others.map
      (fun field => if field.1 == name then (name, new) else field) =
        others := by
    refine (List.map_congr_left fun field member => ?_).trans
      (List.map_id others)
    rw [if_neg (by simp [beq_eq_false_of_fresh fresh member])]
    rfl
  have present :
      (((name, old) :: others).any fun field => field.1 == name) = true := by
    simp
  rw [withField, if_pos present, List.map_cons, kept,
    if_pos (beq_self_eq_true name)]

theorem field?_cons_of_fresh
    {name : String}
    {others : Fields}
    (fresh : name ∉ others.map Prod.fst)
    (value : Json) :
    Json.field? name ((name, value) :: others) = some value := by
  have absent := field?_of_fresh fresh
  rw [Json.field?, Option.map_eq_none_iff] at absent
  simp [Json.field?, absent]

mutual

/-- A tidy value is given as it is to a name that has none. -/
theorem given_of_fresh
    (value : Json)
    (tidy : IsTidy value)
    {name : String}
    (lower : Text.lowerCase name = name)
    {fields : Fields}
    (fresh : name ∉ fields.map Prod.fst) :
    given fields name value = fields ++ [(name, value)] := by
  cases value with
  | object added =>
    have whole := givenAll_of_fresh added tidy []
      (fun _ _ => List.not_mem_nil)
    simp [given, lower, field?_of_fresh fresh, whole, withField_of_fresh fresh]
  | _ => simp [given, lower, withField_of_fresh fresh]

/-- Tidy fields are given as they are to a table without them. -/
theorem givenAll_of_fresh
    (added : List (String × Json))
    (tidy : AreTidy added)
    (known : Fields)
    (fresh : ∀ name ∈ added.map Prod.fst, name ∉ known.map Prod.fst) :
    givenAll (.object known) added = .object (known ++ added) := by
  cases added with
  | nil => simp [givenAll]
  | cons field rest =>
    obtain ⟨name, value⟩ := field
    obtain ⟨lower, unrepeated, inner, others⟩ := tidy
    have first := given_of_fresh value inner lower
      (fresh name (List.mem_cons_self ..))
    have later := givenAll_of_fresh rest others (known ++ [(name, value)])
      (by
        intro other member
        have absent := fresh other (List.mem_cons_of_mem _ member)
        have apart : other ≠ name := fun same => unrepeated (same ▸ member)
        simpa [apart] using absent)
    simp [givenAll, fieldsOf, first, later]

end

/-! ## Known names -/

theorem beq_eq_of_mem
    {fields : Fields}
    (distinct : (fields.map Prod.fst).Nodup)
    {name : String}
    {value : Json}
    (member : (name, value) ∈ fields)
    {field : String × Json}
    (other : field ∈ fields)
    (same : (field.1 == name) = true) :
    field = (name, value) :=
  List.inj_on_of_nodup_map distinct other member (eq_of_beq same)

theorem withField_of_mem
    {fields : Fields}
    (distinct : (fields.map Prod.fst).Nodup)
    {name : String}
    {value : Json}
    (member : (name, value) ∈ fields) :
    withField name value fields = fields := by
  have present : (fields.any fun field => field.1 == name) = true :=
    List.any_eq_true.mpr ⟨(name, value), member, beq_self_eq_true name⟩
  have kept : fields.map
      (fun field => if field.1 == name then (name, value) else field) =
        fields := by
    refine (List.map_congr_left fun field other => ?_).trans
      (List.map_id fields)
    split
    · next same => exact (beq_eq_of_mem distinct member other same).symm
    · rfl
  rw [withField, if_pos present, kept]

theorem field?_of_mem
    {fields : Fields}
    (distinct : (fields.map Prod.fst).Nodup)
    {name : String}
    {value : Json}
    (member : (name, value) ∈ fields) :
    Json.field? name fields = some value := by
  unfold Json.field?
  cases found : fields.reverse.find? fun field => field.1 == name with
  | none =>
    have unlike := List.find?_eq_none.mp found (name, value)
      (List.mem_reverse.mpr member)
    exact absurd (beq_self_eq_true name) unlike
  | some field =>
    have other := List.mem_reverse.mp (List.mem_of_find?_eq_some found)
    have same := List.find?_some found
    rw [beq_eq_of_mem distinct member other same]
    rfl

mutual

/-- A tidy value that is given to the name that has it changes nothing. -/
theorem given_of_mem
    (value : Json)
    (tidy : IsTidy value)
    {name : String}
    (lower : Text.lowerCase name = name)
    {fields : Fields}
    (distinct : (fields.map Prod.fst).Nodup)
    (member : (name, value) ∈ fields) :
    given fields name value = fields := by
  cases value with
  | object added =>
    have whole := givenAll_of_mem added tidy (AreTidy.nodup tidy)
      (fun _ member => member)
    simp [given, lower, field?_of_mem distinct member, whole,
      withField_of_mem distinct member]
  | _ => simp [given, lower, withField_of_mem distinct member]

/-- Tidy fields that are given to a table with them change nothing. -/
theorem givenAll_of_mem
    (added : List (String × Json))
    (tidy : AreTidy added)
    {known : Fields}
    (distinct : (known.map Prod.fst).Nodup)
    (members : ∀ field ∈ added, field ∈ known) :
    givenAll (.object known) added = .object known := by
  cases added with
  | nil => simp [givenAll]
  | cons field rest =>
    obtain ⟨name, value⟩ := field
    obtain ⟨lower, -, inner, others⟩ := tidy
    have first := given_of_mem value inner lower distinct
      (members (name, value) (List.mem_cons_self ..))
    have later := givenAll_of_mem rest others distinct
      fun field member => members field (List.mem_cons_of_mem _ member)
    simp [givenAll, fieldsOf, first, later]

end

/-! ## Layers -/

/-- A name that is read as a path of that name alone. -/
def IsSingleName (name : String) : Prop :=
  Path.read name = ⟨name, []⟩

theorem given_of_isSingleName
    {name : String}
    (single : IsSingleName name)
    (value : Json)
    (known : Fields) :
    (Path.read name).given value known = given known name value := by
  rw [single]
  simp [Path.given, Path.stepped, fieldsOf]

/-- A layer of single names is given as a table is. -/
theorem object_layered
    {layer : Fields}
    (single : ∀ field ∈ layer, IsSingleName field.1)
    (known : Fields) :
    .object (layered known layer) = givenAll (.object known) layer := by
  induction layer generalizing known with
  | nil => simp [layered, givenAll]
  | cons field rest hypothesis =>
    obtain ⟨name, value⟩ := field
    have later := hypothesis
      (fun field member => single field (List.mem_cons_of_mem _ member))
      (given known name value)
    have first := given_of_isSingleName
      (single (name, value) (List.mem_cons_self ..)) value known
    simp only [layered, List.foldl_cons, first] at later ⊢
    rw [later]
    simp [givenAll, fieldsOf]

/-- A tidy layer of new names is put behind what is there. -/
theorem layered_of_fresh
    {layer known : Fields}
    (tidy : AreTidy layer)
    (single : ∀ field ∈ layer, IsSingleName field.1)
    (fresh : ∀ name ∈ layer.map Prod.fst, name ∉ known.map Prod.fst) :
    layered known layer = known ++ layer := by
  have whole := object_layered single known
  rw [givenAll_of_fresh layer tidy known fresh] at whole
  exact Json.object.inj whole

/-- A tidy layer that is there already changes nothing. -/
theorem layered_of_mem
    {layer known : Fields}
    (tidy : AreTidy layer)
    (single : ∀ field ∈ layer, IsSingleName field.1)
    (distinct : (known.map Prod.fst).Nodup)
    (members : ∀ field ∈ layer, field ∈ known) :
    layered known layer = known := by
  have whole := object_layered single known
  rw [givenAll_of_mem layer tidy distinct members] at whole
  exact Json.object.inj whole

end MandateDesk.Settings
