import MandateDesk.Proofs.Maps
import MandateDesk.Registry

/-!
# The registry and its index

The registry keeps its mandates twice: by identifier, and by symbol as sets of
identifiers.  `Consistent` says that both sides tell the same story and that
every stored mandate is sound.  Each operation of the registry keeps it, and
has one equation for what it does to the look-up of a mandate.

In a consistent registry the active mandates that a cycle collects through
the index are exactly the stored mandates that are active.
-/

namespace MandateDesk.Registry

/-- The index and the stored mandates tell the same story. -/
structure Consistent (registry : Registry) : Prop where
  /-- A mandate is stored under its own identifier. -/
  keyed : ∀ {id mandate},
    registry.get? id = some mandate → mandate.id = id
  /-- The index of a symbol holds the identifiers of its mandates. -/
  indexed : ∀ symbol id,
    ((registry.identifiers symbol).find? id).isSome = true ↔
      ∃ mandate, registry.get? id = some mandate ∧ mandate.symbol = symbol
  /-- Every stored mandate passed validation. -/
  sound : ∀ {id mandate},
    registry.get? id = some mandate → mandate.Sound

theorem consistent_empty : empty.Consistent where
  keyed found := by simp [get?, empty] at found
  indexed symbol id := by simp [identifiers, get?, empty]
  sound found := by simp [get?, empty] at found

/-! ## Changing the status of one mandate -/

/-- The registry once a mandate has another status. -/
def settled
    (registry : Registry)
    (mandate : Mandate)
    (status : Mandate.Status) :
    Registry :=
  { registry with
    mandates :=
      registry.mandates.insert mandate.id (withStatus status mandate) }

@[simp]
theorem get?_settled
    (registry : Registry)
    (mandate : Mandate)
    (status : Mandate.Status)
    (id : Identifier) :
    (registry.settled mandate status).get? id =
      if id = mandate.id then some (withStatus status mandate)
      else registry.get? id :=
  OrderedMap.find?_insert _ _ _ _

@[simp]
theorem identifiers_settled
    (registry : Registry)
    (mandate : Mandate)
    (status : Mandate.Status)
    (symbol : Symbol) :
    (registry.settled mandate status).identifiers symbol =
      registry.identifiers symbol :=
  rfl

/-- Soundness does not depend on the status. -/
theorem sound_withStatus
    {mandate : Mandate}
    (sound : mandate.Sound)
    (status : Mandate.Status) :
    (withStatus status mandate).Sound :=
  ⟨sound.symbol, sound.source, sound.quantity_sign, sound.quantity_le,
    sound.kind⟩

/-- An active mandate that is stored under its identifier can be moved. -/
theorem update_eq
    {registry : Registry}
    {mandate : Mandate}
    (stored : registry.get? mandate.id = some mandate)
    (active : mandate.isActive = true)
    (status : Mandate.Status) :
    registry.update mandate.id status =
      .ok (registry.settled mandate status, withStatus status mandate) := by
  simp [update, stored, active, settled]

/-- Changing the status of mandates in place keeps the registry consistent. -/
theorem Consistent.of_restamped
    {registry next : Registry}
    (consistent : registry.Consistent)
    (status : Identifier → Mandate → Mandate.Status)
    (index : next.bySymbol = registry.bySymbol)
    (stored : ∀ id, next.get? id =
      (registry.get? id).map fun mandate =>
        withStatus (status id mandate) mandate) :
    next.Consistent where
  keyed found := by
    rw [stored] at found
    rcases Option.map_eq_some_iff.mp found with ⟨mandate, known, same⟩
    subst same
    show mandate.id = _
    exact consistent.keyed known
  indexed symbol id := by
    have listed : next.identifiers symbol = registry.identifiers symbol := by
      unfold identifiers
      rw [index]
    rw [listed, consistent.indexed symbol id, stored]
    constructor
    · rintro ⟨mandate, known, about⟩
      exact ⟨withStatus (status id mandate) mandate, by simp [known], about⟩
    · rintro ⟨moved, found, about⟩
      rcases Option.map_eq_some_iff.mp found with ⟨mandate, known, same⟩
      subst same
      exact ⟨mandate, known, about⟩
  sound found := by
    rw [stored] at found
    rcases Option.map_eq_some_iff.mp found with ⟨mandate, known, same⟩
    subst same
    exact sound_withStatus (consistent.sound known) _

theorem Consistent.settled
    {registry : Registry}
    (consistent : registry.Consistent)
    {mandate : Mandate}
    (stored : registry.get? mandate.id = some mandate)
    (status : Mandate.Status) :
    (registry.settled mandate status).Consistent := by
  refine consistent.of_restamped
    (fun id known => if id = mandate.id then status else known.status)
    rfl ?_
  intro id
  rw [get?_settled]
  by_cases same : id = mandate.id
  · subst same
    simp [stored]
  · cases registry.get? id with
    | none => simp [same]
    | some known => simp [same, withStatus]

/-! ## Taking mandates -/

theorem get?_adding
    (registry : Registry)
    (mandate : Mandate)
    (id : Identifier) :
    (registry.adding mandate).get? id =
      if id = mandate.id then some mandate else registry.get? id :=
  OrderedMap.find?_insert _ _ _ _

theorem identifiers_adding
    (registry : Registry)
    (mandate : Mandate)
    (symbol : Symbol) :
    (registry.adding mandate).identifiers symbol =
      if symbol = mandate.symbol then
        (registry.identifiers mandate.symbol).insert mandate.id ()
      else registry.identifiers symbol := by
  unfold identifiers adding
  rw [OrderedMap.find?_insert]
  by_cases same : symbol = mandate.symbol
  · simp [same, identifiers]
  · simp [same]

theorem Consistent.adding
    {registry : Registry}
    (consistent : registry.Consistent)
    {mandate : Mandate}
    (fresh : registry.get? mandate.id = none)
    (sound : mandate.Sound) :
    (registry.adding mandate).Consistent where
  keyed {id stored} found := by
    rw [get?_adding] at found
    by_cases same : id = mandate.id
    · simp only [same, if_true, Option.some.injEq] at found
      rw [← found, same]
    · simp only [same, if_false] at found
      exact consistent.keyed found
  indexed symbol id := by
    rw [identifiers_adding, get?_adding]
    have known := consistent.indexed symbol id
    by_cases about : symbol = mandate.symbol
    · subst about
      rw [if_pos rfl, OrderedMap.find?_insert]
      by_cases same : id = mandate.id
      · simp [same]
      · simp only [same, if_false]
        exact known
    · rw [if_neg about, known]
      by_cases same : id = mandate.id
      · subst same
        simp [fresh, Ne.symm about]
      · simp [same]
  sound {id stored} found := by
    rw [get?_adding] at found
    by_cases same : id = mandate.id
    · simp only [same, if_true, Option.some.injEq] at found
      rwa [← found]
    · simp only [same, if_false] at found
      exact consistent.sound found

/-- What a successful registration establishes. -/
theorem register_eq_ok_iff
    (registry next : Registry)
    (mandate : Mandate) :
    registry.register mandate = .ok next ↔
      (mandate.isActive = true ∧ mandate.Sound) ∧
        registry.get? mandate.id = none ∧ next = registry.adding mandate := by
  unfold register
  cases checked : mandate.validate with
  | error fault =>
    have defective :
        ¬ (mandate.isActive = true ∧ mandate.Sound) := by
      rw [← Mandate.defect?_eq_none_iff, ← Mandate.validate_eq_ok_iff]
      simp [checked]
    simp [defective]
  | ok accepted =>
    have clean : mandate.isActive = true ∧ mandate.Sound := by
      rw [← Mandate.defect?_eq_none_iff, ← Mandate.validate_eq_ok_iff]
      exact checked
    simp only [clean, true_and]
    by_cases known : registry.mandates.contains mandate.id = true
    · have stored : registry.get? mandate.id ≠ none := by
        intro absent
        unfold get? at absent
        simp [OrderedMap.contains, absent] at known
      simp [known, stored]
    · have absent : registry.get? mandate.id = none := by
        simpa [OrderedMap.contains, get?] using known
      simp [known, absent, eq_comm]

theorem Consistent.register
    {registry next : Registry}
    {mandate : Mandate}
    (consistent : registry.Consistent)
    (registered : registry.register mandate = .ok next) :
    next.Consistent := by
  rcases (register_eq_ok_iff registry next mandate).mp registered with
    ⟨⟨_, sound⟩, fresh, rfl⟩
  exact consistent.adding fresh sound

/-! ## Moving and purging mandates -/

@[simp]
theorem get?_moveWhere
    (registry : Registry)
    (status : Mandate.Status)
    (test : Mandate → Bool)
    (id : Identifier) :
    (registry.moveWhere status test).1.get? id =
      (registry.get? id).map fun mandate =>
        if isMoved test mandate then withStatus status mandate
        else mandate :=
  OrderedMap.find?_mapValues _ _ _

theorem Consistent.moveWhere
    {registry : Registry}
    (consistent : registry.Consistent)
    (status : Mandate.Status)
    (test : Mandate → Bool) :
    (registry.moveWhere status test).1.Consistent := by
  refine consistent.of_restamped
    (fun _ known => if isMoved test known then status else known.status)
    rfl ?_
  intro id
  rw [get?_moveWhere]
  cases registry.get? id with
  | none => rfl
  | some known =>
    by_cases moved : isMoved test known = true
    · simp [moved]
    · simp [moved, withStatus]

@[simp]
theorem get?_purge
    (registry : Registry)
    (id : Identifier) :
    registry.purge.get? id =
      (registry.get? id).filter Mandate.isActive :=
  OrderedMap.find?_filter _ _ _

/-- Leaving an empty set out of the index does not change what is listed. -/
theorem getD_filter_nonempty (ids : IdentifierSet) :
    ((some ids).filter fun kept => !kept.isEmpty).getD OrderedMap.empty =
      ids := by
  cases vacant : ids.isEmpty with
  | false => simp [Option.filter, vacant]
  | true =>
    have absent : ids = OrderedMap.empty :=
      OrderedMap.ext (List.isEmpty_iff.mp vacant)
    rw [absent]
    rfl

/-- An identifier stays in the index unless its mandate is inactive. -/
theorem identifiers_purge
    (registry : Registry)
    (symbol : Symbol)
    (id : Identifier) :
    ((registry.purge.identifiers symbol).find? id).isSome = true ↔
      ((registry.identifiers symbol).find? id).isSome = true ∧
        ∀ mandate, registry.get? id = some mandate →
          mandate.isActive = true := by
  unfold identifiers purge
  simp only [OrderedMap.find?_filter, OrderedMap.find?_mapValues]
  cases registry.bySymbol.find? symbol with
  | none => simp
  | some ids =>
    rw [Option.map_some, getD_filter_nonempty, OrderedMap.find?_filter]
    rw [Option.getD_some]
    cases ids.find? id with
    | none => simp
    | some listed =>
      cases registry.get? id with
      | none => simp [Option.filter]
      | some mandate =>
        cases active : mandate.isActive <;> simp [Option.filter, active]

theorem Consistent.purge
    {registry : Registry}
    (consistent : registry.Consistent) :
    registry.purge.Consistent where
  keyed found := by
    rw [get?_purge, Option.filter_eq_some_iff] at found
    exact consistent.keyed found.1
  indexed symbol id := by
    rw [identifiers_purge, consistent.indexed symbol id]
    constructor
    · rintro ⟨⟨mandate, known, about⟩, active⟩
      refine ⟨mandate, ?_, about⟩
      rw [get?_purge, Option.filter_eq_some_iff]
      exact ⟨known, active mandate known⟩
    · rintro ⟨mandate, found, about⟩
      rw [get?_purge, Option.filter_eq_some_iff] at found
      refine ⟨⟨mandate, found.1, about⟩, ?_⟩
      intro other known
      rw [found.1] at known
      cases known
      exact found.2
  sound found := by
    rw [get?_purge, Option.filter_eq_some_iff] at found
    exact consistent.sound found.1

/-! ## Collecting the active mandates -/

theorem mem_activeOf
    {registry : Registry}
    (consistent : registry.Consistent)
    (symbol : Symbol)
    (mandate : Mandate) :
    mandate ∈ registry.activeOf symbol ↔
      registry.get? mandate.id = some mandate ∧
        mandate.isActive = true ∧ mandate.symbol = symbol := by
  unfold activeOf
  rw [List.mem_filter, List.mem_filterMap]
  constructor
  · rintro ⟨⟨id, listed, found⟩, active⟩
    have own : mandate.id = id := consistent.keyed found
    subst own
    rw [OrderedMap.mem_keys_iff, consistent.indexed] at listed
    rcases listed with ⟨other, known, about⟩
    rw [found] at known
    cases known
    exact ⟨found, active, about⟩
  · rintro ⟨found, active, about⟩
    refine ⟨⟨mandate.id, ?_, found⟩, active⟩
    rw [OrderedMap.mem_keys_iff, consistent.indexed]
    exact ⟨mandate, found, about⟩

/-- A cycle collects exactly the stored mandates that are active. -/
theorem mem_activeMandates
    {registry : Registry}
    (consistent : registry.Consistent)
    (mandate : Mandate) :
    mandate ∈ registry.activeMandates ↔
      registry.get? mandate.id = some mandate ∧
        mandate.isActive = true := by
  unfold activeMandates activeSymbols
  rw [List.mem_flatMap]
  constructor
  · rintro ⟨symbol, _, member⟩
    have found := (mem_activeOf consistent symbol mandate).mp member
    exact ⟨found.1, found.2.1⟩
  · rintro ⟨found, active⟩
    refine ⟨mandate.symbol, ?_, ?_⟩
    · rw [OrderedMap.mem_sortedKeys]
      refine List.mem_map.mpr ⟨mandate, ?_, rfl⟩
      refine List.mem_filter.mpr ⟨?_, active⟩
      exact (OrderedMap.mem_values_iff _ _).mpr ⟨mandate.id, found⟩
    · exact (mem_activeOf consistent _ mandate).mpr ⟨found, active, rfl⟩

end MandateDesk.Registry
