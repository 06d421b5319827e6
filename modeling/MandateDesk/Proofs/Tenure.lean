import MandateDesk.Proofs.Registry
import MandateDesk.Proofs.Sums

/-!
# The life of a mandate

A mandate is stored when it is registered and dropped when it is purged.  In
between only its status changes, and only as long as it is active: a mandate
`AgesInto` what is stored under its identifier later on.

Each operation has one equation for what it does to a registry, `Performed`,
from which follows what one operation keeps and then what any run of operations
keeps.
-/

namespace MandateDesk

namespace Mandate

/-- What is checked of a mandate when it is submitted, apart from its status. -/
structure Checked (mandate : Mandate) : Prop where
  symbol : mandate.symbol.isBlank = false
  source : Text.isBlankText mandate.source = false
  unsigned : 0 ≤ mandate.quantity.value
  bounded : mandate.quantity.value ≤ 1000000000000
  positive : mandate.kind = .entry ∨ mandate.kind = .reduce →
    0 < mandate.quantity.value
  directed : mandate.kind = .entry → mandate.direction.isSome = true

theorem value_largestQuantity : largestQuantity.value = 1000000000000 := by
  simp [largestQuantity, Decimal.value, Decimal.numerator]

theorem Sound.checked
    {mandate : Mandate}
    (sound : mandate.Sound) :
    mandate.Checked := by
  have unsigned : 0 ≤ mandate.quantity.value := by
    rw [Decimal.value_of_unsigned sound.quantity_sign]
    positivity
  have nonzero (present : mandate.quantity.isZero = false) :
      0 < mandate.quantity.value := by
    refine lt_of_le_of_ne unsigned (Ne.symm ?_)
    rw [Ne, Decimal.value_eq_zero_iff, present]
    exact Bool.false_ne_true
  have kind := sound.kind
  unfold kindDefect? at kind
  have entering (entry : mandate.kind = .entry) :
      mandate.direction.isSome = true ∧ mandate.quantity.isZero = false := by
    rw [entry] at kind
    cases directed : mandate.direction with
    | none => simp [directed] at kind
    | some => simpa [directed] using kind
  have reducing (reduce : mandate.kind = .reduce) :
      mandate.quantity.isZero = false := by
    rw [reduce] at kind
    simpa using kind
  refine
    { symbol := sound.symbol
      source := sound.source
      unsigned
      bounded := ?_
      positive := ?_
      directed := fun entry => (entering entry).1 }
  · rw [← value_largestQuantity, Decimal.value_le_iff]
    exact sound.quantity_le
  · rintro (entry | reduce)
    · exact nonzero (entering entry).2
    · exact nonzero (reducing reduce)

/-- What a mandate may turn into: only an active one changes, in its status. -/
structure AgesInto (mandate later : Mandate) : Prop where
  same : later = Registry.withStatus later.status mandate
  final : mandate.isActive = false → later = mandate

theorem AgesInto.refl
    (mandate : Mandate) :
    mandate.AgesInto mandate :=
  ⟨rfl, fun _ => rfl⟩

theorem AgesInto.trans
    {mandate between later : Mandate}
    (first : mandate.AgesInto between)
    (second : between.AgesInto later) :
    mandate.AgesInto later where
  same := by
    rw [second.same, first.same]
    rfl
  final settled := by
    have stayed := first.final settled
    subst stayed
    exact second.final settled

/-- An active mandate takes any status. -/
theorem AgesInto.of_active
    {mandate : Mandate}
    (active : mandate.isActive = true)
    (status : Status) :
    mandate.AgesInto (Registry.withStatus status mandate) where
  same := rfl
  final settled := by
    rw [active] at settled
    contradiction

end Mandate

namespace Registry

/-! ## Operations -/

/-- What is asked of a registry. -/
inductive Operation where
  | register (mandate : Mandate)
  | update (id : Identifier) (status : Mandate.Status)
  | expireBefore (cutoff : Instant)
  | cancelSource (source : String)
  | purge

/-- What an operation makes of a registry, unless it fails. -/
def perform (registry : Registry) : Operation → Except Fault Registry
  | .register mandate => registry.register mandate
  | .update id status => (registry.update id status).map Prod.fst
  | .expireBefore cutoff => .ok (registry.expireBefore cutoff).1
  | .cancelSource source => .ok (registry.cancelSource source).1
  | .purge => .ok registry.purge

/-- A registry after an operation; what fails leaves it as it is. -/
def after (registry : Registry) (operation : Operation) : Registry :=
  match registry.perform operation with
  | .ok next => next
  | .error _ => registry

/-- A registry after several operations. -/
def through (registry : Registry) (operations : List Operation) : Registry :=
  operations.foldl after registry

theorem after_of_ok
    {registry next : Registry}
    {operation : Operation}
    (performed : registry.perform operation = .ok next) :
    registry.after operation = next := by
  unfold after
  rw [performed]

theorem after_of_error
    {registry : Registry}
    {operation : Operation}
    {fault : Fault}
    (failed : registry.perform operation = .error fault) :
    registry.after operation = registry := by
  unfold after
  rw [failed]

/-- What each operation comes to. -/
inductive Performed (registry : Registry) : Operation → Registry → Prop where
  | refused {operation fault}
      (failed : registry.perform operation = .error fault) :
      Performed registry operation registry
  | registered {mandate}
      (fresh : registry.get? mandate.id = none)
      (sound : mandate.Sound) :
      Performed registry (.register mandate) (registry.adding mandate)
  | updated {mandate}
      (stored : registry.get? mandate.id = some mandate)
      (active : mandate.isActive = true)
      (status : Mandate.Status) :
      Performed registry (.update mandate.id status)
        (registry.settled mandate status)
  | expired (cutoff : Instant) :
      Performed registry (.expireBefore cutoff) (registry.expireBefore cutoff).1
  | cancelled (source : String) :
      Performed registry (.cancelSource source) (registry.cancelSource source).1
  | purged : Performed registry .purge registry.purge

theorem Consistent.performed
    {registry : Registry}
    (consistent : registry.Consistent)
    (operation : Operation) :
    registry.Performed operation (registry.after operation) := by
  cases outcome : registry.perform operation with
  | error fault =>
    rw [after_of_error outcome]
    exact .refused outcome
  | ok next =>
    rw [after_of_ok outcome]
    cases operation with
    | register mandate =>
      rcases (register_eq_ok_iff registry next mandate).mp outcome with
        ⟨⟨_, sound⟩, fresh, rfl⟩
      exact .registered fresh sound
    | update id status =>
      cases stored : registry.get? id with
      | none => simp [perform, update, stored, Except.map] at outcome
      | some mandate =>
        have own := consistent.keyed stored
        subst own
        cases active : mandate.isActive with
        | false =>
          simp [perform, update, stored, active, Except.map] at outcome
        | true =>
          simp only [perform, update_eq stored active] at outcome
          cases outcome
          exact .updated stored active status
    | expireBefore cutoff =>
      cases outcome
      exact .expired cutoff
    | cancelSource source =>
      cases outcome
      exact .cancelled source
    | purge =>
      cases outcome
      exact .purged

theorem Performed.consistent
    {registry next : Registry}
    {operation : Operation}
    (performed : registry.Performed operation next)
    (consistent : registry.Consistent) :
    next.Consistent := by
  cases performed with
  | refused => exact consistent
  | registered fresh sound => exact consistent.adding fresh sound
  | updated stored _ status => exact consistent.settled stored status
  | expired => exact consistent.moveWhere _ _
  | cancelled => exact consistent.moveWhere _ _
  | purged => exact consistent.purge

theorem Consistent.through
    {registry : Registry}
    (consistent : registry.Consistent)
    (operations : List Operation) :
    (registry.through operations).Consistent := by
  induction operations generalizing registry with
  | nil => exact consistent
  | cons operation rest hypothesis =>
    exact hypothesis ((consistent.performed operation).consistent consistent)

/-! ## One mandate -/

theorem agesInto_of_moveWhere
    {registry : Registry}
    {status : Mandate.Status}
    {test : Mandate → Bool}
    {id : Identifier}
    {mandate later : Mandate}
    (stored : registry.get? id = some mandate)
    (found : (registry.moveWhere status test).1.get? id = some later) :
    mandate.AgesInto later := by
  rw [get?_moveWhere, stored, Option.map_some, Option.some.injEq] at found
  subst found
  split
  · rename_i moved
    rw [isMoved, Bool.and_eq_true] at moved
    exact .of_active moved.1 status
  · exact .refl mandate

/-- What one operation leaves of a mandate. -/
theorem Performed.agesInto
    {registry next : Registry}
    {operation : Operation}
    (performed : registry.Performed operation next)
    {id : Identifier}
    {mandate later : Mandate}
    (stored : registry.get? id = some mandate)
    (found : next.get? id = some later) :
    mandate.AgesInto later := by
  have unchanged (same : registry.get? id = some later) :
      mandate.AgesInto later := by
    rw [stored] at same
    cases same
    exact .refl mandate
  cases performed with
  | refused => exact unchanged found
  | registered fresh =>
    rw [get?_adding] at found
    split at found
    · rename_i new
      rw [new, fresh] at stored
      contradiction
    · exact unchanged found
  | updated known active status =>
    rw [get?_settled] at found
    split at found
    · rename_i own
      rw [own, known] at stored
      cases stored
      cases found
      exact .of_active active status
    · exact unchanged found
  | expired => exact agesInto_of_moveWhere stored found
  | cancelled => exact agesInto_of_moveWhere stored found
  | purged =>
    rw [get?_purge, Option.filter_eq_some_iff] at found
    exact unchanged found.1

/-- What is left of a mandate that stays stored all along. -/
theorem Consistent.agesInto
    {registry : Registry}
    (consistent : registry.Consistent)
    {operations : List Operation}
    {id : Identifier}
    {mandate : Mandate}
    (stored : registry.get? id = some mandate)
    (kept : ∀ part, part <+: operations →
      (registry.through part).get? id ≠ none) :
    ∃ later, (registry.through operations).get? id = some later ∧
      mandate.AgesInto later := by
  induction operations generalizing registry mandate with
  | nil => exact ⟨mandate, stored, .refl mandate⟩
  | cons operation rest hypothesis =>
    have performed := consistent.performed operation
    have onward : ∀ part, part <+: rest →
        ((registry.after operation).through part).get? id ≠ none := by
      rintro part ⟨back, rfl⟩
      exact kept (operation :: part) ⟨back, rfl⟩
    rcases Option.ne_none_iff_exists'.mp (onward [] ⟨rest, rfl⟩) with
      ⟨between, found⟩
    rcases hypothesis (performed.consistent consistent) found onward with
      ⟨later, last, ages⟩
    exact ⟨later, last, (performed.agesInto stored found).trans ages⟩

/-! ## Moving mandates -/

/-- What it means that the active mandates with a property are moved. -/
structure Moves
    (registry : Registry)
    (status : Mandate.Status)
    (fits : Mandate → Prop)
    (outcome : Registry × List Identifier) :
    Prop where
  moved : ∀ id mandate, registry.get? id = some mandate →
    mandate.isActive = true → fits mandate →
      outcome.1.get? id = some (withStatus status mandate)
  kept : ∀ id mandate, registry.get? id = some mandate →
    ¬ (mandate.isActive = true ∧ fits mandate) →
      outcome.1.get? id = some mandate
  absent : ∀ id, registry.get? id = none → outcome.1.get? id = none
  listed : ∀ id, id ∈ outcome.2 ↔ ∃ mandate,
    registry.get? id = some mandate ∧ mandate.isActive = true ∧ fits mandate
  sorted : outcome.2.Pairwise fun first second =>
    compare first second = .lt

theorem Consistent.moves
    {registry : Registry}
    (consistent : registry.Consistent)
    {test : Mandate → Bool}
    {fits : Mandate → Prop}
    (decides : ∀ mandate, test mandate = true ↔ fits mandate)
    (status : Mandate.Status) :
    registry.Moves status fits (registry.moveWhere status test) := by
  have chosen (mandate : Mandate) :
      isMoved test mandate = true ↔
        mandate.isActive = true ∧ fits mandate := by
    rw [isMoved, Bool.and_eq_true, decides]
  refine
    { moved := ?_
      kept := ?_
      absent := ?_
      listed := ?_
      sorted := ?_ }
  · intro id mandate stored active fitting
    rw [get?_moveWhere, stored, Option.map_some,
      if_pos ((chosen mandate).mpr ⟨active, fitting⟩)]
  · intro id mandate stored apart
    rw [get?_moveWhere, stored, Option.map_some,
      if_neg (apart ∘ (chosen mandate).mp)]
  · intro id missing
    rw [get?_moveWhere, missing, Option.map_none]
  · intro id
    simp only [Registry.moveWhere, List.mem_map, List.mem_filter, chosen,
      OrderedMap.mem_values_iff]
    constructor
    · rintro ⟨mandate, ⟨⟨key, stored⟩, fitting⟩, rfl⟩
      have own := consistent.keyed stored
      subst own
      exact ⟨mandate, stored, fitting⟩
    · rintro ⟨mandate, stored, fitting⟩
      exact ⟨mandate, ⟨⟨id, stored⟩, fitting⟩, consistent.keyed stored⟩
  · have own :
        (registry.mandates.values.filter (isMoved test)).map Mandate.id =
          (registry.mandates.entries.filter
            (isMoved test ∘ Prod.snd)).map Prod.fst := by
      unfold OrderedMap.values
      rw [List.filter_map, List.map_map]
      refine List.map_congr_left ?_
      rintro ⟨id, mandate⟩ member
      exact consistent.keyed ((OrderedMap.mem_entries_iff _ _ _).mp
        (List.mem_filter.mp member).1)
    show List.Pairwise _
      ((registry.mandates.values.filter (isMoved test)).map Mandate.id)
    rw [own]
    exact List.pairwise_map.mpr (registry.mandates.ordered.filter _)

/-! ## Collecting mandates -/

theorem Consistent.activeOf_pairwise
    {registry : Registry}
    (consistent : registry.Consistent)
    (symbol : Symbol) :
    (registry.activeOf symbol).Pairwise fun first second =>
      compare first.id second.id = .lt := by
  unfold activeOf
  refine List.Pairwise.filter _ (List.pairwise_filterMap.mpr ?_)
  refine (registry.identifiers symbol).keys_pairwise.imp ?_
  intro first second before mandate stored other alsoStored
  rw [consistent.keyed stored, consistent.keyed alsoStored]
  exact before

/-- The active mandates are collected by symbol and then by identifier. -/
theorem Consistent.activeMandates_pairwise
    {registry : Registry}
    (consistent : registry.Consistent) :
    registry.activeMandates.Pairwise fun first second =>
      compare first.symbol second.symbol = .lt ∨
        first.symbol = second.symbol ∧
          compare first.id second.id = .lt := by
  have about {symbol : Symbol} {mandate : Mandate}
      (member : mandate ∈ registry.activeOf symbol) :
      mandate.symbol = symbol :=
    ((mem_activeOf consistent symbol mandate).mp member).2.2
  unfold activeMandates
  refine List.pairwise_flatMap.mpr ⟨?_, ?_⟩
  · intro symbol _
    refine (consistent.activeOf_pairwise symbol).imp_of_mem ?_
    intro first second member other before
    exact Or.inr ⟨(about member).trans (about other).symm, before⟩
  · refine (OrderedMap.sortedKeys_pairwise _).imp ?_
    intro first second before mandate member later other
    rw [about member, about other]
    exact Or.inl before

theorem Consistent.activeMandates_nodup
    {registry : Registry}
    (consistent : registry.Consistent) :
    registry.activeMandates.Nodup := by
  refine consistent.activeMandates_pairwise.imp ?_
  rintro mandate _ before rfl
  simp [Std.ReflCmp.compare_self] at before

/-! ## The law -/

/-- What holds of a registry at every moment. -/
structure Lawful (registry : Registry) : Prop where
  indexed : ∀ symbol id,
    ((registry.identifiers symbol).find? id).isSome = true ↔
      ∃ mandate, registry.get? id = some mandate ∧ mandate.symbol = symbol
  keyed : ∀ id mandate, registry.get? id = some mandate → mandate.id = id
  collected : ∀ mandate, mandate ∈ registry.activeMandates ↔
    registry.get? mandate.id = some mandate ∧ mandate.isActive = true
  once : registry.activeMandates.Nodup
  grouped : registry.activeMandates.Pairwise fun first second =>
    compare first.symbol second.symbol = .lt ∨
      first.symbol = second.symbol ∧ compare first.id second.id = .lt
  checked : ∀ id mandate, registry.get? id = some mandate → mandate.Checked
  /-- What becomes of a mandate for as long as it is stored. -/
  lasting : ∀ operations id mandate, registry.get? id = some mandate →
    (∀ part, part <+: operations → (registry.through part).get? id ≠ none) →
      ∃ later, (registry.through operations).get? id = some later ∧
        mandate.AgesInto later
  refused : ∀ operation fault,
    registry.perform operation = .error fault →
      registry.after operation = registry
  accepts : ∀ mandate, (∃ next, registry.register mandate = .ok next) ↔
    (mandate.isActive = true ∧ mandate.Sound) ∧
      registry.get? mandate.id = none
  registered : ∀ mandate next, registry.register mandate = .ok next →
    ∀ id, next.get? id =
      if id = mandate.id then some mandate else registry.get? id
  updates : ∀ id status, (∃ outcome, registry.update id status = .ok outcome) ↔
    ∃ mandate, registry.get? id = some mandate ∧ mandate.isActive = true
  updated : ∀ id mandate status, registry.get? id = some mandate →
    mandate.isActive = true →
      ∃ next, registry.update id status =
          .ok (next, withStatus status mandate) ∧
        ∀ other, next.get? other =
          if other = id then some (withStatus status mandate)
          else registry.get? other
  expires : ∀ cutoff,
    registry.Moves .expired (fun mandate => mandate.stamp < cutoff)
      (registry.expireBefore cutoff)
  cancels : ∀ source,
    registry.Moves .cancelled (fun mandate => mandate.source = source)
      (registry.cancelSource source)
  purges : ∀ id mandate, registry.purge.get? id = some mandate ↔
    registry.get? id = some mandate ∧ mandate.isActive = true

theorem Consistent.lawful
    {registry : Registry}
    (consistent : registry.Consistent) :
    registry.Lawful where
  indexed := consistent.indexed
  keyed _ _ stored := consistent.keyed stored
  collected := mem_activeMandates consistent
  once := consistent.activeMandates_nodup
  grouped := consistent.activeMandates_pairwise
  checked _ _ stored := (consistent.sound stored).checked
  lasting _ _ _ stored kept := consistent.agesInto stored kept
  refused _ _ failed := after_of_error failed
  accepts mandate := by
    simp only [register_eq_ok_iff, exists_and_left, exists_eq, and_true]
  registered mandate next accepted id := by
    rcases (register_eq_ok_iff registry next mandate).mp accepted with
      ⟨_, _, rfl⟩
    exact get?_adding registry mandate id
  updates id status := by
    cases stored : registry.get? id with
    | none => simp [update, stored]
    | some mandate =>
      cases active : mandate.isActive with
      | false => simp [update, stored, active]
      | true => simp [update, stored, active]
  updated id mandate status stored active := by
    have own := consistent.keyed stored
    subst own
    exact ⟨_, update_eq stored active status,
      get?_settled registry mandate status⟩
  expires cutoff := consistent.moves (by simp) .expired
  cancels source := consistent.moves (by simp) .cancelled
  purges id mandate := by
    rw [get?_purge, Option.filter_eq_some_iff]

/-- A registry keeps its laws through every run of operations. -/
theorem registry_keeps_its_laws
    (operations : List Operation) :
    (empty.through operations).Lawful :=
  (consistent_empty.through operations).lawful

end Registry

end MandateDesk
