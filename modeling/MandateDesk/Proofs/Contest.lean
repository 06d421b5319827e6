import Mathlib.Data.List.Induction
import MandateDesk.Desk.Cycle
import MandateDesk.Proofs.Admission

/-!
# Which mandates a cycle listens to

A cycle drops the mandates that outlived their time, ages copies of the others
and lets them contend for each symbol.  This module follows a mandate through
those stages.  The action for a symbol carries a stored, active mandate that is
admitted in the state of the position, or nobody's; and where an exit is among
the contenders, the action is an exit.
-/

namespace MandateDesk

/-! ## Winners -/

namespace Arbitration

theorem mem_of_least
    {α : Type}
    {order : α → α → Ordering}
    {values : List α}
    {value : α}
    (first : least order values = some value) :
    value ∈ values := by
  induction values generalizing value with
  | nil => simp [least] at first
  | cons head rest hypothesis =>
    unfold least at first
    split at first
    · cases first
      exact List.mem_cons_self ..
    · rename_i other earliest
      split at first <;> cases first
      · exact List.mem_cons_of_mem _ (hypothesis earliest)
      · exact List.mem_cons_self ..

theorem exists_least
    {α : Type}
    (order : α → α → Ordering)
    {values : List α}
    {value : α}
    (member : value ∈ values) :
    ∃ first, least order values = some first := by
  cases values with
  | nil => simp at member
  | cons head rest =>
    unfold least
    split
    · exact ⟨head, rfl⟩
    · rename_i other earliest
      split
      · exact ⟨other, rfl⟩
      · exact ⟨head, rfl⟩

/-- Who wins has a say, and is no block. -/
theorem mem_of_winner
    {symbol : Symbol}
    {state : Position.State}
    {mandates : List Mandate}
    {mandate : Mandate}
    (won : winner symbol state mandates = some mandate) :
    mandate ∈ admissible symbol state mandates ∧ mandate.kind ≠ .block := by
  unfold winner at won
  simp only at won
  split at won
  · rename_i first exit
    cases won
    rcases List.mem_filter.mp (mem_of_least exit) with ⟨listed, leaves⟩
    refine ⟨listed, fun blocks => ?_⟩
    simp [isExit, blocks] at leaves
  · rcases List.mem_filter.mp (mem_of_least won) with ⟨listed, left⟩
    refine ⟨listed, fun blocks => ?_⟩
    simp [isBlock, blocks] at left

/-- An exit wins over everything but another exit. -/
theorem winner_of_exit
    {symbol : Symbol}
    {state : Position.State}
    {mandates : List Mandate}
    {mandate : Mandate}
    (member : mandate ∈ admissible symbol state mandates)
    (kind : mandate.kind = .exit) :
    ∃ first, winner symbol state mandates = some first ∧
      first.kind = .exit := by
  have leaving :
      mandate ∈ (admissible symbol state mandates).filter isExit :=
    List.mem_filter.mpr ⟨member, by simp [isExit, kind]⟩
  rcases exists_least precedence leaving with ⟨first, earliest⟩
  refine ⟨first, ?_, ?_⟩
  · unfold winner
    simp only [earliest]
  · have leaves := (List.mem_filter.mp (mem_of_least earliest)).2
    simpa [isExit] using leaves

/-- The mandates that concern a symbol. -/
def about (symbol : Symbol) (mandates : List Mandate) : List Mandate :=
  mandates.filter fun mandate => mandate.symbol == symbol

/-- A group holds the mandates that concern its symbol, and none is empty. -/
theorem find?_grouped
    (mandates : List Mandate)
    (symbol : Symbol) :
    (grouped mandates).find? symbol =
      if symbol ∈ mandates.map Mandate.symbol then
        some (about symbol mandates)
      else none := by
  -- The fold meets the mandates from the front, so the list grows at its end.
  induction mandates using List.reverseRecOn with
  | nil => rfl
  | append_singleton front last hypothesis =>
    have step : grouped (front ++ [last]) =
        (grouped front).insert last.symbol
          (((grouped front).find? last.symbol).getD [] ++ [last]) := by
      simp only [grouped, List.foldl_append, List.foldl_cons, List.foldl_nil]
    rw [step, OrderedMap.find?_insert]
    by_cases same : symbol = last.symbol
    · subst same
      rw [hypothesis]
      by_cases listed : last.symbol ∈ front.map Mandate.symbol
      · simp [listed, about]
      · have nobody : about last.symbol front = [] := by
          refine List.filter_eq_nil_iff.mpr fun mandate member own => ?_
          exact listed (List.mem_map.mpr ⟨mandate, member, eq_of_beq own⟩)
        simp [listed, about, ← nobody]
    · have other : ¬ last.symbol = symbol := fun equal => same equal.symm
      rw [if_neg same, hypothesis]
      simp [about, other, same]

/-- There is an action for exactly the symbols that a mandate concerns. -/
theorem find?_resolveAll
    (positions : Positions)
    (mandates : List Mandate)
    (symbol : Symbol) :
    (resolveAll positions mandates).find? symbol =
      if symbol ∈ mandates.map Mandate.symbol then
        some (resolve symbol (stateOf positions symbol)
          (about symbol mandates))
      else none := by
  unfold resolveAll
  rw [OrderedMap.find?_mapValues, find?_grouped]
  split <;> rfl

end Arbitration

/-! ## Expiry -/

namespace Desk

/-- Whether a mandate outlived its time. -/
def outlived (lifetime : Nat) (now : Instant) (mandate : Mandate) : Bool :=
  lifetime != 0 &&
    (now.before? (Text.asSigned64 lifetime)).any fun cutoff =>
      decide (mandate.stamp < cutoff)

/-- What is left of the mandates is active and has not outlived its time. -/
theorem get?_expire
    {registry next : Registry}
    {lifetime count : Nat}
    {now : Instant}
    (expiry : expire registry lifetime now = some (next, count))
    (id : Identifier) :
    next.get? id =
      (registry.get? id).filter fun mandate =>
        mandate.isActive && !outlived lifetime now mandate := by
  unfold expire at expiry
  split at expiry
  · rename_i never
    cases expiry
    rw [Registry.get?_purge]
    cases registry.get? id <;> simp [outlived, never]
  · rename_i ends
    rcases Option.map_eq_some_iff.mp expiry with ⟨cutoff, started, same⟩
    have left : next = (registry.expireBefore cutoff).1.purge :=
      (Prod.mk.inj same).1.symm
    have moved :
        (registry.expireBefore cutoff).1.get? id =
          (registry.get? id).map fun mandate =>
            if Registry.isMoved
                (fun mandate => decide (mandate.stamp < cutoff)) mandate
            then Registry.withStatus .expired mandate
            else mandate :=
      Registry.get?_moveWhere registry .expired _ id
    rw [left, Registry.get?_purge, moved]
    cases registry.get? id with
    | none => rfl
    | some mandate =>
      have dated :
          outlived lifetime now mandate = decide (mandate.stamp < cutoff) := by
        simp [outlived, ends, started]
      have gone : (Registry.withStatus .expired mandate).isActive = false := rfl
      simp only [Option.map_some, Option.filter_some, dated,
        Registry.isMoved]
      by_cases active : mandate.isActive = true <;>
        by_cases early : mandate.stamp < cutoff <;>
        simp [active, early, gone]

/-- Expiry fails exactly where a mandate may outlive the calendar. -/
theorem isSome_expire_iff
    (registry : Registry)
    (lifetime : Nat)
    (now : Instant) :
    (expire registry lifetime now).isSome = true ↔
      lifetime = 0 ∨
        (now.before? (Text.asSigned64 lifetime)).isSome = true := by
  unfold expire
  split
  · rename_i endless
    exact iff_of_true rfl (Or.inl endless)
  · rename_i ends
    rw [Option.isSome_map, or_iff_right ends]

theorem consistent_expire
    {registry next : Registry}
    (consistent : registry.Consistent)
    {lifetime count : Nat}
    {now : Instant}
    (expiry : expire registry lifetime now = some (next, count)) :
    next.Consistent := by
  unfold expire at expiry
  split at expiry
  · cases expiry
    exact consistent.purge
  · rcases Option.map_eq_some_iff.mp expiry with ⟨cutoff, started, same⟩
    have left : next = (registry.expireBefore cutoff).1.purge :=
      (Prod.mk.inj same).1.symm
    rw [left]
    exact (consistent.moveWhere .expired _).purge

/-! ## The action for a symbol -/

/-- Aging changes nothing that an action carries. -/
theorem ofMandate_aged
    (aging : Aging)
    (now : Instant)
    (mandate : Mandate) :
    Action.ofMandate (aging.aged now mandate) = Action.ofMandate mandate :=
  rfl

theorem agenda_actionOf
    (round : Round)
    (desk : Desk)
    (aging : Aging)
    (now : Instant)
    (symbol : Symbol) :
    (agenda round desk.book (desk.arbitrate aging now)).actionOf symbol =
      let contenders := aging.apply now desk.registry.activeMandates
      if symbol ∈ contenders.map Mandate.symbol then
        Arbitration.resolve symbol (desk.book.stateOf symbol)
          (Arbitration.about symbol contenders)
      else Action.noAction symbol := by
  unfold Agenda.actionOf agenda arbitrate
  simp only [Arbitration.find?_resolveAll]
  split <;> rfl

/-- Who contends for a symbol is an aged copy of a stored, active mandate. -/
theorem exists_of_contender
    {registry : Registry}
    (consistent : registry.Consistent)
    {aging : Aging}
    {now : Instant}
    {contender : Mandate}
    (member : contender ∈ aging.apply now registry.activeMandates) :
    ∃ mandate, contender = aging.aged now mandate ∧
      registry.get? mandate.id = some mandate ∧ mandate.isActive = true := by
  rcases List.mem_map.mp member with ⟨mandate, listed, same⟩
  rcases (Registry.mem_activeMandates consistent mandate).mp listed with
    ⟨stored, active⟩
  exact ⟨mandate, same.symm, stored, active⟩

theorem contender_of_active
    {registry : Registry}
    (consistent : registry.Consistent)
    {mandate : Mandate}
    (stored : registry.get? mandate.id = some mandate)
    (active : mandate.isActive = true)
    (aging : Aging)
    (now : Instant) :
    aging.aged now mandate ∈ aging.apply now registry.activeMandates :=
  List.mem_map_of_mem
    ((Registry.mem_activeMandates consistent mandate).mpr ⟨stored, active⟩)

/-- The action for a symbol is one that the mandates can come to. -/
theorem asked_actionOf
    {desk : Desk}
    (consistent : desk.registry.Consistent)
    (round : Round)
    (aging : Aging)
    (now : Instant)
    (symbol : Symbol) :
    Asked desk symbol
      ((agenda round desk.book
        (desk.arbitrate aging now)).actionOf symbol) := by
  rw [agenda_actionOf]
  simp only
  split
  · unfold Arbitration.resolve
    split
    · rename_i winner won
      rcases Arbitration.mem_of_winner won with ⟨counts, kind⟩
      rcases List.mem_filter.mp counts with ⟨contends, admitted⟩
      rcases List.mem_filter.mp contends with ⟨listed, about⟩
      rcases exists_of_contender consistent listed with
        ⟨mandate, same, stored, active⟩
      subst same
      rw [ofMandate_aged]
      simp only [Bool.and_eq_true] at admitted
      exact .wish ⟨stored, active, rfl, kind⟩ (eq_of_beq about) admitted.2
    · exact .nothing
  · exact .nothing

/-- Every symbol that an active mandate concerns is decided on. -/
theorem mem_symbols_of_active
    {desk : Desk}
    (consistent : desk.registry.Consistent)
    {mandate : Mandate}
    (stored : desk.registry.get? mandate.id = some mandate)
    (active : mandate.isActive = true)
    (round : Round)
    (aging : Aging)
    (now : Instant) :
    mandate.symbol ∈
      (agenda round desk.book (desk.arbitrate aging now)).symbols := by
  have contends := contender_of_active consistent stored active aging now
  have concerned :
      mandate.symbol ∈
        (aging.apply now desk.registry.activeMandates).map Mandate.symbol :=
    List.mem_map.mpr ⟨_, contends, rfl⟩
  unfold Agenda.symbols agenda arbitrate
  rw [OrderedMap.mem_sortedKeys]
  refine List.mem_append_left _ ?_
  rw [OrderedMap.mem_keys_iff, Arbitration.find?_resolveAll,
    if_pos concerned]
  rfl

/-- Where an exit is wished for and admitted, the action is an exit. -/
theorem kind_actionOf_of_exit
    {desk : Desk}
    (consistent : desk.registry.Consistent)
    {mandate : Mandate}
    (stored : desk.registry.get? mandate.id = some mandate)
    (active : mandate.isActive = true)
    (kind : mandate.kind = .exit)
    (admitted : (desk.book.stateOf mandate.symbol).admits .exit = true)
    (round : Round)
    (aging : Aging)
    (now : Instant) :
    ((agenda round desk.book
      (desk.arbitrate aging now)).actionOf mandate.symbol).kind = .exit := by
  have contends := contender_of_active consistent stored active aging now
  have concerned :
      mandate.symbol ∈
        (aging.apply now desk.registry.activeMandates).map Mandate.symbol :=
    List.mem_map.mpr ⟨_, contends, rfl⟩
  have counts :
      aging.aged now mandate ∈
        Arbitration.admissible mandate.symbol
          (desk.book.stateOf mandate.symbol)
          (Arbitration.about mandate.symbol
            (aging.apply now desk.registry.activeMandates)) := by
    refine List.mem_filter.mpr ⟨List.mem_filter.mpr ⟨contends, ?_⟩, ?_⟩
    · simp [Aging.aged]
    · have same : (aging.aged now mandate).isActive = true := active
      have leaves : (aging.aged now mandate).kind = .exit := kind
      have about : (aging.aged now mandate).symbol = mandate.symbol := rfl
      simp [same, leaves, about, admitted]
  rcases Arbitration.winner_of_exit counts kind with ⟨first, won, leaves⟩
  rw [agenda_actionOf]
  simp only
  rw [if_pos concerned]
  unfold Arbitration.resolve
  simp only [won]
  simp [Action.ofMandate, leaves, Action.kindFor?]

end Desk

end MandateDesk
