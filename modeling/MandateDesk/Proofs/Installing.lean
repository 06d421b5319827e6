import MandateDesk.Proofs.Mirroring

/-!
# What a reconciliation installs

A reconciliation takes the venue at its word.  Each symbol that the venue holds
is open afterwards with the venue's direction and quantity, each other one that
was saved is flat, and nothing else is filed; what it corrects is what was not
saved like that.  A second reconciliation finds nothing to correct, as each of
the ways in which a symbol is resolved leads to a position that agrees.

The entry price takes no part in the agreement.  A saved position that is open
with the venue's direction and quantity keeps its own entry price, whatever the
venue says; in all other cases the price is the venue's.
-/

namespace MandateDesk

/-! ## What the venue says -/

/-- A venue lists a holding that is not empty. -/
def PaperVenue.Holds (venue : PaperVenue) (held : Venue.Holding) : Prop :=
  held ∈ venue.openPositions ∧ held.quantity.value ≠ 0

/-- Apart from empty ones a holding is the last that is listed of a symbol. -/
def PaperVenue.HoldsLast (venue : PaperVenue) (held : Venue.Holding) : Prop :=
  ∃ front back, venue.openPositions = front ++ held :: back ∧
    held.quantity.value ≠ 0 ∧
    ∀ later ∈ back, later.symbol = held.symbol → later.quantity.value = 0

theorem PaperVenue.holdsLast_iff
    {venue : PaperVenue}
    (distinct : (venue.openPositions.map Venue.Holding.symbol).Nodup)
    {held : Venue.Holding} :
    venue.HoldsLast held ↔ venue.Holds held := by
  constructor
  · rintro ⟨front, back, listed, present, _⟩
    refine ⟨?_, present⟩
    rw [listed]
    exact List.mem_append_right _ (List.mem_cons_self ..)
  · rintro ⟨member, present⟩
    rcases List.mem_iff_append.mp member with ⟨front, back, listed⟩
    refine ⟨front, back, listed, present, ?_⟩
    intro later among same
    rw [listed] at distinct
    exact absurd same (OrderedMap.index_ne_of_nodup distinct among)

/-- A position is what a venue holds, except for the entry price. -/
structure Position.IsHolding (position : Position) (held : Venue.Holding) :
    Prop where
  opened : position.state = .opened
  directed : position.direction = some held.direction
  sized : position.quantity.value = held.quantity.value

/-- Two positions are alike in state, quantity and direction. -/
structure Position.Alike (first second : Position) : Prop where
  state : first.state = second.state
  quantity : first.quantity.value = second.quantity.value
  direction : first.direction = second.direction

namespace Reconciliation

theorem agrees_iff
    {position : Position}
    {held : Venue.Holding} :
    agrees position held ↔ position.IsHolding held := by
  unfold agrees
  rw [Decimal.sameValue_iff_value]
  constructor
  · rintro ⟨state, directed, sized⟩
    exact ⟨state, directed, sized⟩
  · rintro ⟨state, directed, sized⟩
    exact ⟨state, directed, sized⟩

/-- Reconciliation compares with the last holding that is not empty. -/
theorem find?_held_eq_some_iff
    {store : Store}
    {venue : PaperVenue}
    {symbol : Symbol}
    {held : Venue.Holding} :
    (sides store venue).held.find? symbol = some held ↔
      venue.HoldsLast held ∧ held.symbol = symbol := by
  have present (holding : Venue.Holding) :
      (!holding.quantity.isZero) = true ↔ holding.quantity.value ≠ 0 := by
    rw [Ne, Decimal.value_eq_zero_iff]
    simp
  unfold sides
  rw [OrderedMap.find?_indexed_eq_some_iff]
  constructor
  · rintro ⟨front, back, kept, rfl, apart⟩
    rcases List.filter_eq_append_iff.mp kept with
      ⟨before, rest, whole, _, behind⟩
    rcases List.filter_eq_cons_iff.mp behind with
      ⟨between, after, split, _, positive, filtered⟩
    refine ⟨⟨before ++ between, after, ?_, (present held).mp positive, ?_⟩, rfl⟩
    · rw [whole, split, List.append_assoc]
    · intro later member same
      by_contra nonzero
      refine apart later ?_ same
      rw [← filtered]
      exact List.mem_filter.mpr ⟨member, (present later).mpr nonzero⟩
  · rintro ⟨⟨front, back, listed, nonzero, empty⟩, rfl⟩
    refine ⟨front.filter fun held => !held.quantity.isZero,
      back.filter fun held => !held.quantity.isZero, ?_, rfl, ?_⟩
    · rw [listed, List.filter_append, List.filter_cons,
        if_pos ((present held).mpr nonzero)]
    · intro later member same
      rcases List.mem_filter.mp member with ⟨among, positive⟩
      exact (present later).mp positive (empty later among same)

/-! ## One symbol -/

theorem isCorrection_self
    (position : Position) :
    isCorrection (some position) position = false := by
  simp [isCorrection, Decimal.sameValue_refl]

section Resolving

variable {symbol : Symbol} {now : Instant} {saved : Option Position}
variable {held : Option Venue.Holding} {position : Position}

theorem Resolved.isHolding
    {holding : Venue.Holding}
    (resolved : Resolved symbol now saved (some holding) position) :
    position.IsHolding holding := by
  cases resolved with
  | kept agreed => exact agrees_iff.mp agreed
  | adopted => exact ⟨rfl, rfl, rfl⟩

theorem Resolved.state_eq_flat
    (resolved : Resolved symbol now saved none position) :
    position.state = .flat := by
  cases resolved with
  | idle flat => exact flat
  | dropped => rfl

/-- A position has its shape if it was saved in its shape. -/
theorem Resolved.wellFormed
    (resolved : Resolved symbol now saved held position)
    (shaped : ∀ before, saved = some before → before.WellFormed) :
    position.WellFormed := by
  cases resolved with
  | kept => exact shaped _ rfl
  | adopted _ opened => exact opened
  | idle => exact shaped _ rfl
  | dropped => exact Position.flat_wellFormed symbol now

/-- What a symbol was resolved to is kept by the next reconciliation. -/
theorem Resolved.again
    (resolved : Resolved symbol now saved held position)
    (later : Instant) :
    Resolved symbol later (some position) held position := by
  cases resolved with
  | kept agreed => exact .kept agreed
  | adopted => exact .kept ⟨rfl, rfl, Decimal.sameValue_refl _⟩
  | idle flat => exact .idle flat
  | dropped => exact .idle rfl

/-- A symbol is resolved unless the venue holds less than nothing of it. -/
theorem exists_resolved
    (unsigned : ∀ holding, held = some holding →
      0 < holding.quantity.value) :
    ∃ position, Resolved symbol now saved held position := by
  cases held with
  | none =>
    by_cases flat :
        ∃ position, saved = some position ∧ position.state = .flat
    · rcases flat with ⟨position, rfl, flat⟩
      exact ⟨position, .idle flat⟩
    · refine ⟨_, .dropped ?_⟩
      intro position known state
      exact flat ⟨position, known, state⟩
  | some holding =>
    by_cases agreed :
        ∃ position, saved = some position ∧ agrees position holding
    · rcases agreed with ⟨position, rfl, agreed⟩
      exact ⟨position, .kept agreed⟩
    · have positive : Decimal.zero < holding.quantity := by
        rw [← Decimal.value_lt_iff, Decimal.value_zero]
        exact unsigned holding rfl
      rw [Decimal.zero_lt_iff] at positive
      refine ⟨_, .adopted ?_ (holding.wellFormed_position positive.1
        (by simpa [Decimal.isZero] using positive.2) now)⟩
      intro position known same
      exact agreed ⟨position, known, same⟩

/-- A correction is what was not saved in this state, quantity, direction. -/
theorem Resolved.isCorrection_iff
    (resolved : Resolved symbol now saved held position)
    (known : saved.isSome = true ∨ held.isSome = true) :
    isCorrection saved position = true ↔
      ¬ ∃ before, saved = some before ∧ before.Alike position := by
  cases saved with
  | none =>
    rcases Option.isSome_iff_exists.mp (known.resolve_left nofun) with
      ⟨holding, rfl⟩
    simp [isCorrection, Position.isFlat, resolved.isHolding.opened]
  | some before =>
    simp only [isCorrection, Bool.or_eq_true, decide_eq_true_eq,
      Decimal.sameValue_iff_value, Option.some.injEq, exists_eq_left']
    constructor
    · rintro ((state | quantity) | direction) alike
      · exact state alike.state
      · exact quantity alike.quantity
      · exact direction alike.direction
    · intro apart
      by_contra same
      simp only [not_or, not_not] at same
      exact apart ⟨same.1.1, same.1.2, same.2⟩

end Resolving

/-! ## All symbols -/

/-- Whether a symbol is resolved to a correction. -/
def Sides.isCorrected (sides : Sides) (now : Instant) (symbol : Symbol) :
    Bool :=
  match
    resolve (sides.saved.find? symbol) (sides.held.find? symbol) symbol now
  with
  | .ok position => isCorrection (sides.saved.find? symbol) position
  | .error _ => false

theorem Sides.isCorrected_of_resolves
    {sides : Sides}
    {now : Instant}
    {symbol : Symbol}
    {position : Position}
    (resolves : sides.resolves now symbol position) :
    sides.isCorrected now symbol =
      isCorrection (sides.saved.find? symbol) position := by
  unfold Sides.resolves at resolves
  simp only [isCorrected, resolves]

/-- Where all symbols are resolved, only a correction needs the store. -/
theorem exists_reconciles
    {sides : Sides}
    {now : Instant}
    {symbols : List Symbol}
    {progress : Progress}
    (each : ∀ symbol ∈ symbols, ∃ position,
      sides.resolves now symbol position)
    (working : progress.store.isFailing = true →
      ∀ symbol ∈ symbols, sides.isCorrected now symbol = false) :
    ∃ last, Reconciles sides now progress symbols last := by
  induction symbols generalizing progress with
  | nil => exact ⟨progress, .done progress⟩
  | cons symbol rest hypothesis =>
    rw [List.forall_mem_cons] at each
    rcases each.1 with ⟨position, resolves⟩
    have onward {next : Progress}
        (reconciled : Reconciled sides now progress symbol next)
        (same : next.store.isFailing = progress.store.isFailing) :
        ∃ last, Reconciles sides now progress (symbol :: rest) last := by
      have later : next.store.isFailing = true →
          ∀ other ∈ rest, sides.isCorrected now other = false := by
        intro failing other member
        exact working (same ▸ failing) other (List.mem_cons_of_mem _ member)
      rcases hypothesis each.2 later with ⟨last, reconciles⟩
      exact ⟨last, .step reconciled reconciles⟩
    cases wrong : isCorrection (sides.saved.find? symbol) position with
    | false => exact onward (.left resolves wrong) rfl
    | true =>
      refine onward (.corrected resolves wrong ?_) rfl
      by_contra failing
      have agreed := working (by simpa using failing) symbol
        (List.mem_cons_self ..)
      rw [Sides.isCorrected_of_resolves resolves, wrong] at agreed
      contradiction

section Sided

variable {store : Store} {venue : PaperVenue} {now : Instant}
variable {symbols : List Symbol} {progress last : Progress}

theorem Reconciles.corrected_eq
    (reconciles : Reconciles (sides store venue) now progress symbols last) :
    last.corrected =
      progress.corrected ++
        symbols.filter ((sides store venue).isCorrected now) := by
  induction reconciles with
  | done => simp
  | step reconciled _ hypothesis =>
    rw [hypothesis]
    cases reconciled with
    | left resolves agreed =>
      rw [List.filter_cons_of_neg]
      rw [Sides.isCorrected_of_resolves resolves, agreed]
      exact Bool.false_ne_true
    | corrected resolves wrong =>
      rw [List.filter_cons_of_pos, symbol_of_resolves resolves]
      · simp
      · rw [Sides.isCorrected_of_resolves resolves, wrong]

/-- Without corrections the store stays as it is. -/
theorem Reconciles.store_eq
    {sides : Sides}
    (reconciles : Reconciles sides now progress symbols last)
    (agreed : ∀ symbol ∈ symbols, sides.isCorrected now symbol = false) :
    last.store = progress.store := by
  induction reconciles with
  | done => rfl
  | step reconciled _ hypothesis =>
    rw [List.forall_mem_cons] at agreed
    rw [hypothesis agreed.2]
    cases reconciled with
    | left => rfl
    | corrected resolves wrong =>
      rw [Sides.isCorrected_of_resolves resolves, wrong] at agreed
      exact absurd agreed.1 (by simp)

end Sided

/-! ## The whole -/

/-- A reconciliation succeeds if all that it comes to has its shape. -/
theorem exists_run
    {store : Store}
    {venue : PaperVenue}
    {now : Instant}
    (each : ∀ symbol ∈ (sides store venue).symbols, ∃ position,
      (sides store venue).resolves now symbol position ∧
        position.WellFormed)
    (working : store.isFailing = true →
      ∀ symbol ∈ (sides store venue).symbols,
        (sides store venue).isCorrected now symbol = false)
    (before : Book) :
    ∃ saved after summary,
      run store venue before now = (saved, after, .ok summary) := by
  have resolvable (symbol : Symbol)
      (listed : symbol ∈ (sides store venue).symbols) :
      ∃ position, (sides store venue).resolves now symbol position :=
    (each symbol listed).imp fun _ both => both.1
  have reached :
      ∃ last, Reconciles (sides store venue) now ⟨store, [], []⟩
        (sides store venue).symbols last :=
    exists_reconciles resolvable working
  rcases reached with ⟨last, reconciles⟩
  have shaped : ∀ position ∈ last.resolved, position.WellFormed := by
    intro position member
    rcases reconciles.mem_resolved.mp member with
      impossible | ⟨symbol, listed, resolves⟩
    · cases impossible
    · rcases each symbol listed with ⟨other, same, shaped⟩
      rwa [Except.ok.inj (resolves.symm.trans same)]
  have distinct : (last.resolved.map Position.symbol).Nodup := by
    rw [reconciles.map_symbol]
    exact nodup_symbols
  have restored :
      before.restore last.resolved =
        .ok { before with
          positions := OrderedMap.indexed Position.symbol last.resolved } :=
    Book.restore_eq_ok_iff.mpr ⟨shaped, distinct, rfl⟩
  exact ⟨_, _, _, run_eq_ok_iff.mpr ⟨last, reconciles, restored, rfl, rfl⟩⟩

section Ran

variable {store saved : Store} {venue : PaperVenue} {now : Instant}
variable {before after : Book} {summary : Summary}

theorem isKeyed_of_run
    (keyed : store.memory.IsKeyed)
    (ran : run store venue before now = (saved, after, .ok summary)) :
    saved.memory.IsKeyed := by
  intro symbol position found
  rw [positions_of_run keyed ran] at found
  exact symbol_of_resolves ((get?_of_run ran).mp found).2

/-- A symbol that the store or the venue knows is filed. -/
theorem isSome_get?_of_run
    (ran : run store venue before now = (saved, after, .ok summary))
    {symbol : Symbol} :
    (after.get? symbol).isSome = true ↔
      symbol ∈ (sides store venue).symbols := by
  constructor
  · intro filed
    rcases Option.isSome_iff_exists.mp filed with ⟨position, found⟩
    exact ((get?_of_run ran).mp found).1
  · intro listed
    rcases exists_resolves_of_run ran listed with ⟨position, resolves⟩
    rw [(get?_of_run ran).mpr ⟨listed, resolves⟩]
    rfl

/-- What the venue holds is filed. -/
theorem exists_resolved_of_run
    (ran : run store venue before now = (saved, after, .ok summary))
    {symbol : Symbol}
    {held : Venue.Holding}
    (found : (sides store venue).held.find? symbol = some held) :
    ∃ position, after.get? symbol = some position ∧
      Resolved symbol now ((sides store venue).saved.find? symbol)
        (some held) position := by
  have listed : symbol ∈ (sides store venue).symbols :=
    mem_symbols_iff.mpr (Or.inr (Option.isSome_of_eq_some found))
  rcases exists_resolves_of_run ran listed with ⟨position, resolves⟩
  refine ⟨position, (get?_of_run ran).mpr ⟨listed, resolves⟩, ?_⟩
  rw [← found]
  exact resolve_eq_ok_iff.mp resolves

theorem corrected_of_run
    (ran : run store venue before now = (saved, after, .ok summary)) :
    summary.corrected =
      (sides store venue).symbols.filter
        ((sides store venue).isCorrected now) := by
  rcases run_eq_ok_iff.mp ran with ⟨last, reconciles, _, _, rfl⟩
  exact reconciles.corrected_eq

theorem mem_corrected_iff
    (keyed : store.memory.IsKeyed)
    (ran : run store venue before now = (saved, after, .ok summary))
    {symbol : Symbol} :
    symbol ∈ summary.corrected ↔
      ∃ position, after.get? symbol = some position ∧
        ¬ ∃ known, store.memory.positions.find? symbol = some known ∧
          known.Alike position := by
  rw [corrected_of_run ran, List.mem_filter, ← find?_saved keyed]
  constructor
  · rintro ⟨listed, wrong⟩
    rcases exists_resolves_of_run ran listed with ⟨position, resolves⟩
    refine ⟨position, (get?_of_run ran).mpr ⟨listed, resolves⟩, ?_⟩
    rw [Sides.isCorrected_of_resolves resolves] at wrong
    exact ((resolve_eq_ok_iff.mp resolves).isCorrection_iff
      (mem_symbols_iff.mp listed)).mp wrong
  · rintro ⟨position, filed, apart⟩
    rcases (get?_of_run ran).mp filed with ⟨listed, resolves⟩
    refine ⟨listed, ?_⟩
    rw [Sides.isCorrected_of_resolves resolves]
    exact ((resolve_eq_ok_iff.mp resolves).isCorrection_iff
      (mem_symbols_iff.mp listed)).mpr apart

/-- What the book files is found again, and needs no correction. -/
theorem resolves_again
    (keyed : store.memory.IsKeyed)
    (ran : run store venue before now = (saved, after, .ok summary))
    {symbol : Symbol}
    (listed : symbol ∈ (sides saved venue).symbols)
    (later : Instant) :
    ∃ position, after.get? symbol = some position ∧
      (sides saved venue).resolves later symbol position ∧
      (sides saved venue).isCorrected later symbol = false := by
  have known :
      (sides saved venue).saved.find? symbol = after.get? symbol := by
    rw [find?_saved (isKeyed_of_run keyed ran), positions_of_run keyed ran]
    rfl
  have first : symbol ∈ (sides store venue).symbols := by
    rcases mem_symbols_iff.mp listed with found | held
    · rw [known] at found
      exact (isSome_get?_of_run ran).mp found
    · exact mem_symbols_iff.mpr (Or.inr held)
  rcases exists_resolves_of_run ran first with ⟨position, resolves⟩
  have filed := (get?_of_run ran).mpr ⟨first, resolves⟩
  have again : (sides saved venue).resolves later symbol position := by
    unfold Sides.resolves
    rw [known, filed]
    exact resolve_eq_ok_iff.mpr ((resolve_eq_ok_iff.mp resolves).again later)
  refine ⟨position, filed, again, ?_⟩
  rw [Sides.isCorrected_of_resolves again, known, filed]
  exact isCorrection_self position

/-- A second reconciliation finds nothing to do, also if saves fail by then. -/
theorem run_again
    (keyed : store.memory.IsKeyed)
    (ran : run store venue before now = (saved, after, .ok summary))
    (later : Instant) :
    run saved venue after later = (saved, after, .ok ⟨after.size, []⟩) := by
  have quiet : ∀ symbol ∈ (sides saved venue).symbols,
      (sides saved venue).isCorrected later symbol = false := by
    intro symbol listed
    rcases resolves_again keyed ran listed later with ⟨_, _, _, agreed⟩
    exact agreed
  have each : ∀ symbol ∈ (sides saved venue).symbols, ∃ position,
      (sides saved venue).resolves later symbol position ∧
        position.WellFormed := by
    intro symbol listed
    rcases resolves_again keyed ran listed later with
      ⟨position, filed, resolves, _⟩
    exact ⟨position, resolves, wellFormed_of_run ran filed⟩
  rcases exists_run each (fun _ => quiet) after with
    ⟨store', after', summary', again⟩
  have files (symbol : Symbol) : after'.get? symbol = after.get? symbol := by
    by_cases listed : symbol ∈ (sides saved venue).symbols
    · rcases resolves_again keyed ran listed later with
        ⟨position, filed, resolves, _⟩
      rw [filed]
      exact (get?_of_run again).mpr ⟨listed, resolves⟩
    · rw [get?_of_run_of_unlisted again listed]
      rw [mem_symbols_iff, not_or,
        find?_saved (isKeyed_of_run keyed ran),
        positions_of_run keyed ran] at listed
      exact (Option.not_isSome_iff_eq_none.mp listed.1).symm
  rcases run_eq_ok_iff.mp again with
    ⟨last, reconciles, restored, rfl, rfl⟩
  rcases Book.restore_eq_ok_iff.mp restored with ⟨_, _, rfl⟩
  have same :
      OrderedMap.indexed Position.symbol last.resolved = after.positions :=
    OrderedMap.eq_of_find?_eq files
  rw [again, same, reconciles.store_eq quiet, reconciles.corrected_eq,
    List.filter_eq_nil_iff.mpr]
  · rfl
  · intro symbol listed
    rw [quiet symbol listed]
    exact Bool.false_ne_true

/-- A reconciliation that fails leaves the book as it was. -/
theorem book_of_run_error
    {fault : Fault}
    (failed : (run store venue before now).2.2 = .error fault) :
    (run store venue before now).2.1 = before := by
  revert failed
  simp only [run]
  generalize settleAll _ _ _ _ = outcome
  rcases outcome with ⟨progress, fault | done⟩
  · exact fun _ => rfl
  · cases before.restore progress.resolved with
    | error fault => simp
    | ok book => simp

/-- What a reconciliation asks of the store and of the venue. -/
structure Reconcilable (store : Store) (venue : PaperVenue) : Prop where
  working : store.isFailing = false
  keyed : store.memory.IsKeyed
  shaped : ∀ position ∈ store.memory.loadAll, position.WellFormed
  distinct : (venue.openPositions.map Venue.Holding.symbol).Nodup
  unsigned : ∀ held ∈ venue.openPositions, 0 ≤ held.quantity.value

theorem Reconcilable.exists_resolves
    (reconcilable : Reconcilable store venue)
    (symbol : Symbol)
    (now : Instant) :
    ∃ position, (sides store venue).resolves now symbol position ∧
      position.WellFormed := by
  have unsigned : ∀ holding,
      (sides store venue).held.find? symbol = some holding →
        0 < holding.quantity.value := by
    intro holding found
    rcases (PaperVenue.holdsLast_iff reconcilable.distinct).mp
      (find?_held_eq_some_iff.mp found).1 with ⟨member, present⟩
    exact lt_of_le_of_ne (reconcilable.unsigned holding member)
      (Ne.symm present)
  have reached : ∃ position,
      Resolved symbol now ((sides store venue).saved.find? symbol)
        ((sides store venue).held.find? symbol) position :=
    exists_resolved unsigned
  rcases reached with ⟨position, resolved⟩
  refine ⟨position, resolve_eq_ok_iff.mpr resolved, resolved.wellFormed ?_⟩
  intro known found
  exact reconcilable.shaped known (OrderedMap.mem_of_find?_indexed found).1

/-- What a reconciliation makes of the store and of the book. -/
structure Installed
    (store : Store)
    (venue : PaperVenue)
    (saved : Store)
    (after : Book)
    (summary : Summary) :
    Prop where
  /-- What was saved and what the venue holds is filed, and nothing else. -/
  filed : ∀ symbol, (after.get? symbol).isSome = true ↔
    (store.memory.positions.find? symbol).isSome = true ∨
      ∃ held, venue.Holds held ∧ held.symbol = symbol
  /-- What the venue holds is open. -/
  held : ∀ held, venue.Holds held → ∃ position,
    after.get? held.symbol = some position ∧ position.IsHolding held
  /-- What the venue does not hold is flat. -/
  unheld : ∀ symbol position, after.get? symbol = some position →
    (∀ held, venue.Holds held → held.symbol ≠ symbol) →
      position.state = .flat
  restored : summary.restored = after.size
  /-- What was not saved as it is filed has been corrected. -/
  corrected : ∀ symbol, symbol ∈ summary.corrected ↔
    ∃ position, after.get? symbol = some position ∧
      ¬ ∃ known, store.memory.positions.find? symbol = some known ∧
        known.Alike position
  ordered : summary.corrected.Pairwise fun first second =>
    compare first second = .lt
  stored : saved.memory.positions = after.positions
  again : ∀ later, run saved venue after later =
    (saved, after, .ok ⟨after.size, []⟩)

theorem Reconcilable.installed
    (reconcilable : Reconcilable store venue)
    (ran : run store venue before now = (saved, after, .ok summary)) :
    Installed store venue saved after summary := by
  have keyed := reconcilable.keyed
  have holds {symbol : Symbol} {held : Venue.Holding} :
      (sides store venue).held.find? symbol = some held ↔
        venue.Holds held ∧ held.symbol = symbol := by
    rw [find?_held_eq_some_iff,
      PaperVenue.holdsLast_iff reconcilable.distinct]
  refine
    { filed := ?_
      held := ?_
      unheld := ?_
      restored := ?_
      corrected := fun symbol => mem_corrected_iff keyed ran
      ordered := ?_
      stored := positions_of_run keyed ran
      again := run_again keyed ran }
  · intro symbol
    rw [isSome_get?_of_run ran, mem_symbols_iff, find?_saved keyed]
    simp only [Option.isSome_iff_exists, holds]
  · intro held present
    rcases exists_resolved_of_run ran (holds.mpr ⟨present, rfl⟩) with
      ⟨position, filed, resolved⟩
    exact ⟨position, filed, resolved.isHolding⟩
  · intro symbol position filed unheld
    have absent : (sides store venue).held.find? symbol = none := by
      refine Option.eq_none_iff_forall_ne_some.mpr ?_
      intro held found
      rcases holds.mp found with ⟨present, about⟩
      exact unheld held present about
    have resolves := ((get?_of_run ran).mp filed).2
    unfold Sides.resolves at resolves
    rw [absent] at resolves
    exact (resolve_eq_ok_iff.mp resolves).state_eq_flat
  · rcases run_eq_ok_iff.mp ran with ⟨_, _, _, _, rfl⟩
    rfl
  · rw [corrected_of_run ran]
    exact (OrderedMap.sortedKeys_pairwise _).filter _

end Ran

/--
A reconciliation installs what the venue says, tells what it has corrected and
leaves nothing to correct to the next one.  One that fails changes no book.
-/
theorem reconciliation_installs_venue :
    (∀ {store : Store} {venue : PaperVenue}, Reconcilable store venue →
      ∀ before now, ∃ saved after summary,
        run store venue before now = (saved, after, .ok summary) ∧
          Installed store venue saved after summary) ∧
    ∀ store venue before now fault,
      (run store venue before now).2.2 = .error fault →
        (run store venue before now).2.1 = before := by
  constructor
  · intro store venue reconcilable before now
    have each : ∀ symbol ∈ (sides store venue).symbols, ∃ position,
        (sides store venue).resolves now symbol position ∧
          position.WellFormed :=
      fun symbol _ => reconcilable.exists_resolves symbol now
    have working : store.isFailing = true →
        ∀ symbol ∈ (sides store venue).symbols,
          (sides store venue).isCorrected now symbol = false := by
      intro failing
      rw [reconcilable.working] at failing
      contradiction
    rcases exists_run each working before with ⟨saved, after, summary, ran⟩
    exact ⟨saved, after, summary, ran, reconcilable.installed ran⟩
  · intro store venue before now fault failed
    exact book_of_run_error failed

namespace Sample

open Desk.Sample

/-- A second instrument. -/
def second : Symbol :=
  ⟨"ETH"⟩

/-- An entry that worked when the desk stopped. -/
def interrupted : Position where
  symbol
  state := .entering
  direction := some .long
  quantity := Decimal.zero
  entryPrice := none
  pendingQuantity := one
  updatedAt := moment 0

/-- A position that was being left when the desk stopped. -/
def departing : Position where
  symbol := second
  state := .closing
  direction := some .short
  quantity := hundred
  entryPrice := some one
  pendingQuantity := hundred
  updatedAt := moment 0

/-- What was saved when the desk stopped. -/
def stopped : Store :=
  .working (MemoryStore.ofList [interrupted, departing])

theorem reconcilable_stopped : Reconcilable stopped History.Sample.holder where
  working := rfl
  keyed := MemoryStore.isKeyed_ofList _
  shaped := by decide +kernel
  distinct := by decide +kernel
  unsigned := by decide +kernel

/-- The entry was filled and the other position left; both are corrected. -/
theorem reconciliation_installs_venue_stopped :
    Reconcilable stopped History.Sample.holder ∧
      (∃ saved after,
        run stopped History.Sample.holder Book.empty (moment 1) =
            (saved, after, .ok ⟨2, [symbol, second]⟩) ∧
          Installed stopped History.Sample.holder saved after
            ⟨2, [symbol, second]⟩) ∧
      (run { stopped with isFailing := true } History.Sample.holder Book.empty
        (moment 1)).2.1 = Book.empty := by
  refine ⟨reconcilable_stopped, ?_, ?_⟩
  · rcases reconciliation_installs_venue.1 reconcilable_stopped Book.empty
      (moment 1) with ⟨saved, after, summary, ran, installed⟩
    have same : summary = ⟨2, [symbol, second]⟩ := by
      have outcome :
          (run stopped History.Sample.holder Book.empty (moment 1)).2.2 =
            .ok ⟨2, [symbol, second]⟩ := by
        decide +kernel
      rw [ran] at outcome
      exact Except.ok.inj outcome
    subst same
    exact ⟨saved, after, ran, installed⟩
  · exact reconciliation_installs_venue.2 _ _ _ _ .persistence
      (by decide +kernel)

end Sample

/-! ## The entry price -/

theorem Resolved.entryPrice
    {symbol : Symbol}
    {now : Instant}
    {saved : Option Position}
    {holding : Venue.Holding}
    {position : Position}
    (resolved : Resolved symbol now saved (some holding) position) :
    (∀ known, saved = some known → known.IsHolding holding →
      position = known) ∧
    ((∀ known, saved = some known → ¬ known.IsHolding holding) →
      position.entryPrice = some holding.entryPrice) := by
  cases resolved with
  | kept agreed =>
    constructor
    · rintro known ⟨⟩ _
      rfl
    · intro apart
      exact absurd (agrees_iff.mp agreed) (apart position rfl)
  | adopted apart =>
    constructor
    · intro known found same
      exact absurd (agrees_iff.mpr same) (apart known found)
    · exact fun _ => rfl

/--
What the venue holds is in the book and in the store with the venue's entry
price, unless it was saved as it is held except for the price: then all of it
stays as it was saved.
-/
theorem entryPrice_of_reconciliation
    {store saved : Store}
    {venue : PaperVenue}
    {before after : Book}
    {now : Instant}
    {summary : Summary}
    (keyed : store.memory.IsKeyed)
    (ran : run store venue before now = (saved, after, .ok summary))
    {held : Venue.Holding}
    (holds : venue.HoldsLast held) :
    ∃ position,
      after.get? held.symbol = some position ∧
      saved.memory.positions.find? held.symbol = some position ∧
      position.IsHolding held ∧
      (∀ known, store.memory.positions.find? held.symbol = some known →
        known.IsHolding held → position = known) ∧
      ((∀ known, store.memory.positions.find? held.symbol = some known →
        ¬ known.IsHolding held) →
          position.entryPrice = some held.entryPrice) := by
  have found :
      (sides store venue).held.find? held.symbol = some held :=
    find?_held_eq_some_iff.mpr ⟨holds, rfl⟩
  rcases exists_resolved_of_run ran found with ⟨position, filed, resolved⟩
  rw [find?_saved keyed] at resolved
  refine ⟨position, filed, ?_, resolved.isHolding, resolved.entryPrice⟩
  rw [positions_of_run keyed ran]
  exact filed

namespace Sample

open Desk.Sample

/-- The store of a desk that has saved the instrument. -/
def remembering : Store :=
  .working (MemoryStore.ofList [History.Sample.outdated])

/-- The instrument is held as it was saved, but at another price. -/
def repriced : Venue.Holding :=
  ⟨symbol, .long, hundred, thousand⟩

/-- The saved position stays, with its own price. -/
theorem stale_entryPrice_survives :
    ∃ saved after,
      run remembering (PaperVenue.holding [repriced]) Book.empty (moment 1) =
        (saved, after, .ok ⟨1, []⟩) ∧
      (PaperVenue.holding [repriced]).HoldsLast repriced ∧
      after.get? repriced.symbol = some History.Sample.outdated ∧
      saved.memory.positions.find? repriced.symbol =
        some History.Sample.outdated ∧
      History.Sample.outdated.entryPrice ≠ some repriced.entryPrice :=
  ⟨_, _, rfl, ⟨[], [], rfl, by decide +kernel, nofun⟩, rfl, rfl, by decide⟩

/-- Less is held than was saved, and at another price. -/
def resized : Venue.Holding :=
  ⟨symbol, .long, one, thousand⟩

/-- The saved position is corrected, and takes the venue's price. -/
theorem entryPrice_of_reconciliation_resized :
    ∃ saved after summary position,
      run remembering (PaperVenue.holding [resized]) Book.empty (moment 1) =
        (saved, after, .ok summary) ∧
      after.get? symbol = some position ∧
      position.entryPrice = some thousand := by
  have ran : ∃ saved after summary,
      run remembering (PaperVenue.holding [resized]) Book.empty (moment 1) =
        (saved, after, .ok summary) :=
    ⟨_, _, _, rfl⟩
  have keyed : remembering.memory.IsKeyed :=
    MemoryStore.isKeyed_ofList _
  have holds : (PaperVenue.holding [resized]).HoldsLast resized :=
    ⟨[], [], rfl, by decide +kernel, nofun⟩
  rcases ran with ⟨saved, after, summary, ran⟩
  rcases entryPrice_of_reconciliation keyed ran holds with
    ⟨position, filed, _, _, _, priced⟩
  refine ⟨saved, after, summary, position, ran, filed, priced ?_⟩
  rintro _ ⟨⟩ same
  exact absurd same.sized (by decide +kernel)

end Sample

end Reconciliation

end MandateDesk
