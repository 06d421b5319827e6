import MandateDesk.Proofs.Lifecycle
import MandateDesk.Proofs.Maps
import MandateDesk.Reconciliation

/-!
# How a reconciliation goes

A symbol is resolved in one of four ways: a saved position that agrees with the
venue is kept, and any other one gives way to what the venue holds; what the
venue does not hold stays flat, or becomes flat.  `Resolved` lists these ways.
What a symbol is resolved to is saved if it is a correction, which `Reconciled`
says of one symbol and `Reconciles` of a list of them.

A reconciliation succeeds when all its symbols are resolved, its corrections
are saved and the positions that it came to have their shape.  The book then
files these positions and nothing else.
-/

namespace MandateDesk

/-! ## One symbol -/

/-- The open position that a holding stands for. -/
def Venue.Holding.position (held : Holding) (now : Instant) : Position where
  symbol := held.symbol
  state := .opened
  direction := some held.direction
  quantity := held.quantity
  entryPrice := some held.entryPrice
  pendingQuantity := Decimal.zero
  updatedAt := now

theorem Position.opened?_eq_ok_iff
    {held : Venue.Holding}
    {now : Instant}
    {position : Position} :
    opened? held.symbol held.direction held.quantity held.entryPrice now =
        .ok position ↔
      (held.position now).WellFormed ∧ held.position now = position := by
  rw [← check_eq_ok_iff]
  unfold opened? Venue.Holding.position
  simp only []
  split
  · rename_i failed
    simp [failed]
  · rename_i passed
    simp [passed]

theorem Venue.Holding.wellFormed_position
    {held : Holding}
    (unsigned : held.quantity.negative = false)
    (present : held.quantity.isZero = false)
    (now : Instant) :
    (held.position now).WellFormed :=
  Position.OpenShape.wellFormed
    ⟨unsigned, present, rfl, rfl, rfl, rfl⟩ rfl

namespace Reconciliation

/-- The ways in which a symbol is resolved. -/
inductive Resolved (symbol : Symbol) (now : Instant) :
    Option Position → Option Venue.Holding → Position → Prop where
  /-- The saved position is what the venue holds. -/
  | kept {position holding}
      (agreed : agrees position holding) :
      Resolved symbol now (some position) (some holding) position
  /-- What the venue holds was not saved. -/
  | adopted {saved holding}
      (apart : ∀ position, saved = some position → ¬ agrees position holding)
      (shaped : (holding.position now).WellFormed) :
      Resolved symbol now saved (some holding) (holding.position now)
  /-- The saved position is flat, and the venue holds nothing. -/
  | idle {position}
      (flat : position.state = .flat) :
      Resolved symbol now (some position) none position
  /-- The venue holds nothing of what was saved. -/
  | dropped {saved}
      (exposed : ∀ position, saved = some position → position.state ≠ .flat) :
      Resolved symbol now saved none (Position.flat symbol now)

theorem resolve_eq_ok_iff
    {saved : Option Position}
    {held : Option Venue.Holding}
    {symbol : Symbol}
    {now : Instant}
    {position : Position} :
    resolve saved held symbol now = .ok position ↔
      Resolved symbol now saved held position := by
  constructor
  · intro resolved
    cases held with
    | none =>
      cases saved with
      | none =>
        cases resolved
        refine .dropped ?_
        rintro _ ⟨⟩
      | some before =>
        simp only [resolve, resolveUnheld, Except.ok.injEq] at resolved
        split at resolved
        · rename_i flat
          subst resolved
          exact .idle (by simpa [Position.isFlat] using flat)
        · rename_i exposed
          subst resolved
          refine .dropped ?_
          rintro _ ⟨⟩
          simpa [Position.isFlat] using exposed
    | some holding =>
      cases saved with
      | none =>
        simp only [resolve, resolveHeld] at resolved
        rcases Position.opened?_eq_ok_iff.mp resolved with ⟨shaped, rfl⟩
        refine .adopted ?_ shaped
        rintro _ ⟨⟩
      | some before =>
        simp only [resolve, resolveHeld] at resolved
        split at resolved
        · rename_i agreed
          cases resolved
          exact .kept agreed
        · rename_i apart
          rcases Position.opened?_eq_ok_iff.mp resolved with ⟨shaped, rfl⟩
          refine .adopted ?_ shaped
          rintro _ ⟨⟩
          exact apart
  · intro resolved
    cases resolved with
    | kept agreed => simp only [resolve, resolveHeld, if_pos agreed]
    | @adopted _ holding apart shaped =>
      have opened := Position.opened?_eq_ok_iff.mpr ⟨shaped, rfl⟩
      cases saved with
      | none =>
        simp only [resolve, resolveHeld]
        exact opened
      | some before =>
        simp only [resolve, resolveHeld, if_neg (apart before rfl)]
        exact opened
    | idle flat =>
      simp only [resolve, resolveUnheld, Position.isFlat, flat,
        beq_self_eq_true, if_true]
    | dropped exposed =>
      cases saved with
      | none => rfl
      | some before =>
        simp [resolve, resolveUnheld, Position.isFlat, exposed before rfl]

/-- The position of a symbol according to both sides. -/
def Sides.resolves
    (sides : Sides)
    (now : Instant)
    (symbol : Symbol)
    (position : Position) :
    Prop :=
  resolve (sides.saved.find? symbol) (sides.held.find? symbol) symbol now =
    .ok position

/-- What becomes of one symbol. -/
inductive Reconciled
    (sides : Sides)
    (now : Instant)
    (progress : Progress)
    (symbol : Symbol) :
    Progress → Prop where
  /-- What was saved is left as it is. -/
  | left {position}
      (resolves : sides.resolves now symbol position)
      (agreed : isCorrection (sides.saved.find? symbol) position = false) :
      Reconciled sides now progress symbol
        { progress with resolved := progress.resolved ++ [position] }
  /-- What was saved is corrected. -/
  | corrected {position}
      (resolves : sides.resolves now symbol position)
      (wrong : isCorrection (sides.saved.find? symbol) position = true)
      (working : progress.store.isFailing = false) :
      Reconciled sides now progress symbol
        { store :=
            { progress.store with
              memory := progress.store.memory.save position }
          resolved := progress.resolved ++ [position]
          corrected := progress.corrected ++ [position.symbol] }

theorem settleSymbol_eq_ok_iff
    {sides : Sides}
    {now : Instant}
    {progress next : Progress}
    {symbol : Symbol} :
    settleSymbol sides now progress symbol = .ok next ↔
      Reconciled sides now progress symbol next := by
  constructor
  · intro settled
    simp only [settleSymbol] at settled
    split at settled
    · contradiction
    rename_i position resolves
    simp only [record] at settled
    split at settled
    · rename_i wrong
      simp only [Store.save] at settled
      cases failing : progress.store.isFailing with
      | true => simp [failing] at settled
      | false =>
        simp only [failing, Bool.false_eq_true, if_false,
          Except.ok.injEq] at settled
        subst settled
        have corrected : Reconciled sides now progress symbol _ :=
          .corrected resolves wrong failing
        simpa only [failing] using corrected
    · rename_i agreed
      cases settled
      exact .left resolves (by simpa using agreed)
  · intro reconciled
    cases reconciled with
    | left resolves agreed =>
      simp only [Sides.resolves] at resolves
      simp [settleSymbol, resolves, record, agreed]
    | corrected resolves wrong working =>
      simp only [Sides.resolves] at resolves
      simp [settleSymbol, resolves, record, wrong, Store.save, working]

/-- What becomes of several symbols, one after another. -/
inductive Reconciles (sides : Sides) (now : Instant) :
    Progress → List Symbol → Progress → Prop where
  | done (progress : Progress) : Reconciles sides now progress [] progress
  | step {progress next last symbol rest}
      (reconciled : Reconciled sides now progress symbol next)
      (onward : Reconciles sides now next rest last) :
      Reconciles sides now progress (symbol :: rest) last

theorem settleAll_eq_ok_iff
    {sides : Sides}
    {now : Instant}
    {symbols : List Symbol}
    {progress last : Progress} :
    settleAll sides now progress symbols = (last, .ok ()) ↔
      Reconciles sides now progress symbols last := by
  constructor
  · intro settled
    induction symbols generalizing progress with
    | nil =>
      cases settled
      exact .done _
    | cons symbol rest hypothesis =>
      simp only [settleAll] at settled
      split at settled
      · cases settled
      · rename_i next stepped
        exact .step (settleSymbol_eq_ok_iff.mp stepped) (hypothesis settled)
  · intro reconciles
    induction reconciles with
    | done => rfl
    | step reconciled _ hypothesis =>
      simp only [settleAll, settleSymbol_eq_ok_iff.mpr reconciled]
      exact hypothesis

/-- Either way one position is added to the resolved ones. -/
theorem Reconciled.exists_resolves
    {sides : Sides}
    {now : Instant}
    {progress next : Progress}
    {symbol : Symbol}
    (reconciled : Reconciled sides now progress symbol next) :
    ∃ position, sides.resolves now symbol position ∧
      next.resolved = progress.resolved ++ [position] := by
  cases reconciled with
  | left resolves => exact ⟨_, resolves, rfl⟩
  | corrected resolves => exact ⟨_, resolves, rfl⟩

theorem Reconciles.exists_resolves
    {sides : Sides}
    {now : Instant}
    {symbols : List Symbol}
    {progress last : Progress}
    (reconciles : Reconciles sides now progress symbols last)
    {symbol : Symbol}
    (member : symbol ∈ symbols) :
    ∃ position, sides.resolves now symbol position := by
  induction reconciles with
  | done => cases member
  | step reconciled _ hypothesis =>
    rcases List.mem_cons.mp member with rfl | later
    · rcases reconciled.exists_resolves with ⟨position, resolves, _⟩
      exact ⟨position, resolves⟩
    · exact hypothesis later

/-- What is resolved was resolved before, or is what a symbol resolves to. -/
theorem Reconciles.mem_resolved
    {sides : Sides}
    {now : Instant}
    {symbols : List Symbol}
    {progress last : Progress}
    (reconciles : Reconciles sides now progress symbols last)
    {position : Position} :
    position ∈ last.resolved ↔
      position ∈ progress.resolved ∨
        ∃ symbol ∈ symbols, sides.resolves now symbol position := by
  induction reconciles with
  | done => simp
  | @step _ _ _ symbol _ reconciled _ hypothesis =>
    rcases reconciled.exists_resolves with ⟨found, resolves, grown⟩
    have here :
        position = found ↔ sides.resolves now symbol position := by
      constructor
      · rintro rfl
        exact resolves
      · intro other
        exact Except.ok.inj (other.symm.trans resolves)
    rw [hypothesis, grown]
    simp only [List.mem_append, List.mem_cons, List.not_mem_nil, or_false,
      here, or_assoc, or_and_right, exists_or, exists_eq_left]

/-! ## The two sides -/

section Sided

variable {store : Store} {venue : PaperVenue} {now : Instant}

theorem mem_symbols_iff
    {sides : Sides}
    {symbol : Symbol} :
    symbol ∈ sides.symbols ↔
      (sides.saved.find? symbol).isSome = true ∨
        (sides.held.find? symbol).isSome = true := by
  simp only [Sides.symbols, OrderedMap.mem_sortedKeys, List.mem_append,
    OrderedMap.mem_keys_iff]

theorem nodup_symbols {sides : Sides} : sides.symbols.Nodup :=
  OrderedMap.keys_nodup _

theorem symbol_of_resolves
    {symbol : Symbol}
    {position : Position}
    (resolves : (sides store venue).resolves now symbol position) :
    position.symbol = symbol := by
  have resolved := resolve_eq_ok_iff.mp resolves
  generalize saved : (sides store venue).saved.find? symbol = before
    at resolved
  generalize held : (sides store venue).held.find? symbol = holding
    at resolved
  cases resolved with
  | kept => exact (OrderedMap.mem_of_find?_indexed saved).2
  | adopted => exact (OrderedMap.mem_of_find?_indexed held).2
  | idle => exact (OrderedMap.mem_of_find?_indexed saved).2
  | dropped => rfl

theorem Reconciles.map_symbol
    {symbols : List Symbol}
    {progress last : Progress}
    (reconciles : Reconciles (sides store venue) now progress symbols last) :
    last.resolved.map Position.symbol =
      progress.resolved.map Position.symbol ++ symbols := by
  induction reconciles with
  | done => rw [List.append_nil]
  | step reconciled _ hypothesis =>
    rcases reconciled.exists_resolves with ⟨position, resolves, grown⟩
    rw [hypothesis, grown, List.map_append, List.append_assoc]
    simp [symbol_of_resolves resolves]

end Sided

end Reconciliation

/-! ## The book -/

theorem Book.collect_eq_ok_iff
    {known recovered : Positions}
    {positions : List Position} :
    collect known positions = .ok recovered ↔
      (∀ position ∈ positions, position.WellFormed) ∧
        (positions.map Position.symbol).Nodup ∧
        (∀ position ∈ positions, known.find? position.symbol = none) ∧
        recovered =
          positions.foldl (fun map position =>
            map.insert position.symbol position) known := by
  induction positions generalizing known with
  | nil => simp [collect, eq_comm]
  | cons head rest hypothesis =>
    constructor
    · intro collected
      simp only [collect] at collected
      split at collected
      · contradiction
      rename_i checked
      split at collected
      · contradiction
      rename_i fresh
      rcases hypothesis.mp collected with ⟨shaped, distinct, unknown, all⟩
      have apart {position : Position} (member : position ∈ rest) :
          position.symbol ≠ head.symbol ∧
            known.find? position.symbol = none := by
        have absent := unknown position member
        rw [OrderedMap.find?_insert] at absent
        split at absent
        · contradiction
        · rename_i other
          exact ⟨other, absent⟩
      refine ⟨List.forall_mem_cons.mpr
        ⟨(Position.check_eq_ok_iff _).mp checked, shaped⟩, ?_, ?_, all⟩
      · refine List.nodup_cons.mpr ⟨?_, distinct⟩
        intro listed
        rcases List.mem_map.mp listed with ⟨position, member, same⟩
        exact (apart member).1 same
      · refine List.forall_mem_cons.mpr ⟨?_, fun _ member => (apart member).2⟩
        simpa [OrderedMap.contains] using fresh
    · rintro ⟨shaped, distinct, unknown, all⟩
      rw [List.forall_mem_cons] at shaped unknown
      rcases List.nodup_cons.mp distinct with ⟨unlisted, rest⟩
      have fresh : known.contains head.symbol = false := by
        rw [OrderedMap.contains, unknown.1]
        rfl
      simp only [collect, (Position.check_eq_ok_iff _).mpr shaped.1, fresh]
      refine hypothesis.mpr ⟨shaped.2, rest, ?_, all⟩
      intro position member
      rw [OrderedMap.find?_insert, if_neg, unknown.2 position member]
      intro same
      exact unlisted (List.mem_map.mpr ⟨position, member, same⟩)

/-- A book is restored with positions in their shape, one a symbol. -/
theorem Book.restore_eq_ok_iff
    {book restored : Book}
    {positions : List Position} :
    book.restore positions = .ok restored ↔
      (∀ position ∈ positions, position.WellFormed) ∧
        (positions.map Position.symbol).Nodup ∧
        restored =
          { book with
            positions := OrderedMap.indexed Position.symbol positions } := by
  have collected (recovered : Positions) :
      collect OrderedMap.empty positions = .ok recovered ↔ _ :=
    collect_eq_ok_iff
  unfold restore
  cases outcome : collect OrderedMap.empty positions with
  | error fault =>
    constructor
    · nofun
    · rintro ⟨shaped, distinct, _⟩
      rw [(collected _).mpr ⟨shaped, distinct, fun _ _ => rfl, rfl⟩] at outcome
      contradiction
  | ok recovered =>
    rcases (collected recovered).mp outcome with ⟨shaped, distinct, _, rfl⟩
    constructor
    · rintro ⟨⟩
      exact ⟨shaped, distinct, rfl⟩
    · rintro ⟨_, _, rfl⟩
      rfl

/-! ## The whole -/

namespace Reconciliation

/-- What a successful reconciliation comes to. -/
theorem run_eq_ok_iff
    {store saved : Store}
    {venue : PaperVenue}
    {before after : Book}
    {now : Instant}
    {summary : Summary} :
    run store venue before now = (saved, after, .ok summary) ↔
      ∃ last,
        Reconciles (sides store venue) now ⟨store, [], []⟩
            (sides store venue).symbols last ∧
          before.restore last.resolved = .ok after ∧
          saved = last.store ∧ summary = ⟨after.size, last.corrected⟩ := by
  simp only [← settleAll_eq_ok_iff, run]
  generalize settleAll _ _ _ _ = outcome
  rcases outcome with ⟨last, fault | done⟩
  · simp
  · cases restored : before.restore last.resolved with
    | error fault => simp [restored]
    | ok book =>
      constructor
      · rintro ⟨⟩
        exact ⟨last, rfl, restored, rfl, rfl⟩
      · rintro ⟨_, ⟨⟩, other, rfl, rfl⟩
        rw [restored] at other
        cases other
        rfl

/-- The book files what each symbol is resolved to, and nothing else. -/
theorem get?_of_run
    {store saved : Store}
    {venue : PaperVenue}
    {before after : Book}
    {now : Instant}
    {summary : Summary}
    (ran : run store venue before now = (saved, after, .ok summary))
    {symbol : Symbol}
    {position : Position} :
    after.get? symbol = some position ↔
      symbol ∈ (sides store venue).symbols ∧
        (sides store venue).resolves now symbol position := by
  rcases run_eq_ok_iff.mp ran with ⟨last, reconciles, restored, _⟩
  rcases Book.restore_eq_ok_iff.mp restored with ⟨_, distinct, rfl⟩
  show (OrderedMap.indexed Position.symbol last.resolved).find? symbol =
    some position ↔ _
  rw [OrderedMap.find?_indexed_of_nodup distinct, reconciles.mem_resolved]
  constructor
  · rintro ⟨impossible | ⟨other, listed, resolves⟩, rfl⟩
    · cases impossible
    · rw [symbol_of_resolves resolves]
      exact ⟨listed, resolves⟩
  · rintro ⟨listed, resolves⟩
    exact ⟨Or.inr ⟨symbol, listed, resolves⟩, symbol_of_resolves resolves⟩

theorem get?_of_run_of_unlisted
    {store saved : Store}
    {venue : PaperVenue}
    {before after : Book}
    {now : Instant}
    {summary : Summary}
    (ran : run store venue before now = (saved, after, .ok summary))
    {symbol : Symbol}
    (unlisted : symbol ∉ (sides store venue).symbols) :
    after.get? symbol = none := by
  cases found : after.get? symbol with
  | none => rfl
  | some position => exact absurd ((get?_of_run ran).mp found).1 unlisted

theorem wellFormed_of_run
    {store saved : Store}
    {venue : PaperVenue}
    {before after : Book}
    {now : Instant}
    {summary : Summary}
    (ran : run store venue before now = (saved, after, .ok summary))
    {symbol : Symbol}
    {position : Position}
    (found : after.get? symbol = some position) :
    position.WellFormed := by
  rcases run_eq_ok_iff.mp ran with ⟨last, _, restored, _⟩
  rcases Book.restore_eq_ok_iff.mp restored with ⟨shaped, _, rfl⟩
  exact shaped position (OrderedMap.mem_of_find?_indexed found).1

theorem exists_resolves_of_run
    {store saved : Store}
    {venue : PaperVenue}
    {before after : Book}
    {now : Instant}
    {summary : Summary}
    (ran : run store venue before now = (saved, after, .ok summary))
    {symbol : Symbol}
    (listed : symbol ∈ (sides store venue).symbols) :
    ∃ position, (sides store venue).resolves now symbol position := by
  rcases run_eq_ok_iff.mp ran with ⟨_, reconciles, _⟩
  exact reconciles.exists_resolves listed

end Reconciliation

end MandateDesk
