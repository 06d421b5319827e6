import MandateDesk.Proofs.Changes
import MandateDesk.Proofs.Endurance
import MandateDesk.Proofs.Holdings

/-!
# What is saved

A desk saves a position each time the position changes, and at no other time.
So as long as no save has failed, the store holds the positions of the book,
and nothing else.  `Mirrored` says so of a desk, and every change keeps it.

A reconciliation starts like that: it saves each position that it corrects, and
what it does not correct is what was saved, to the last field.
-/

namespace MandateDesk

/-! ## Changes -/

namespace Desk

/-- Unless a save has failed, the store holds the positions of the book. -/
structure Mirrored (desk : Desk) : Prop where
  inPlace : desk.InPlace
  saved : desk.tally.persistFailures = 0 →
    desk.store.memory.positions = desk.book.positions

/-- A position that has moved is saved, or the failure is counted. -/
theorem Mirrored.persist
    {desk : Desk}
    (mirrored : desk.Mirrored)
    {symbol : Symbol}
    {next : Position}
    (about : next.symbol = symbol)
    (clean :
      (Desk.persist { desk with book := desk.book.moved symbol next }
        symbol).tally.persistFailures = 0) :
    (Desk.persist { desk with book := desk.book.moved symbol next }
        symbol).store.memory.positions =
      (desk.book.moved symbol next).positions := by
  have found : (desk.book.moved symbol next).get? symbol = some next := by
    rw [Book.get?_moved, if_pos rfl]
  unfold Desk.persist Store.save at clean ⊢
  simp only [found] at clean ⊢
  cases failing : desk.store.isFailing with
  | true => simp [failing, Tally.withPersistFailure] at clean
  | false =>
    simp only [failing, Bool.false_eq_true, if_false] at clean ⊢
    show desk.store.memory.positions.insert next.symbol next = _
    rw [mirrored.saved clean, about]
    rfl

theorem Change.mirrored
    {desk after : Desk}
    (change : Change desk after)
    (mirrored : desk.Mirrored) :
    after.Mirrored := by
  refine ⟨change.inPlace mirrored.inPlace, fun clean => ?_⟩
  cases change with
  | aside book _ _ memory failures =>
    rw [memory, book]
    exact mirrored.saved (failures ▸ clean)
  | moved applied =>
    rw [book_persist]
    exact mirrored.persist (mirrored.inPlace.symbol_eq applied) clean
  | launched => exact mirrored.saved clean
  | marked => exact mirrored.saved clean
  | forgotten => exact mirrored.saved clean
  | numbered => exact mirrored.saved clean

theorem Becomes.mirrored
    {desk after : Desk}
    (becomes : Becomes desk after)
    (mirrored : desk.Mirrored) :
    after.Mirrored := by
  induction becomes with
  | refl => exact mirrored
  | tail _ change hypothesis => exact change.mirrored hypothesis

/-- A position is listed under the symbol that it is filed under. -/
theorem InPlace.symbols_eq_keys
    {desk : Desk}
    (inPlace : desk.InPlace) :
    desk.book.positions.values.map Position.symbol =
      desk.book.positions.keys := by
  unfold OrderedMap.values OrderedMap.keys
  rw [List.map_map]
  refine List.map_congr_left fun entry member => ?_
  exact inPlace.keyed ((OrderedMap.mem_entries_iff _ _ _).mp member)

end Desk

/-! ## Reconciliations -/

/-- A store files what it has saved under its symbol. -/
def MemoryStore.IsKeyed (store : MemoryStore) : Prop :=
  ∀ symbol position,
    store.positions.find? symbol = some position → position.symbol = symbol

theorem MemoryStore.IsKeyed.save
    {store : MemoryStore}
    (keyed : store.IsKeyed)
    (position : Position) :
    (store.save position).IsKeyed := by
  intro symbol filed found
  rw [find?_save] at found
  split at found
  · rename_i own
    cases found
    exact own.symm
  · exact keyed symbol filed found

theorem MemoryStore.isKeyed_ofList
    (positions : List Position) :
    (ofList positions).IsKeyed := by
  have saved {known : MemoryStore} (keyed : known.IsKeyed) :
      (positions.foldl save known).IsKeyed := by
    induction positions generalizing known with
    | nil => exact keyed
    | cons position _ hypothesis => exact hypothesis (keyed.save position)
  refine saved ?_
  intro symbol position impossible
  cases impossible

namespace Reconciliation

/-- What is not corrected is kept to the last field. -/
theorem eq_saved_of_isCorrection
    {saved : Option Position}
    {held : Option Venue.Holding}
    {symbol : Symbol}
    {now : Instant}
    {position : Position}
    (known : saved.isSome = true ∨ held.isSome = true)
    (resolved : resolve saved held symbol now = .ok position)
    (agreed : isCorrection saved position = false) :
    saved = some position := by
  cases resolve_eq_ok_iff.mp resolved with
  | kept => rfl
  | idle => rfl
  | adopted apart =>
    cases saved with
    | none =>
      simp [isCorrection, Position.isFlat, Venue.Holding.position] at agreed
    | some before =>
      simp only [isCorrection, Bool.or_eq_false_iff, decide_eq_false_iff_not,
        not_not] at agreed
      rcases agreed with ⟨⟨state, quantity⟩, direction⟩
      exact absurd ⟨state, direction, quantity⟩ (apart before rfl)
  | dropped exposed =>
    cases saved with
    | none => simp at known
    | some before =>
      simp only [isCorrection, Bool.or_eq_false_iff, decide_eq_false_iff_not,
        not_not] at agreed
      exact absurd agreed.1.1 (exposed before rfl)

section Saving

variable {store : Store} {venue : PaperVenue} {now : Instant}

/-- A symbol has in the store what it resolves to, and the others are left. -/
theorem Reconciled.find?_memory
    {progress next : Progress}
    {symbol : Symbol}
    (reconciled : Reconciled (sides store venue) now progress symbol next)
    (listed : symbol ∈ (sides store venue).symbols)
    (known :
      progress.store.memory.positions.find? symbol =
        (sides store venue).saved.find? symbol) :
    ∃ position, (sides store venue).resolves now symbol position ∧
      ∀ other, next.store.memory.positions.find? other =
        if other = symbol then some position
        else progress.store.memory.positions.find? other := by
  cases reconciled with
  | @left position resolves agreed =>
    refine ⟨position, resolves, ?_⟩
    intro other
    split
    · rename_i same
      rw [same, known]
      exact eq_saved_of_isCorrection (mem_symbols_iff.mp listed) resolves
        agreed
    · rfl
  | @corrected position resolves =>
    refine ⟨position, resolves, ?_⟩
    intro other
    rw [MemoryStore.find?_save, symbol_of_resolves resolves]

/--
Each symbol that was gone through has what it resolves to in the store, and
each other one has what was there before.
-/
theorem Reconciles.find?_memory
    {symbols : List Symbol}
    {progress last : Progress}
    (reconciles : Reconciles (sides store venue) now progress symbols last)
    (distinct : symbols.Nodup)
    (listed : ∀ symbol ∈ symbols, symbol ∈ (sides store venue).symbols)
    (known : ∀ symbol ∈ symbols,
      progress.store.memory.positions.find? symbol =
        (sides store venue).saved.find? symbol)
    (symbol : Symbol) :
    (symbol ∈ symbols →
      ∃ position, (sides store venue).resolves now symbol position ∧
        last.store.memory.positions.find? symbol = some position) ∧
    (symbol ∉ symbols →
      last.store.memory.positions.find? symbol =
        progress.store.memory.positions.find? symbol) := by
  induction reconciles with
  | done => exact ⟨nofun, fun _ => rfl⟩
  | @step progress _ _ head rest reconciled _ hypothesis =>
    rcases List.nodup_cons.mp distinct with ⟨unlisted, later⟩
    rw [List.forall_mem_cons] at listed known
    rcases reconciled.find?_memory listed.1 known.1 with
      ⟨position, resolves, memory⟩
    have apart {other : Symbol} (member : other ∈ rest) : other ≠ head := by
      rintro rfl
      exact unlisted member
    have onward := hypothesis later listed.2 (by
      intro other member
      rw [memory, if_neg (apart member)]
      exact known.2 other member)
    constructor
    · intro member
      rcases List.mem_cons.mp member with rfl | among
      · refine ⟨position, resolves, ?_⟩
        rw [onward.2 unlisted, memory, if_pos rfl]
      · exact onward.1 among
    · intro outside
      rw [List.mem_cons, not_or] at outside
      rw [onward.2 outside.2, memory, if_neg outside.1]

theorem find?_saved
    (keyed : store.memory.IsKeyed)
    (symbol : Symbol) :
    (sides store venue).saved.find? symbol =
      store.memory.positions.find? symbol :=
  OrderedMap.find?_indexed_values keyed symbol

/-- A reconciliation leaves the recovered positions in the store. -/
theorem positions_of_run
    {saved : Store}
    {before after : Book}
    {summary : Summary}
    (keyed : store.memory.IsKeyed)
    (ran : run store venue before now = (saved, after, .ok summary)) :
    saved.memory.positions = after.positions := by
  rcases run_eq_ok_iff.mp ran with ⟨last, reconciles, _, rfl, _⟩
  refine OrderedMap.eq_of_find?_eq fun symbol => ?_
  have memory :=
    reconciles.find?_memory nodup_symbols (fun _ listed => listed)
      (fun other _ => (find?_saved keyed other).symm) symbol
  show _ = after.get? symbol
  by_cases listed : symbol ∈ (sides store venue).symbols
  · rcases memory.1 listed with ⟨position, resolves, found⟩
    exact found.trans ((get?_of_run ran).mpr ⟨listed, resolves⟩).symm
  · rw [memory.2 listed, get?_of_run_of_unlisted ran listed]
    rw [mem_symbols_iff, not_or] at listed
    simpa [find?_saved keyed] using listed.1

end Saving

end Reconciliation

/-! ## Runs of a session -/

namespace Session

/--
A session at its beginning with an empty store, or with what it recovers from a
store that positions were saved into.
-/
inductive BeginsSaved : Session → Prop where
  | blank (parameters : Desk.Parameters) (limits : Risk.Limits)
      (genesis : Snapshot) (venue : PaperVenue) (isFailing : Bool) :
      BeginsSaved
        (initial parameters limits genesis venue
          (Desk.blank ⟨MemoryStore.empty, isFailing⟩))
  | started {parameters limits genesis venue positions isFailing now session
        summary}
      (started :
        start parameters limits genesis venue
            ⟨MemoryStore.ofList positions, isFailing⟩ now =
          .ok (session, summary)) :
      BeginsSaved session

theorem BeginsSaved.mirrored
    {session : Session}
    (begins : session.BeginsSaved) :
    session.desk.Mirrored := by
  cases begins with
  | blank => exact ⟨Desk.inPlace_blank _, fun _ => rfl⟩
  | started started =>
    unfold start at started
    split at started
    · contradiction
    · rename_i ran
      cases started
      refine ⟨(Desk.coherent_recovered ran).inPlace, fun _ => ?_⟩
      exact Reconciliation.positions_of_run
        (MemoryStore.isKeyed_ofList _) ran

end Session

namespace History

/--
As long as no save has failed, the store gives back the positions of the book,
in the order of their symbols, whatever the session was asked to do.
-/
theorem store_is_the_book
    {session : Session}
    (begins : session.BeginsSaved)
    {commands : List (Instant × Session.Command)}
    {desk : Desk}
    (led : ((beginning session).through commands).session.desk = desk)
    (clean : desk.tally.persistFailures = 0) :
    desk.store.memory.loadAll = desk.book.positions.values ∧
      (desk.store.memory.loadAll.map Position.symbol).Pairwise
        fun first second => compare first second = .lt := by
  have mirrored : desk.Mirrored := by
    rw [← led]
    exact (becomes_through begins.mirrored.inPlace commands).mirrored
      begins.mirrored
  have same :
      desk.store.memory.loadAll = desk.book.positions.values := by
    unfold MemoryStore.loadAll
    rw [mirrored.saved clean]
  refine ⟨same, ?_⟩
  rw [same, mirrored.inPlace.symbols_eq_keys]
  exact desk.book.positions.keys_pairwise

namespace Sample

open Desk.Sample

/-- What was saved about the instrument: more than the venue holds. -/
def outdated : Position where
  symbol
  state := .opened
  direction := some .long
  quantity := hundred
  entryPrice := some hundred
  pendingQuantity := Decimal.zero
  updatedAt := moment 0

/-- What is recovered instead. -/
def corrected : Position :=
  { outdated with
    quantity := one
    updatedAt := moment 1 }

/-- The venue at which this is found out. -/
def holder : PaperVenue :=
  PaperVenue.holding [⟨symbol, .long, one, hundred⟩]

/-- The session that starts with the correction. -/
def recovered : Session :=
  .initial .standard .standard snapshot holder
    { Desk.blank ⟨MemoryStore.ofList [outdated, corrected], false⟩ with
      book := ⟨OrderedMap.empty.insert symbol corrected, 0⟩ }

theorem begins_recovered : recovered.BeginsSaved :=
  @Session.BeginsSaved.started .standard .standard snapshot holder [outdated]
    false (moment 1) recovered ⟨1, [symbol]⟩ rfl

/-- The position is left, and a report on that is taken. -/
def leavingRecovered : List (Instant × Session.Command) :=
  [(moment 1, .submit exit), (moment 1, .cycle),
    (moment 2, .report ⟨.issued 1, symbol, .filled one hundred⟩)]

/-- The store has followed the position until nothing is held. -/
theorem store_is_the_book_recovered :
    ∃ desk,
      ((beginning recovered).through leavingRecovered).session.desk = desk ∧
      desk.store.memory.loadAll = [Position.flat symbol (moment 2)] ∧
      desk.store.memory.loadAll = desk.book.positions.values :=
  ⟨_, rfl, by decide +kernel,
    (store_is_the_book begins_recovered rfl (by decide +kernel)).1⟩

end Sample

end History

end MandateDesk
