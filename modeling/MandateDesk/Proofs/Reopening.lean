import MandateDesk.Proofs.Mirroring
import MandateDesk.Proofs.Numerals
import MandateDesk.Proofs.Records
import MandateDesk.Proofs.Timestamps
import MandateDesk.Store.File

/-!
# The store in a file and the store in memory

Whatever is saved in a file, and however often the file is closed and opened
again in between, what is loaded is what a store in memory has kept of the same
saves.  Reading a position keeps each of its parts, a decimal number with its
scale and a symbol to the last character; it drops the sign of a zero, which is
no part of its value, and reads a leap second within a minute as it is written.
-/

namespace MandateDesk

namespace Position

/-- A position as it is read back from its record. -/
def reread (position : Position) : Position :=
  { position with
    quantity := position.quantity.withoutZeroSign
    entryPrice := position.entryPrice.map Decimal.withoutZeroSign
    pendingQuantity := position.pendingQuantity.withoutZeroSign
    updatedAt := position.updatedAt.carried }

@[simp]
theorem symbol_reread (position : Position) :
    position.reread.symbol = position.symbol :=
  rfl

/-- A position without signed zeros, changed at a time that can be read. -/
structure IsExact (position : Position) : Prop where
  /-- The filled quantity is no zero with a sign. -/
  quantity : ¬ position.quantity.IsSignedZero
  /-- Nor is the entry price, if there is one. -/
  entryPrice : ∀ price ∈ position.entryPrice, ¬ price.IsSignedZero
  /-- Nor is the quantity of the working order. -/
  pendingQuantity : ¬ position.pendingQuantity.IsSignedZero
  /-- A leap second ends a minute. -/
  updatedAt : position.updatedAt.inLeapSecond = true →
    position.updatedAt.second % 60 = 59

/-- Exactly the exact positions are read back as they were written. -/
theorem reread_eq_self_iff (position : Position) :
    position.reread = position ↔ position.IsExact := by
  obtain ⟨symbol, state, direction, quantity, price, pending, time⟩ := position
  have prices : price.map Decimal.withoutZeroSign = price ↔
      ∀ number ∈ price, ¬ number.IsSignedZero := by
    cases price with
    | none => simp
    | some number => simp [Decimal.withoutZeroSign_eq_self_iff]
  simp only [reread, Position.mk.injEq, true_and,
    Decimal.withoutZeroSign_eq_self_iff, prices, Instant.carried_eq_self_iff]
  constructor
  · rintro ⟨held, entered, working, changed⟩
    exact ⟨held, entered, working, changed⟩
  · rintro ⟨held, entered, working, changed⟩
    exact ⟨held, entered, working, changed⟩

@[simp]
theorem reread_reread (position : Position) :
    position.reread.reread = position.reread := by
  have prices : position.entryPrice.map
      (Decimal.withoutZeroSign ∘ Decimal.withoutZeroSign) =
        position.entryPrice.map Decimal.withoutZeroSign := by
    cases position.entryPrice with
    | none => rfl
    | some price => simp
  simp [reread, prices]

/-- The record of a position has only parts that are asked for. -/
theorem isSelected_record (position : Position) :
    position.record.IsSelected partNames := by
  refine ⟨nofun, ?_⟩
  have direction :
      (Record.ofOption Record.ofDirection position.direction).IsPlain := by
    cases position.direction <;> trivial
  have price :
      (Record.ofOption Record.ofDecimal position.entryPrice).IsPlain := by
    cases position.entryPrice <;> trivial
  intro field listed
  simp only [parts, List.mem_cons, List.not_mem_nil, or_false] at listed
  rcases listed with rfl | rfl | rfl | rfl | rfl | rfl | rfl
  · exact ⟨by simp [partNames], trivial⟩
  · exact ⟨by simp [partNames], trivial⟩
  · exact ⟨by simp [partNames], direction⟩
  · exact ⟨by simp [partNames], trivial⟩
  · exact ⟨by simp [partNames], price⟩
  · exact ⟨by simp [partNames], trivial⟩
  · exact ⟨by simp [partNames], trivial⟩

/-- The record of a position stands for the position. -/
theorem ofRecord?_record
    {position : Position}
    (inside : position.updatedAt.inCalendar = true) :
    ofRecord? position.record = some position.reread := by
  have named : Record.parts? partNames position.record =
      some ⟨position.parts, false⟩ := rfl
  have symbol : Record.symbol? (Record.ofSymbol position.symbol) =
      some position.symbol := rfl
  have state : State.ofRecord? (.string position.state.name) =
      some position.state := State.ofName?_name position.state
  have direction :
      (Record.ofOption Record.ofDirection position.direction).asOptional?
        Record.direction? = some position.direction := by
    cases position.direction with
    | none => rfl
    | some side =>
      simp [Record.ofOption, Record.ofDirection, Json.asOptional?,
        Record.direction?, Json.asWord?, Direction.ofWord?_word]
  have decimal (number : Decimal) :
      (Record.ofDecimal number).asDecimal? = some number.withoutZeroSign :=
    Decimal.read?_text number
  have price :
      (Record.ofOption Record.ofDecimal position.entryPrice).asOptional?
        Json.asDecimal? =
          some (position.entryPrice.map Decimal.withoutZeroSign) := by
    cases position.entryPrice with
    | none => rfl
    | some number =>
      simp [Record.ofOption, Record.ofDecimal, Json.asOptional?,
        Json.asDecimal?]
  have time : (Json.string position.updatedAt.text).asInstant? =
      some position.updatedAt.carried := by
    rw [Json.asInstant?, Json.asText?, Option.bind_some,
      Instant.read?_text inside]
  unfold ofRecord?
  rw [named]
  simp [Record.required?, Record.optional?, Json.field?, parts, state,
    direction, decimal, price, time, symbol, reread]

end Position

namespace FileStore

/-! ## The text of a file -/

theorem mapM_ofRecord?_record
    {positions : List Position}
    (inside : ∀ position ∈ positions, position.updatedAt.inCalendar = true) :
    (positions.map Position.record).mapM Position.ofRecord? =
      some (positions.map Position.reread) := by
  induction positions with
  | nil => rfl
  | cons position others hypothesis =>
    have first := Position.ofRecord?_record
      (inside position (List.mem_cons_self ..))
    have rest := hypothesis fun other listed =>
      inside other (List.mem_cons_of_mem _ listed)
    simp only [List.map_cons, List.mapM_cons, first, rest,
      Option.bind_eq_bind, Option.bind_some, Option.pure_def]

/-- Positions are read back from the text of a file. -/
theorem readText_written
    {positions : List Position}
    (inside : ∀ position ∈ positions, position.updatedAt.inCalendar = true) :
    readText (written positions) = some (positions.map Position.reread) := by
  have nonempty : (written positions).isEmpty = false := by
    cases positions with
    | nil => rfl
    | cons position others =>
      rw [String.isEmpty_eq_false_iff, written, Json.indented, ne_eq,
        String.ofList_eq_empty_iff]
      exact List.cons_ne_nil _ _
  have records : Json.readRecords Position.partNames (written positions) =
      some (positions.map Position.record) := by
    refine Json.readRecords_indented fun record listed => ?_
    rcases List.mem_map.mp listed with ⟨position, -, rfl⟩
    exact position.isSelected_record
  unfold readText
  rw [nonempty, if_neg Bool.false_ne_true, records, Option.bind_some,
    mapM_ofRecord?_record inside]

/-! ## One step -/

/-- What is done to a store. -/
inductive Step where
  /-- A position is saved. -/
  | save (position : Position)
  /-- The file is closed and opened again. -/
  | reopen

/-- A store after a step. -/
def after (store : FileStore) : Step → Except Fault FileStore
  | .save position => .ok (store.save position)
  | .reopen => store.reopen

/-- A store in memory after a step, which only a save changes. -/
def Step.remembered (memory : MemoryStore) : Step → MemoryStore
  | .save position => memory.save position
  | .reopen => memory

/-- Whether the position of a symbol was read back since it was last saved. -/
def Step.isReread (symbol : Symbol) (known : Bool) : Step → Bool
  | .save position => known && position.symbol != symbol
  | .reopen => true

/--
A store in a file holds what a store in memory holds, read back for some of the
symbols, and its file holds it as well.
-/
structure Mirrors
    (store : FileStore)
    (memory : MemoryStore)
    (reread : Symbol → Bool) :
    Prop where
  /-- The positions are those in memory, some of them read back. -/
  kept : store.cache = memory.positions.mapValues fun symbol position =>
    if reread symbol then position.reread else position
  /-- The file can be read, and holds the positions. -/
  file : readFile store.file = some (store.cache.values.map Position.reread)
  /-- Positions are filed under their symbols. -/
  keyed : memory.IsKeyed
  /-- Positions change within the calendar. -/
  inside : ∀ symbol position, memory.positions.find? symbol = some position →
    position.updatedAt.inCalendar = true

namespace Mirrors

variable {store : FileStore} {memory : MemoryStore} {reread : Symbol → Bool}

/-- Reading back does not leave the calendar. -/
theorem inside_values
    {cache : Positions}
    (kept : cache = memory.positions.mapValues fun symbol position =>
      if reread symbol then position.reread else position)
    (inside : ∀ symbol position,
      memory.positions.find? symbol = some position →
        position.updatedAt.inCalendar = true) :
    ∀ position ∈ cache.values, position.updatedAt.inCalendar = true := by
  intro position listed
  rcases (OrderedMap.mem_values_iff _ _).mp listed with ⟨symbol, found⟩
  rw [kept, OrderedMap.find?_mapValues, Option.map_eq_some_iff] at found
  rcases found with ⟨saved, found, rfl⟩
  have known := inside symbol saved found
  split
  · exact Instant.inCalendar_carried known
  · exact known

theorem openFile_none :
    ∃ store, openFile none = .ok store ∧
      store.Mirrors MemoryStore.empty fun _ => false := by
  refine ⟨⟨OrderedMap.empty, none⟩, rfl, rfl, rfl, ?_, ?_⟩
  · exact MemoryStore.isKeyed_ofList []
  · intro symbol position impossible
    cases impossible

theorem save
    (mirrors : store.Mirrors memory reread)
    {position : Position}
    (inside : position.updatedAt.inCalendar = true) :
    (store.save position).Mirrors (memory.save position)
      fun symbol => reread symbol && position.symbol != symbol := by
  have known : ∀ symbol filed,
      (memory.save position).positions.find? symbol = some filed →
        filed.updatedAt.inCalendar = true := by
    intro symbol filed found
    rw [MemoryStore.find?_save] at found
    split at found
    · cases found
      exact inside
    · exact mirrors.inside symbol filed found
  have kept : (store.save position).cache =
      (memory.save position).positions.mapValues fun symbol filed =>
        if reread symbol && position.symbol != symbol then filed.reread
        else filed := by
    refine OrderedMap.eq_of_find?_eq fun symbol => ?_
    have cache : (store.save position).cache =
        store.cache.insert position.symbol position := rfl
    rw [cache, OrderedMap.find?_insert, OrderedMap.find?_mapValues,
      MemoryStore.find?_save, mirrors.kept, OrderedMap.find?_mapValues]
    by_cases own : symbol = position.symbol
    · simp [own]
    · have apart : (position.symbol != symbol) = true :=
        bne_iff_ne.mpr fun same => own same.symm
      simp [own, apart]
  exact ⟨kept, readText_written (inside_values kept known),
    mirrors.keyed.save position, known⟩

/-- A file that is opened again gives back what was saved. -/
theorem reopen
    (mirrors : store.Mirrors memory reread) :
    ∃ opened, store.reopen = .ok opened ∧
      opened.Mirrors memory fun _ => true := by
  let cache := memory.positions.mapValues fun _ position => position.reread
  have values : store.cache.values.map Position.reread = cache.values := by
    have twice : (fun entry : Symbol × Position =>
        (if reread entry.1 then entry.2.reread else entry.2).reread) =
          fun entry => entry.2.reread := by
      funext entry
      split <;> simp
    rw [mirrors.kept]
    simp only [cache, OrderedMap.values, OrderedMap.mapValues, List.map_map,
      Function.comp_def, twice]
  have filed : OrderedMap.indexed Position.symbol cache.values = cache := by
    refine OrderedMap.eq_of_find?_eq fun symbol => ?_
    refine OrderedMap.find?_indexed_values ?_ symbol
    intro key position found
    rw [OrderedMap.find?_mapValues, Option.map_eq_some_iff] at found
    rcases found with ⟨saved, found, rfl⟩
    exact mirrors.keyed key saved found
  have file : readFile store.file = some (cache.values.map Position.reread) := by
    have again : cache.values.map Position.reread = cache.values := by
      simp [cache, OrderedMap.values, OrderedMap.mapValues]
    rw [mirrors.file, values, again]
  have read := mirrors.file
  rw [values] at read
  refine ⟨⟨cache, store.file⟩, ?_, ⟨?_, file, mirrors.keyed, mirrors.inside⟩⟩
  · simp only [FileStore.reopen, openFile, read, filed]
  · simp [cache]

theorem after
    (mirrors : store.Mirrors memory reread)
    (step : Step)
    (inside : ∀ position, step = .save position →
      position.updatedAt.inCalendar = true) :
    ∃ next, store.after step = .ok next ∧
      next.Mirrors (step.remembered memory)
        fun symbol => step.isReread symbol (reread symbol) := by
  cases step with
  | save position => exact ⟨_, rfl, mirrors.save (inside position rfl)⟩
  | reopen => exact mirrors.reopen

end Mirrors

/-! ## Histories -/

/-- A store after a history of steps. -/
def afterAll (store : FileStore) (history : List Step) :
    Except Fault FileStore :=
  history.foldlM after store

/-- The positions that were saved, in their order. -/
def saves (history : List Step) : List Position :=
  history.filterMap fun
    | .save position => some position
    | .reopen => none

/-- Whether the position of a symbol was read back since it was last saved. -/
def isReread (history : List Step) (symbol : Symbol) : Bool :=
  history.foldl (fun known step => step.isReread symbol known) false

theorem Mirrors.afterAll
    {store : FileStore}
    {memory : MemoryStore}
    {reread : Symbol → Bool}
    (mirrors : store.Mirrors memory reread)
    {history : List Step}
    (inside : ∀ position ∈ saves history,
      position.updatedAt.inCalendar = true) :
    ∃ last, store.afterAll history = .ok last ∧
      last.Mirrors ((saves history).foldl MemoryStore.save memory)
        fun symbol =>
          history.foldl (fun known step => step.isReread symbol known)
            (reread symbol) := by
  induction history generalizing store memory reread with
  | nil => exact ⟨store, rfl, mirrors⟩
  | cons step history hypothesis =>
    have first : ∀ position, step = .save position →
        position.updatedAt.inCalendar = true := by
      rintro position rfl
      exact inside position (by simp [saves])
    have rest : ∀ position ∈ saves history,
        position.updatedAt.inCalendar = true := by
      intro position listed
      refine inside position ?_
      cases step with
      | save other => exact List.mem_cons_of_mem _ listed
      | reopen => exact listed
    obtain ⟨next, stepped, mirrored⟩ := mirrors.after step first
    obtain ⟨last, ended, same⟩ := hypothesis mirrored rest
    refine ⟨last, ?_, ?_⟩
    · unfold FileStore.afterAll at ended ⊢
      rw [List.foldlM_cons, stepped]
      exact ended
    · cases step <;> exact same

/-- What is saved last under a symbol is what a store in memory holds. -/
theorem positions_ofList (positions : List Position) :
    (MemoryStore.ofList positions).positions =
      OrderedMap.indexed Position.symbol positions := by
  induction positions using List.reverseRecOn with
  | nil => rfl
  | append_singleton positions position hypothesis =>
    rw [OrderedMap.indexed_concat, ← hypothesis]
    simp [MemoryStore.ofList, MemoryStore.save]

theorem mem_loadAll_ofList_iff
    {positions : List Position}
    {position : Position} :
    position ∈ (MemoryStore.ofList positions).loadAll ↔
      ∃ earlier later, positions = earlier ++ position :: later ∧
        ∀ other ∈ later, other.symbol ≠ position.symbol := by
  unfold MemoryStore.loadAll
  rw [OrderedMap.mem_values_iff, positions_ofList]
  constructor
  · rintro ⟨symbol, found⟩
    rcases OrderedMap.find?_indexed_eq_some_iff.mp found with
      ⟨earlier, later, same, rfl, last⟩
    exact ⟨earlier, later, same, last⟩
  · rintro ⟨earlier, later, same, last⟩
    exact ⟨position.symbol, OrderedMap.find?_indexed_eq_some_iff.mpr
      ⟨earlier, later, same, rfl, last⟩⟩

/-- A store in memory lists its positions in the order of their symbols. -/
theorem symbols_loadAll
    {memory : MemoryStore}
    (keyed : memory.IsKeyed) :
    memory.loadAll.map Position.symbol = memory.positions.keys := by
  unfold MemoryStore.loadAll OrderedMap.values OrderedMap.keys
  rw [List.map_map]
  refine List.map_congr_left ?_
  rintro ⟨symbol, position⟩ listed
  exact keyed symbol position ((OrderedMap.mem_entries_iff _ _ _).mp listed)

theorem Mirrors.loadAll_eq
    {store : FileStore}
    {memory : MemoryStore}
    {reread : Symbol → Bool}
    (mirrors : store.Mirrors memory reread) :
    store.loadAll = memory.loadAll.map fun position =>
      if reread position.symbol then position.reread else position := by
  unfold FileStore.loadAll MemoryStore.loadAll
  rw [mirrors.kept]
  unfold OrderedMap.values OrderedMap.mapValues
  rw [List.map_map, List.map_map]
  refine List.map_congr_left ?_
  rintro ⟨symbol, position⟩ listed
  have own := mirrors.keyed symbol position
    ((OrderedMap.mem_entries_iff _ _ _).mp listed)
  simp only [Function.comp_def, own]

/--
After any saves and any reopenings a store in a file loads what a store in
memory loads after the same saves: the last position saved of each symbol, in
symbol order.  Those that were read back since are listed as they are read,
which for exact positions is as they were saved.
-/
theorem loadAll_after_reopenings
    (history : List Step)
    (inside : ∀ position ∈ saves history,
      position.updatedAt.inCalendar = true) :
    ∃ opened last,
      openFile none = .ok opened ∧ opened.afterAll history = .ok last ∧
      last.loadAll =
        (MemoryStore.ofList (saves history)).loadAll.map (fun position =>
          if isReread history position.symbol then position.reread
          else position) ∧
      ((∀ position ∈ saves history, position.IsExact) →
        last.loadAll = (MemoryStore.ofList (saves history)).loadAll) ∧
      (last.loadAll.map Position.symbol).Pairwise
        (fun first second => compare first second = .lt) ∧
      (∀ position, position ∈ (MemoryStore.ofList (saves history)).loadAll ↔
        ∃ earlier later, saves history = earlier ++ position :: later ∧
          ∀ other ∈ later, other.symbol ≠ position.symbol) := by
  obtain ⟨opened, empty, fresh⟩ := Mirrors.openFile_none
  obtain ⟨last, ended, mirrors⟩ := fresh.afterAll inside
  have loaded : last.loadAll =
      (MemoryStore.ofList (saves history)).loadAll.map fun position =>
        if isReread history position.symbol then position.reread
        else position :=
    mirrors.loadAll_eq
  refine ⟨opened, last, empty, ended, loaded, ?_, ?_, ?_⟩
  · intro exactly
    rw [loaded]
    refine (List.map_congr_left fun position listed => ?_).trans
      (List.map_id _)
    rcases mem_loadAll_ofList_iff.mp listed with ⟨earlier, later, same, -⟩
    have saved : position ∈ saves history := by
      rw [same]
      simp
    have kept := (Position.reread_eq_self_iff position).mpr
      (exactly position saved)
    rw [kept, ite_self, id_eq]
  · have symbols : last.loadAll.map Position.symbol =
        (MemoryStore.ofList (saves history)).loadAll.map Position.symbol := by
      rw [loaded, List.map_map]
      refine List.map_congr_left fun position _ => ?_
      simp only [Function.comp_def]
      split <;> simp
    rw [symbols, symbols_loadAll (MemoryStore.isKeyed_ofList _)]
    exact OrderedMap.keys_pairwise _
  · intro position
    exact mem_loadAll_ofList_iff

namespace Sample

/-- A zero with a sign, as it comes of rounding a small negative number. -/
def signedZero : Decimal :=
  ⟨true, 0, 28, by decide, by decide⟩

/-- A position whose entry price is such a zero. -/
def rounded : Position where
  symbol := ⟨"\u03B2 \"\n"⟩
  state := .opened
  direction := some .long
  quantity := ⟨false, 40000, 4, by decide, by decide⟩
  entryPrice := some signedZero
  pendingQuantity := Decimal.zero
  updatedAt := ⟨59, 1500000000, by decide⟩

/-- A position without such a zero, of a symbol in front of the other. -/
def exactly : Position :=
  { rounded with
    symbol := ⟨"A"⟩
    entryPrice := none
    updatedAt := Instant.epoch }

/-- The second position is saved between two openings of the file. -/
def history : List Step :=
  [.save rounded, .save exactly, .reopen, .save exactly, .reopen]

/-- Only the sign of the zero is lost. -/
theorem loadAll_after_reopenings_rounded :
    ∃ opened last,
      openFile none = .ok opened ∧ opened.afterAll history = .ok last ∧
      last.loadAll =
        [exactly, { rounded with entryPrice := some ⟨false, 0, 28, by decide,
          by decide⟩ }] := by
  obtain ⟨opened, last, empty, ended, loaded, -⟩ :=
    loadAll_after_reopenings history (by decide +kernel)
  refine ⟨opened, last, empty, ended, ?_⟩
  rw [loaded]
  decide +kernel

/-- A position that does not come back from a file to the last field. -/
def IsChanged (position : Position) : Prop :=
  position.updatedAt.inCalendar = true ∧
    ∃ opened last,
      openFile none = .ok opened ∧
        opened.afterAll [.save position, .reopen] = .ok last ∧
        last.loadAll ≠ (MemoryStore.ofList [position]).loadAll

theorem isChanged_of_reread_ne
    {position : Position}
    (inside : position.updatedAt.inCalendar = true)
    (changed : (MemoryStore.ofList [position]).loadAll.map Position.reread ≠
      (MemoryStore.ofList [position]).loadAll) :
    IsChanged position := by
  obtain ⟨opened, begun, blank⟩ := Mirrors.openFile_none
  have saved : ∀ other ∈ saves [.save position, .reopen],
      other.updatedAt.inCalendar = true := by
    intro other member
    obtain rfl : other = position := List.mem_singleton.mp member
    exact inside
  obtain ⟨last, ended, mirrors⟩ := blank.afterAll saved
  refine ⟨inside, opened, last, begun, ended, ?_⟩
  rw [mirrors.loadAll_eq]
  exact changed

/-- A position that changed in a leap second within a minute. -/
def misplaced : Position :=
  { exactly with updatedAt := ⟨30, 1500000000, by decide⟩ }

/-- Neither of the two comes back to the last field. -/
theorem inexact_positions_are_not_kept :
    IsChanged rounded ∧ IsChanged misplaced :=
  ⟨isChanged_of_reread_ne (by decide) (by decide),
    isChanged_of_reread_ne (by decide) (by decide)⟩

end Sample

end FileStore

end MandateDesk
