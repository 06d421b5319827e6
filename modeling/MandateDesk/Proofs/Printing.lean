import MandateDesk.Proofs.Documents
import MandateDesk.Proofs.Layering
import MandateDesk.Proofs.Numerals
import MandateDesk.Settings.Printer

/-!
# Printed settings

The text of settings is a document of five tables.  `blocks` says line by line
what the tables hold, `tree` is the tree that they grow, and `fields` is the
table that the tree stands for.

Numbers of more than 63 bits have no written form.  Settings without such
numbers are read back from their text to the last one, whatever their texts
and decimal numbers are.
-/

namespace MandateDesk.Settings

open Toml (Row Block Entries Item Surrounds)

/-! ## Lines -/

/-- A line with a text. -/
def textRow (name text : String) : Row where
  name := name
  written := Toml.writtenText text
  value := .string text

/-- A line with a number. -/
def numberRow (line : String × Nat) : Row where
  name := line.1
  written := Text.decimalText line.2
  value := Record.ofNat line.2

/-- A line with a truth value. -/
def booleanRow (name : String) (value : Bool) : Row where
  name := name
  written := Toml.writtenBoolean value
  value := .boolean value

theorem isSound_textRow
    {name : String}
    (bare : Toml.IsBareName name)
    (text : String) :
    (textRow name text).IsSound :=
  ⟨bare, Toml.writes_text text⟩

theorem isSound_numberRow
    {line : String × Nat}
    (bare : Toml.IsBareName line.1)
    (fits : line.2 < Text.bound63) :
    (numberRow line).IsSound :=
  ⟨bare, Toml.writes_number fits⟩

theorem isSound_booleanRow
    {name : String}
    (bare : Toml.IsBareName name)
    (value : Bool) :
    (booleanRow name value).IsSound :=
  ⟨bare, Toml.writes_boolean value⟩

/-- A number is written in a line. -/
def writtenLine (line : String × Nat) : String × String :=
  (line.1, Text.decimalText line.2)

theorem numberLines?_of_fits
    {lines : List (String × Nat)}
    (fits : ∀ line ∈ lines, line.2 < Text.bound63) :
    numberLines? lines = some (lines.map writtenLine) := by
  induction lines with
  | nil => rfl
  | cons line rest hypothesis =>
    have first := fits line (List.mem_cons_self ..)
    have later := hypothesis fun other member =>
      fits other (List.mem_cons_of_mem _ member)
    unfold numberLines? at later ⊢
    rw [List.mapM_cons, later]
    simp [Toml.writtenNumber?, first, writtenLine]

theorem numberLines?_of_too_large
    {lines : List (String × Nat)}
    {line : String × Nat}
    (member : line ∈ lines)
    (large : ¬ line.2 < Text.bound63) :
    numberLines? lines = none := by
  induction lines with
  | nil => contradiction
  | cons first rest hypothesis =>
    unfold numberLines? at hypothesis ⊢
    rw [List.mapM_cons]
    rcases List.mem_cons.mp member with rfl | other
    · simp [Toml.writtenNumber?, large]
    · rw [hypothesis other]
      cases Toml.writtenNumber? first.2 <;> rfl

/-! ## Tables -/

/-- The numbers among parameters. -/
def parameterNumbers (parameters : Desk.Parameters) : List (String × Nat) :=
  [("cycle_interval_ms", parameters.cycleInterval),
    ("channel_capacity", parameters.channelCapacity),
    ("audit_capacity", parameters.auditCapacity),
    ("max_snapshot_age_ms", parameters.oldestSnapshot),
    ("reservation_timeout_ms", parameters.reservationTimeout),
    ("mandate_ttl_ms", parameters.mandateLifetime)]

/-- The numbers of aging. -/
def agingNumbers (aging : Aging) : List (String × Nat) :=
  [("step_ms", aging.interval), ("bump_per_step", aging.bump),
    ("max_bump", aging.ceiling)]

/-- Whether all numbers have at most 63 bits. -/
def IsPrintable (settings : Settings) : Prop :=
  ∀ line ∈ parameterNumbers settings.parameters ++
      agingNumbers settings.parameters.aging,
    line.2 < Text.bound63

instance (settings : Settings) : Decidable settings.IsPrintable :=
  inferInstanceAs (Decidable (∀ _ ∈ _, _))

/-- The lines of the limits. -/
def limitRows (limits : Risk.Limits) : List Row :=
  (Risk.Limits.partNames.zip limits.figures).map fun entry =>
    textRow entry.1 entry.2.text

/-- The lines of the parameters. -/
def parameterRows (parameters : Desk.Parameters) : List Row :=
  (parameterNumbers parameters).map numberRow ++
    [textRow "holder_id" parameters.holder]

/-- The lines of aging. -/
def agingRows (aging : Aging) : List Row :=
  (agingNumbers aging).map numberRow

/-- The lines of the store. -/
def storeRows (path : Option String) : List Row :=
  path.toList.map (textRow "path")

/-- The lines of the log. -/
def logRows (settings : Settings) : List Row :=
  [textRow "level" settings.logLevel, booleanRow "json" settings.logRecords]

/-- The tables of settings. -/
def blocks (settings : Settings) : List Block :=
  [⟨["risk"], limitRows settings.limits⟩,
    ⟨["pipeline"], parameterRows settings.parameters⟩,
    ⟨["pipeline", "aging"], agingRows settings.parameters.aging⟩,
    ⟨["persistence"], storeRows settings.storePath⟩,
    ⟨["logging"], logRows settings⟩]

theorem map_fst_parameterNumbers (parameters : Desk.Parameters) :
    (parameterNumbers parameters).map Prod.fst =
      ["cycle_interval_ms", "channel_capacity", "audit_capacity",
        "max_snapshot_age_ms", "reservation_timeout_ms", "mandate_ttl_ms"] :=
  rfl

theorem map_fst_agingNumbers (aging : Aging) :
    (agingNumbers aging).map Prod.fst =
      ["step_ms", "bump_per_step", "max_bump"] :=
  rfl

theorem map_path_blocks (settings : Settings) :
    settings.blocks.map Block.path =
      [["risk"], ["pipeline"], ["pipeline", "aging"], ["persistence"],
        ["logging"]] :=
  rfl

/-- The text of settings with small numbers is that of their tables. -/
theorem text?_of_isPrintable
    {settings : Settings}
    (printable : settings.IsPrintable) :
    settings.text? =
      some (Toml.document (settings.blocks.map Block.text)) := by
  have parameters := numberLines?_of_fits fun line member =>
    printable line (List.mem_append_left _ member)
  have aging := numberLines?_of_fits fun line member =>
    printable line (List.mem_append_right _ member)
  have parametersTable : parametersTable? settings.parameters =
      some (Toml.table "pipeline"
        ((parameterNumbers settings.parameters).map writtenLine ++
          [("holder_id", Toml.writtenText settings.parameters.holder)])) := by
    unfold parametersTable?
    rw [← parameterNumbers, parameters]
    rfl
  have agingTable : agingTable? settings.parameters.aging =
      some (Toml.table "pipeline.aging"
        ((agingNumbers settings.parameters.aging).map writtenLine)) := by
    unfold agingTable?
    rw [← agingNumbers, aging]
    rfl
  have storesTable : storeTable settings.storePath =
      Block.text ⟨["persistence"], storeRows settings.storePath⟩ := by
    simp only [storeTable, Block.text, storeRows, List.map_map]
    rfl
  unfold text?
  rw [parametersTable, agingTable, storesTable]
  rfl

theorem text?_of_not_isPrintable
    {settings : Settings}
    (unprintable : ¬ settings.IsPrintable) :
    settings.text? = none := by
  simp only [IsPrintable, Classical.not_forall] at unprintable
  obtain ⟨line, member, large⟩ := unprintable
  unfold text?
  rcases List.mem_append.mp member with inside | inside
  · have parametersTable : parametersTable? settings.parameters = none := by
      unfold parametersTable?
      rw [← parameterNumbers, numberLines?_of_too_large inside large]
      rfl
    rw [parametersTable]
    rfl
  · have agingTable : agingTable? settings.parameters.aging = none := by
      unfold agingTable?
      rw [← agingNumbers, numberLines?_of_too_large inside large]
      rfl
    rw [agingTable]
    cases parametersTable? settings.parameters <;> rfl

/-! ## Soundness -/

theorem isSound_of_mem_numberRows
    {lines : List (String × Nat)}
    (bare : ∀ name ∈ lines.map Prod.fst, Toml.IsBareName name)
    (fits : ∀ line ∈ lines, line.2 < Text.bound63)
    {row : Row}
    (member : row ∈ lines.map numberRow) :
    row.IsSound := by
  obtain ⟨line, inside, rfl⟩ := List.mem_map.mp member
  exact isSound_numberRow (bare _ (List.mem_map_of_mem inside))
    (fits line inside)

theorem isSound_of_mem_limitRows
    {limits : Risk.Limits}
    {row : Row}
    (member : row ∈ limitRows limits) :
    row.IsSound := by
  have bare : ∀ name ∈ Risk.Limits.partNames, Toml.IsBareName name := by
    decide
  obtain ⟨entry, inside, rfl⟩ := List.mem_map.mp member
  exact isSound_textRow (bare _ (List.of_mem_zip inside).1) _

theorem isSound_of_mem_parameterRows
    {parameters : Desk.Parameters}
    (fits : ∀ line ∈ parameterNumbers parameters, line.2 < Text.bound63)
    {row : Row}
    (member : row ∈ parameterRows parameters) :
    row.IsSound := by
  have bare : ∀ name ∈ (parameterNumbers parameters).map Prod.fst,
      Toml.IsBareName name := by
    rw [map_fst_parameterNumbers]
    decide
  rcases List.mem_append.mp member with number | holder
  · exact isSound_of_mem_numberRows bare fits number
  · rw [List.mem_singleton.mp holder]
    exact isSound_textRow (by decide) _

theorem isSound_of_mem_agingRows
    {aging : Aging}
    (fits : ∀ line ∈ agingNumbers aging, line.2 < Text.bound63)
    {row : Row}
    (member : row ∈ agingRows aging) :
    row.IsSound := by
  have bare : ∀ name ∈ (agingNumbers aging).map Prod.fst,
      Toml.IsBareName name := by
    rw [map_fst_agingNumbers]
    decide
  exact isSound_of_mem_numberRows bare fits member

theorem isSound_of_mem_storeRows
    {path : Option String}
    {row : Row}
    (member : row ∈ storeRows path) :
    row.IsSound := by
  obtain ⟨text, -, rfl⟩ := List.mem_map.mp member
  exact isSound_textRow (by decide) _

theorem isSound_of_mem_logRows
    {settings : Settings}
    {row : Row}
    (member : row ∈ logRows settings) :
    row.IsSound := by
  simp only [logRows, List.mem_cons, List.not_mem_nil, or_false] at member
  rcases member with rfl | rfl
  · exact isSound_textRow (by decide) _
  · exact isSound_booleanRow (by decide) _

/-- The lines of settings with small numbers say what they are meant to. -/
theorem rows_isSound_of_mem_blocks
    {settings : Settings}
    (printable : settings.IsPrintable)
    {block : Block}
    (member : block ∈ settings.blocks) :
    ∀ row ∈ block.rows, row.IsSound := by
  simp only [blocks, List.mem_cons, List.not_mem_nil, or_false] at member
  rcases member with rfl | rfl | rfl | rfl | rfl
  · exact fun _ => isSound_of_mem_limitRows
  · exact fun _ => isSound_of_mem_parameterRows fun line inside =>
      printable line (List.mem_append_left _ inside)
  · exact fun _ => isSound_of_mem_agingRows fun line inside =>
      printable line (List.mem_append_right _ inside)
  · exact fun _ => isSound_of_mem_storeRows
  · exact fun _ => isSound_of_mem_logRows

/-- The tables of settings with small numbers say what they are meant to. -/
theorem isSound_of_mem_blocks
    {settings : Settings}
    (printable : settings.IsPrintable)
    {block : Block}
    (member : block ∈ settings.blocks) :
    block.IsSound := by
  have paths : ∀ path ∈ settings.blocks.map Block.path,
      path ≠ [] ∧ path.length ≤ Toml.keyLimit ∧
        ∀ name ∈ path, Toml.IsBareName name := by
    rw [map_path_blocks]
    decide
  obtain ⟨nonempty, short, bare⟩ :=
    paths block.path (List.mem_map_of_mem member)
  exact ⟨nonempty, short, bare, rows_isSound_of_mem_blocks printable member⟩

/-! ## The tree -/

/-- The table of some lines in a tree. -/
def branch (rows : List Row) : Item :=
  .table .headed (rows.map Row.entry)

/-- The table of the parameters, with the table of aging in it. -/
def parametersBranch (parameters : Desk.Parameters) : Item :=
  .table .headed
    ((parameterRows parameters).map Row.entry ++
      [("aging", branch (agingRows parameters.aging))])

/-- The tree of the document. -/
def tree (settings : Settings) : Entries :=
  [("risk", branch (limitRows settings.limits)),
    ("pipeline", parametersBranch settings.parameters),
    ("persistence", branch (storeRows settings.storePath)),
    ("logging", branch (logRows settings))]

theorem nodup_limitRows (limits : Risk.Limits) :
    ((limitRows limits).map Row.name).Nodup := by
  show Risk.Limits.partNames.Nodup
  decide

theorem nodup_parameterRows (parameters : Desk.Parameters) :
    ((parameterRows parameters).map Row.name).Nodup := by
  show ((parameterNumbers parameters).map Prod.fst ++ ["holder_id"]).Nodup
  rw [map_fst_parameterNumbers]
  decide

theorem nodup_agingRows (aging : Aging) :
    ((agingRows aging).map Row.name).Nodup := by
  show ((agingNumbers aging).map Prod.fst).Nodup
  rw [map_fst_agingNumbers]
  decide

theorem nodup_storeRows (path : Option String) :
    ((storeRows path).map Row.name).Nodup := by
  cases path with
  | none => exact List.nodup_nil
  | some text => exact List.nodup_singleton _

theorem nodup_logRows (settings : Settings) :
    ((logRows settings).map Row.name).Nodup := by
  show ["level", "json"].Nodup
  decide

theorem grown_of_fresh
    {name : String}
    {entries : Entries}
    (fresh : Toml.find? name entries = none)
    {rows : List Row}
    (distinct : (rows.map Row.name).Nodup) :
    Block.grown entries ⟨[name], rows⟩ =
      some (entries ++ [(name, branch rows)]) :=
  Toml.grown_of_surrounds Toml.surrounds_nil fresh distinct

/-- The tables grow the tree. -/
theorem foldlM_grown_blocks (settings : Settings) :
    settings.blocks.foldlM Block.grown [] = some settings.tree := by
  have risk : Block.grown [] ⟨["risk"], limitRows settings.limits⟩ =
      some [("risk", branch (limitRows settings.limits))] :=
    grown_of_fresh rfl (nodup_limitRows _)
  have pipeline :
      Block.grown [("risk", branch (limitRows settings.limits))]
        ⟨["pipeline"], parameterRows settings.parameters⟩ =
      some [("risk", branch (limitRows settings.limits)),
        ("pipeline", branch (parameterRows settings.parameters))] :=
    grown_of_fresh rfl (nodup_parameterRows _)
  have inside : Surrounds ["pipeline"] fun inner =>
      [("risk", branch (limitRows settings.limits))] ++
        [("pipeline", .table .headed inner)] :=
    Toml.surrounds_last rfl
  have aging :
      Block.grown [("risk", branch (limitRows settings.limits)),
          ("pipeline", branch (parameterRows settings.parameters))]
        ⟨["pipeline", "aging"], agingRows settings.parameters.aging⟩ =
      some [("risk", branch (limitRows settings.limits)),
        ("pipeline", parametersBranch settings.parameters)] :=
    Toml.grown_of_surrounds inside rfl (nodup_agingRows _)
  have persistence :
      Block.grown [("risk", branch (limitRows settings.limits)),
          ("pipeline", parametersBranch settings.parameters)]
        ⟨["persistence"], storeRows settings.storePath⟩ =
      some [("risk", branch (limitRows settings.limits)),
        ("pipeline", parametersBranch settings.parameters),
        ("persistence", branch (storeRows settings.storePath))] :=
    grown_of_fresh rfl (nodup_storeRows _)
  have logging :
      Block.grown [("risk", branch (limitRows settings.limits)),
          ("pipeline", parametersBranch settings.parameters),
          ("persistence", branch (storeRows settings.storePath))]
        ⟨["logging"], logRows settings⟩ = some settings.tree :=
    grown_of_fresh rfl (nodup_logRows _)
  simp only [blocks, List.foldlM_cons, List.foldlM_nil, risk, pipeline, aging,
    persistence, logging, Option.bind_eq_bind, Option.bind_some,
    Option.pure_def]

/-! ## The table -/

/-- The table of the store. -/
def storeRecord (path : Option String) : Json :=
  .object (path.toList.map fun text => ("path", .string text))

/-- The table of the log. -/
def logRecord (settings : Settings) : Json :=
  .object
    [("level", .string settings.logLevel),
      ("json", .boolean settings.logRecords)]

/-- The table of settings. -/
def fields (settings : Settings) : Fields :=
  [("risk", settings.limits.record),
    ("pipeline", settings.parameters.record),
    ("persistence", storeRecord settings.storePath),
    ("logging", logRecord settings)]

theorem entriesToJson_append (first second : Entries) :
    Toml.entriesToJson (first ++ second) =
      Toml.entriesToJson first ++ Toml.entriesToJson second := by
  induction first with
  | nil => simp [Toml.entriesToJson]
  | cons entry rest hypothesis =>
    obtain ⟨name, item⟩ := entry
    simp [Toml.entriesToJson, hypothesis]

theorem entriesToJson_rows (rows : List Row) :
    Toml.entriesToJson (rows.map Row.entry) =
      rows.map fun row => (row.name, row.value) := by
  induction rows with
  | nil => simp [Toml.entriesToJson]
  | cons row rest hypothesis =>
    simp [Toml.entriesToJson, Row.entry, Item.toJson, hypothesis]

theorem toJson_branch (rows : List Row) :
    (branch rows).toJson =
      .object (rows.map fun row => (row.name, row.value)) := by
  simp [branch, Item.toJson, entriesToJson_rows]

theorem entriesToJson_tree (settings : Settings) :
    Toml.entriesToJson settings.tree = settings.fields := by
  have risk : (branch (limitRows settings.limits)).toJson =
      settings.limits.record :=
    toJson_branch _
  have aging : (branch (agingRows settings.parameters.aging)).toJson =
      settings.parameters.aging.record :=
    toJson_branch _
  have pipeline : (parametersBranch settings.parameters).toJson =
      settings.parameters.record := by
    simp only [parametersBranch, Item.toJson, entriesToJson_append,
      entriesToJson_rows, Toml.entriesToJson, aging]
    rfl
  have persistence : (branch (storeRows settings.storePath)).toJson =
      storeRecord settings.storePath := by
    simp only [toJson_branch, storeRows, storeRecord, List.map_map]
    rfl
  have logging : (branch (logRows settings)).toJson = logRecord settings :=
    toJson_branch _
  simp only [tree, fields, Toml.entriesToJson, risk, pipeline, persistence,
    logging]

/-! ## Plain tables -/

theorem resolvedFields?_of_resolved
    {fields : Fields}
    (resolved : ∀ field ∈ fields, Toml.resolved? field.2 = some field.2) :
    Toml.resolvedFields? fields = some fields := by
  induction fields with
  | nil => simp [Toml.resolvedFields?]
  | cons field rest hypothesis =>
    obtain ⟨name, value⟩ := field
    have first : Toml.resolved? value = some value :=
      resolved (name, value) (List.mem_cons_self ..)
    have later := hypothesis fun other member =>
      resolved other (List.mem_cons_of_mem _ member)
    simp [Toml.resolvedFields?, first, later]

/-- A table without the mark of times is what it is. -/
theorem resolved?_object
    {fields : Fields}
    (unmarked : Toml.timeMark ∉ fields.map Prod.fst)
    (resolved : ∀ field ∈ fields, Toml.resolved? field.2 = some field.2) :
    Toml.resolved? (.object fields) = some (.object fields) := by
  cases fields with
  | nil => simp [Toml.resolved?]
  | cons field rest =>
    obtain ⟨name, value⟩ := field
    have apart : name ≠ Toml.timeMark := fun same =>
      unmarked (same ▸ List.mem_cons_self ..)
    have first : Toml.resolved? value = some value :=
      resolved (name, value) (List.mem_cons_self ..)
    have later := resolvedFields?_of_resolved fun other member =>
      resolved other (List.mem_cons_of_mem _ member)
    simp [Toml.resolved?, apart, first, later]

/-- A value that neither reading nor layering changes. -/
structure IsPlain (value : Json) : Prop where
  /-- It has no times in it. -/
  resolved : Toml.resolved? value = some value
  /-- Its names are distinct and in lower case. -/
  tidy : IsTidy value

theorem isPlain_string (text : String) : IsPlain (.string text) :=
  ⟨by simp [Toml.resolved?], by simp [IsTidy]⟩

theorem isPlain_integer (number : Int) : IsPlain (.integer number) :=
  ⟨by simp [Toml.resolved?], by simp [IsTidy]⟩

theorem isPlain_boolean (value : Bool) : IsPlain (.boolean value) :=
  ⟨by simp [Toml.resolved?], by simp [IsTidy]⟩

/-- Distinct names in lower case, none of which is the mark of times. -/
def ArePlainNames (names : List String) : Prop :=
  names.Nodup ∧
    ∀ name ∈ names, Text.lowerCase name = name ∧ name ≠ Toml.timeMark

instance (names : List String) : Decidable (ArePlainNames names) :=
  inferInstanceAs (Decidable (_ ∧ _))

theorem areTidy_of_names
    {fields : Fields}
    (plain : ArePlainNames (fields.map Prod.fst))
    (values : ∀ field ∈ fields, IsPlain field.2) :
    AreTidy fields := by
  induction fields with
  | nil => simp [AreTidy]
  | cons field rest hypothesis =>
    obtain ⟨distinct, names⟩ := plain
    rw [List.map_cons, List.nodup_cons] at distinct
    have later := hypothesis
      ⟨distinct.2, fun name member => names name (List.mem_cons_of_mem _ member)⟩
      fun other member => values other (List.mem_cons_of_mem _ member)
    exact ⟨(names field.1 (List.mem_cons_self ..)).1, distinct.1,
      (values field (List.mem_cons_self ..)).tidy, later⟩

theorem isPlain_object
    {fields : Fields}
    (plain : ArePlainNames (fields.map Prod.fst))
    (values : ∀ field ∈ fields, IsPlain field.2) :
    IsPlain (.object fields) where
  resolved := resolved?_object
    (fun marked => (plain.2 _ marked).2 rfl)
    fun field member => (values field member).resolved
  tidy := areTidy_of_names plain values

theorem isPlain_limits (limits : Risk.Limits) : IsPlain limits.record := by
  have plain : ArePlainNames Risk.Limits.partNames := by decide
  refine isPlain_object plain fun field member => ?_
  have value := (List.of_mem_zip member).2
  obtain ⟨figure, -, same⟩ := List.mem_map.mp value
  exact same ▸ isPlain_string figure.text

theorem isPlain_aging (aging : Aging) : IsPlain aging.record := by
  have plain : ArePlainNames Aging.partNames := by decide
  refine isPlain_object plain fun field member => ?_
  have value := (List.of_mem_zip member).2
  obtain ⟨number, -, same⟩ := List.mem_map.mp value
  exact same ▸ isPlain_integer number

theorem isPlain_parameters (parameters : Desk.Parameters) :
    IsPlain parameters.record := by
  have plain : ArePlainNames Desk.Parameters.partNames := by decide
  refine isPlain_object plain fun field member => ?_
  simp only [List.mem_cons, List.not_mem_nil, or_false] at member
  rcases member with rfl | rfl | rfl | rfl | rfl | rfl | rfl | rfl
  iterate 6 exact isPlain_integer _
  · exact isPlain_string _
  · exact isPlain_aging _

theorem isPlain_storeRecord (path : Option String) :
    IsPlain (storeRecord path) := by
  have plain : ArePlainNames ["path"] := by decide
  cases path with
  | none => exact isPlain_object ⟨List.nodup_nil, nofun⟩ nofun
  | some text =>
    refine isPlain_object plain fun field member => ?_
    rw [List.mem_singleton.mp member]
    exact isPlain_string text

theorem isPlain_logRecord (settings : Settings) :
    IsPlain (logRecord settings) := by
  have plain : ArePlainNames ["level", "json"] := by decide
  refine isPlain_object plain fun field member => ?_
  simp only [List.mem_cons, List.not_mem_nil, or_false] at member
  rcases member with rfl | rfl
  · exact isPlain_string _
  · exact isPlain_boolean _

theorem isPlain_fields (settings : Settings) :
    IsPlain (.object settings.fields) := by
  have plain : ArePlainNames partNames := by decide
  refine isPlain_object plain fun field member => ?_
  simp only [fields, List.mem_cons, List.not_mem_nil, or_false] at member
  rcases member with rfl | rfl | rfl | rfl
  · exact isPlain_limits _
  · exact isPlain_parameters _
  · exact isPlain_storeRecord _
  · exact isPlain_logRecord _

/-! ## The document -/

/-- What is printed behind the settings. -/
def closing : List Char := "\n# configuration OK\n".toList

theorem yields_closing (progress : Toml.Progress) :
    Toml.Yields progress closing progress.entries :=
  (Toml.Yields.step rfl rfl (by decide) (Toml.yields_nil progress)).blank

/-- The table of settings is read from what is printed of them. -/
theorem read?_printed
    {settings : Settings}
    (printable : settings.IsPrintable) :
    Toml.read?
        (Toml.document (settings.blocks.map Block.text) ++
          "\n# configuration OK\n") =
      some settings.fields := by
  have nonempty : settings.blocks ≠ [] := nofun
  have reads := Toml.readCharacters_document nonempty
    (fun _ member => isSound_of_mem_blocks printable member)
    (foldlM_grown_blocks settings)
    fun header => yields_closing ⟨settings.tree, header⟩
  have resolved : Toml.resolvedTable? settings.fields =
      some settings.fields := by
    rw [Toml.resolvedTable?, (isPlain_fields settings).resolved]
  rw [Toml.read?, String.toList_append]
  rw [entriesToJson_tree, resolved] at reads
  exact reads

end MandateDesk.Settings
