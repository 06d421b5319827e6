import MandateDesk.Proofs.Printing

/-!
# Printed settings that are loaded

When the only document is `default.toml` and holds what was printed of some
settings, and no variable of the environment counts, then the settings are
loaded again.  The document may be found twice, for the stage can be named so
that it is the document of the stage as well; a layer that is there already
changes nothing.
-/

namespace MandateDesk.Settings

/-! ## The one document -/

theorem isSuffix_of_append_eq
    {first second whole : String}
    (same : first ++ second = whole) :
    second.toList <:+ whole.toList :=
  ⟨first.toList, by rw [← String.toList_append, same]⟩

theorem format_of_mem_extended
    {place : Place}
    {candidate : String × Option Format}
    (member : candidate ∈ place.extended)
    (named : candidate.1 = "default.toml") :
    candidate.2 = some .toml := by
  have endings : ∀ format ∈ Format.all, ∀ ending ∈ format.endings,
      ending.toList <:+ "default.toml".toList → format = .toml := by
    decide
  obtain ⟨format, known, inside⟩ := List.mem_flatMap.mp member
  obtain ⟨ending, listed, rfl⟩ := List.mem_map.mp inside
  exact congrArg some
    (endings format known ending listed (isSuffix_of_append_eq named))

/-- Wherever `default.toml` is looked for, it is read line by line. -/
theorem format_of_mem_candidates
    {text : String}
    {candidate : String × Option Format}
    (member : candidate ∈ candidates text)
    (named : candidate.1 = "default.toml") :
    candidate.2 = some .toml := by
  unfold candidates at member
  cases read : Place.read? text with
  | none =>
    rw [read] at member
    contradiction
  | some place =>
    rw [read] at member
    simp only [Option.map_some, Option.getD_some, Place.candidates] at member
    split at member
    · rcases List.mem_cons.mp member with rfl | later
      · have exactly : place.name = "default.toml" := named
        have known : formatOf? "default.toml" = some .toml := by
          decide
        simp only [exactly, known]
      · exact format_of_mem_extended later named
    · exact format_of_mem_extended member named

namespace Sources

variable {sources : Sources}

/-- Sources whose only document is `default.toml`, with a text in it. -/
def HasOnly (sources : Sources) (text : String) : Prop :=
  sources.documents = [("default.toml", text)]

theorem found?_eq_some_of_hasOnly
    {text : String}
    (only : sources.HasOnly text)
    {place : String}
    {found : Option Format × String}
    (finds : sources.found? (candidates place) = some found) :
    found = (some .toml, text) := by
  obtain ⟨candidate, member, here⟩ := List.exists_of_findSome?_eq_some finds
  rw [only, List.lookup_cons] at here
  split at here
  · next same =>
    have toml := format_of_mem_candidates member (eq_of_beq same)
    rw [toml] at here
    exact (Option.some.inj here).symm
  · contradiction

theorem documentLayer?_of_hasOnly
    {text : String}
    {fields : Fields}
    (only : sources.HasOnly text)
    (reads : Toml.read? text = some fields)
    (place : String) :
    sources.documentLayer? place = some [] ∨
      sources.documentLayer? place = some fields := by
  unfold documentLayer?
  cases finds : sources.found? (candidates place) with
  | none => exact Or.inl rfl
  | some found =>
    rw [found?_eq_some_of_hasOnly only finds]
    exact Or.inr reads

theorem documentLayer?_default_of_hasOnly
    {text : String}
    {fields : Fields}
    (only : sources.HasOnly text)
    (reads : Toml.read? text = some fields) :
    sources.documentLayer? "default.toml" = some fields := by
  have first : candidates "default.toml" =
      ("default.toml", some .toml) :: (candidates "default.toml").tail := by
    decide
  have finds : sources.found? (candidates "default.toml") =
      some (some .toml, text) := by
    rw [found?, first, only]
    rfl
  rw [documentLayer?, finds]
  exact reads

/-- Sources without a variable of the environment that counts. -/
def IsUnforced (sources : Sources) : Prop :=
  ∀ entry ∈ sources.environment, variableName? entry.1 = none

theorem environmentLayer_of_isUnforced
    (unforced : sources.IsUnforced) :
    environmentLayer sources.environment = [] :=
  List.filterMap_eq_nil_iff.mpr fun entry member => by
    rw [unforced entry member, Option.map_none]

end Sources

/-! ## The layers -/

/-- What holds for the log unless a document says otherwise. -/
def standardLog : Json :=
  .object
    [("level", .string standard.logLevel),
      ("json", .boolean standard.logRecords)]

theorem layered_standardLayer :
    layered [] standardLayer = [("logging", standardLog)] := by
  have level : Path.read "logging.level" = ⟨"logging", [.name "level"]⟩ := by
    decide
  have json : Path.read "logging.json" = ⟨"logging", [.name "json"]⟩ := by
    decide
  have outer : Text.lowerCase "logging" = "logging" := by decide
  have first : Text.lowerCase "level" = "level" := by decide
  have second : Text.lowerCase "json" = "json" := by decide
  simp [layered, standardLayer, level, json, outer, first, second, Path.given,
    Path.stepped, given, withField, fieldsOf, Json.field?, standardLog]

/-- The tables of settings except that of the log. -/
def otherFields (settings : Settings) : Fields :=
  [("risk", settings.limits.record),
    ("pipeline", settings.parameters.record),
    ("persistence", storeRecord settings.storePath)]

/-- The tables of settings, that of the log first. -/
def merged (settings : Settings) : Fields :=
  ("logging", logRecord settings) :: settings.otherFields

theorem fields_eq_append (settings : Settings) :
    settings.fields =
      settings.otherFields ++ [("logging", logRecord settings)] :=
  rfl

theorem map_fst_fields (settings : Settings) :
    settings.fields.map Prod.fst = partNames :=
  rfl

theorem map_fst_otherFields (settings : Settings) :
    settings.otherFields.map Prod.fst = ["risk", "pipeline", "persistence"] :=
  rfl

theorem logging_not_mem_otherFields (settings : Settings) :
    "logging" ∉ settings.otherFields.map Prod.fst := by
  rw [map_fst_otherFields]
  decide

theorem nodup_merged (settings : Settings) :
    (settings.merged.map Prod.fst).Nodup := by
  have others : (settings.otherFields.map Prod.fst).Nodup := by
    rw [map_fst_otherFields]
    decide
  exact List.nodup_cons.mpr ⟨logging_not_mem_otherFields settings, others⟩

theorem areTidy_fields (settings : Settings) : AreTidy settings.fields :=
  (isPlain_fields settings).tidy

theorem isSingleName_of_mem_fields
    {settings : Settings}
    {field : String × Json}
    (member : field ∈ settings.fields) :
    IsSingleName field.1 := by
  have names : ∀ name ∈ settings.fields.map Prod.fst,
      Path.read name = ⟨name, []⟩ := by
    rw [map_fst_fields]
    decide
  exact names _ (List.mem_map_of_mem member)

/-- The level and the form of the log take the place of the usual ones. -/
theorem givenAll_standardLog (settings : Settings) :
    givenAll standardLog
        [("level", .string settings.logLevel),
          ("json", .boolean settings.logRecords)] =
      logRecord settings := by
  have level : Text.lowerCase "level" = "level" := by decide
  have json : Text.lowerCase "json" = "json" := by decide
  simp [standardLog, givenAll, given, fieldsOf, withField, level, json,
    logRecord]

theorem given_logging
    (settings : Settings)
    {others : Fields}
    (fresh : "logging" ∉ others.map Prod.fst) :
    given (("logging", standardLog) :: others) "logging"
        (logRecord settings) =
      ("logging", logRecord settings) :: others := by
  have lower : Text.lowerCase "logging" = "logging" := by decide
  rw [logRecord, given, lower, field?_cons_of_fresh fresh, Option.getD_some,
    givenAll_standardLog, withField_cons_of_fresh fresh, logRecord]

/-- The document adds its tables to what holds for the log. -/
theorem layered_fields (settings : Settings) :
    layered [("logging", standardLog)] settings.fields = settings.merged := by
  have fresh : ∀ name ∈ settings.otherFields.map Prod.fst,
      name ∉ ["logging"] := by
    rw [map_fst_otherFields]
    decide
  have tidy := areTidy_fields settings
  have single (field : String × Json) (member : field ∈ settings.fields) :=
    isSingleName_of_mem_fields member
  rw [fields_eq_append] at tidy single ⊢
  have others : layered [("logging", standardLog)] settings.otherFields =
      ("logging", standardLog) :: settings.otherFields :=
    layered_of_fresh tidy.of_append
      (fun field member => single field (List.mem_append_left _ member)) fresh
  have last : (Path.read "logging").given (logRecord settings)
      (("logging", standardLog) :: settings.otherFields) = settings.merged := by
    rw [given_of_isSingleName (single _ List.mem_concat_self)]
    exact given_logging settings (logging_not_mem_otherFields settings)
  unfold layered at others ⊢
  rw [List.foldl_append, others, List.foldl_cons, List.foldl_nil]
  exact last

/-- A document that is found a second time changes nothing. -/
theorem layered_merged_fields (settings : Settings) :
    layered settings.merged settings.fields = settings.merged := by
  refine layered_of_mem (areTidy_fields settings)
    (fun _ => isSingleName_of_mem_fields) (nodup_merged settings)
    fun field member => ?_
  rw [fields_eq_append] at member
  rcases List.mem_append.mp member with other | log
  · exact List.mem_cons_of_mem _ other
  · rw [List.mem_singleton.mp log]
    exact List.mem_cons_self ..

namespace Sources

variable {sources : Sources}

/-- The layers of sources with nothing but a document of settings. -/
theorem foldl_layers
    {settings : Settings}
    {text : String}
    (only : sources.HasOnly text)
    (unforced : sources.IsUnforced)
    (reads : Toml.read? text = some settings.fields) :
    sources.layers?.map (List.foldl layered []) = some settings.merged := by
  have base := documentLayer?_default_of_hasOnly only reads
  have environment := environmentLayer_of_isUnforced unforced
  have merges (staged : Fields)
      (same : layered settings.merged staged = settings.merged) :
      List.foldl layered [] [standardLayer, settings.fields, staged, []] =
        settings.merged := by
    simp only [List.foldl_cons, List.foldl_nil, layered_standardLayer,
      layered_fields, same]
    rfl
  unfold layers?
  rw [base, environment]
  rcases documentLayer?_of_hasOnly only reads sources.stage with
    staged | staged
  · rw [staged]
    exact congrArg some (merges [] rfl)
  · rw [staged]
    exact congrArg some (merges _ (layered_merged_fields settings))

end Sources

/-! ## Reading -/

@[simp]
theorem lenientForm_parts (names : List String) (fields : Fields) :
    lenientForm.parts names (.object fields) = some ⟨fields, false⟩ :=
  rfl

@[simp]
theorem lenientForm_text (text : String) :
    lenientForm.text (.string text) = some text :=
  rfl

@[simp]
theorem lenientForm_boolean (value : Bool) :
    lenientForm.boolean (.boolean value) = some value :=
  rfl

@[simp]
theorem lenientForm_unsigned64 (number : Nat) :
    lenientForm.unsigned64 (Record.ofNat number) = some number := by
  simp [lenientForm, lenientUnsigned?, Record.ofNat]

theorem lenientForm_unsigned32
    {number : Nat}
    (small : number < Text.bound32) :
    lenientForm.unsigned32 (Record.ofNat number) = some number := by
  have reads : lenientUnsigned? (Record.ofNat number) = some number :=
    lenientForm_unsigned64 number
  simp only [lenientForm, reads]
  rw [Option.filter_some, if_pos (decide_eq_true small)]

/-- A number that is above zero is read back as it is. -/
theorem lenientForm_decimal
    {figure : Decimal}
    (positive : Decimal.zero < figure) :
    lenientForm.decimal (Record.ofDecimal figure) = some figure := by
  have absolute := (Decimal.zero_lt_iff figure).mp positive
  simp only [lenientForm, Record.ofDecimal, Json.asDecimal?,
    Decimal.read?_text]
  rw [Decimal.withoutZeroSign_of_unsigned fun _ => absolute.2]

/-- Valid limits are above zero. -/
theorem pos_of_valid
    {limits : Risk.Limits}
    (valid : limits.Valid)
    {figure : Decimal}
    (member : figure ∈ limits.figures) :
    Decimal.zero < figure := by
  have sound := (Risk.Limits.valid_iff limits).mp valid
  have largest := sound .maxLeverage
  have target := sound .targetLeverage
  have symbol := sound .symbolLeverage
  have critical := sound .criticalDistance
  have margin := sound .marginRate
  have reduction := sound .reductionShare
  simp only [Risk.Limits.has, Bool.or_eq_false_iff, decide_eq_false_iff_not,
    Decimal.not_le, Decimal.not_lt]
    at largest target symbol critical margin reduction
  -- The safe distance has no bound of its own, but the critical one is below.
  have safe : Decimal.zero < limits.safeDistance :=
    Decimal.not_le.mp fun below =>
      Decimal.not_le.mpr critical.2
        (Decimal.le_trans below (Decimal.le_of_lt critical.1))
  simp only [Risk.Limits.figures, List.mem_cons, List.not_mem_nil,
    or_false] at member
  rcases member with rfl | rfl | rfl | rfl | rfl | rfl | rfl
  · exact largest
  · exact target.1
  · exact symbol.1
  · exact safe
  · exact critical.1
  · exact margin.1
  · exact reduction.1

/-- The table of valid limits stands for them. -/
theorem readAs?_limits
    {limits : Risk.Limits}
    (valid : limits.Valid) :
    Risk.Limits.readAs? lenientForm limits.record = some limits := by
  have decimal (figure : Decimal) (member : figure ∈ limits.figures) :=
    lenientForm_decimal (pos_of_valid valid member)
  simp only [Risk.Limits.figures, List.forall_mem_cons] at decimal
  simp [Risk.Limits.readAs?, Risk.Limits.record, Record.defaulted?,
    Json.field?, Risk.Limits.partNames, Risk.Limits.figures, decimal]

/-- The table of aging stands for it. -/
theorem readAs?_aging
    {aging : Aging}
    (bump : aging.bump < Text.bound32)
    (ceiling : aging.ceiling < Text.bound32) :
    Aging.readAs? lenientForm aging.record = some aging := by
  simp [Aging.readAs?, Aging.record, Record.defaulted?, Json.field?,
    Aging.partNames, lenientForm_unsigned32 bump,
    lenientForm_unsigned32 ceiling]

/-- The table of parameters stands for them. -/
theorem readAs?_parameters
    {parameters : Desk.Parameters}
    (bump : parameters.aging.bump < Text.bound32)
    (ceiling : parameters.aging.ceiling < Text.bound32) :
    Desk.Parameters.readAs? lenientForm parameters.record =
      some parameters := by
  simp [Desk.Parameters.readAs?, Desk.Parameters.record, Record.defaulted?,
    Json.field?, readAs?_aging bump ceiling]

theorem storePathAs?_storeRecord (path : Option String) :
    storePathAs? lenientForm (storeRecord path) = some path := by
  cases path with
  | none => simp [storePathAs?, storeRecord, Record.defaulted?, Json.field?]
  | some text =>
    simp [storePathAs?, storeRecord, Record.defaulted?, Json.field?,
      Json.asOptional?]

theorem logAs?_logRecord (settings : Settings) :
    logAs? lenientForm (logRecord settings) =
      some (settings.logLevel, settings.logRecords) := by
  simp [logAs?, logRecord, Record.defaulted?, Json.field?]

/-- The tables of settings with valid limits stand for the settings. -/
theorem readAs?_merged
    {settings : Settings}
    (valid : settings.limits.Valid)
    (bump : settings.parameters.aging.bump < Text.bound32)
    (ceiling : settings.parameters.aging.ceiling < Text.bound32) :
    readAs? lenientForm (.object settings.merged) = some settings := by
  simp [readAs?, merged, otherFields, Record.defaulted?, Json.field?,
    readAs?_limits valid, readAs?_parameters bump ceiling,
    storePathAs?_storeRecord, logAs?_logRecord]

/-! ## Printing and loading -/

theorem valid_limits_of_validate
    {settings : Settings}
    (valid : settings.validate = .ok ()) :
    settings.limits.Valid := by
  have none := (validate_eq_ok_iff settings).mp valid
  simp only [problems, List.append_eq_nil_iff] at none
  have risk := none.1.1
  unfold limitProblems at risk
  split at risk
  · next sound => exact sound
  · contradiction

/-- What is shown about valid settings with small numbers. -/
theorem checked_of_isPrintable
    {settings : Settings}
    (valid : settings.validate = .ok ())
    (printable : settings.IsPrintable) :
    settings.checked =
      .ok (Toml.document (settings.blocks.map Toml.Block.text) ++
        "\n# configuration OK\n") := by
  rw [checked, valid]
  simp only [text?_of_isPrintable printable]

theorem checked_of_not_isPrintable
    {settings : Settings}
    (valid : settings.validate = .ok ())
    (unprintable : ¬ settings.IsPrintable) :
    settings.checked = .error .unprintable := by
  rw [checked, valid]
  simp only [text?_of_not_isPrintable unprintable]

/-- Settings are read from a text that holds their table. -/
theorem Sources.read?_of_hasOnly
    {sources : Sources}
    {settings : Settings}
    (valid : settings.limits.Valid)
    (bump : settings.parameters.aging.bump < Text.bound32)
    (ceiling : settings.parameters.aging.ceiling < Text.bound32)
    {text : String}
    (only : sources.HasOnly text)
    (unforced : sources.IsUnforced)
    (reads : Toml.read? text = some settings.fields) :
    sources.read? = some settings := by
  obtain ⟨layers, found, merges⟩ := Option.map_eq_some_iff.mp
    (Sources.foldl_layers only unforced reads)
  unfold Sources.read?
  rw [found, Option.bind_eq_bind, Option.bind_some, merges]
  exact readAs?_merged valid bump ceiling

/--
Valid settings are printed exactly when none of their numbers has more than 63
bits.  What is printed, as the only document and without a variable of the
environment that counts, is loaded as the same settings, which are valid again.
-/
theorem printed_settings_are_loaded
    {settings : Settings}
    (valid : settings.validate = .ok ())
    (bump : settings.parameters.aging.bump < Text.bound32)
    (ceiling : settings.parameters.aging.ceiling < Text.bound32) :
    (settings.IsPrintable →
      ∃ text, settings.checked = .ok text ∧
        ∀ sources : Sources, sources.HasOnly text → sources.IsUnforced →
          sources.read? = some settings ∧ sources.load = .ok settings) ∧
      (¬ settings.IsPrintable → settings.checked = .error .unprintable) := by
  refine ⟨fun printable => ?_, checked_of_not_isPrintable valid⟩
  refine ⟨_, checked_of_isPrintable valid printable,
    fun sources only unforced => ?_⟩
  have reads : sources.read? = some settings :=
    Sources.read?_of_hasOnly (valid_limits_of_validate valid) bump ceiling
      only unforced (read?_printed printable)
  refine ⟨reads, ?_⟩
  simp only [Sources.load, reads, valid]

namespace Sample

/-- Settings with quotes and an end of a line in the name of the file. -/
def quoted : Settings :=
  { standard with storePath := some "it's \"here\"\n" }

theorem printed_settings_are_loaded_quoted :
    quoted.validate = .ok () ∧ quoted.IsPrintable ∧
      ∃ text, quoted.checked = .ok text ∧
        ∀ sources : Sources, sources.HasOnly text → sources.IsUnforced →
          sources.read? = some quoted ∧ sources.load = .ok quoted := by
  have valid : quoted.validate = .ok () := by decide
  have printable : quoted.IsPrintable := by decide
  have loaded := printed_settings_are_loaded valid (by decide) (by decide)
  exact ⟨valid, printable, loaded.1 printable⟩

/-- Settings whose mandates live for two to the power of 63 milliseconds. -/
def longLived : Settings :=
  { standard with
    parameters :=
      { Desk.Parameters.standard with mandateLifetime := Text.bound63 } }

/-- Settings within the bounds of all their numbers can be valid and have no text. -/
theorem valid_settings_are_not_printed :
    longLived.parameters.mandateLifetime < Text.bound64 ∧
      longLived.validate = .ok () ∧
      longLived.checked = .error .unprintable := by
  have valid : longLived.validate = .ok () := by decide
  have unprintable : ¬ longLived.IsPrintable := by decide
  exact ⟨by decide, valid, checked_of_not_isPrintable valid unprintable⟩

end Sample

end MandateDesk.Settings
