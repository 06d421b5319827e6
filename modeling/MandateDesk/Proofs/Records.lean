import MandateDesk.Json.Printer
import MandateDesk.Json.Selection

/-!
# Written records

A list of records is read back from its text, field by field, whatever the
texts in it hold.  A character is taken back in each of the forms in which it
can be written; texts, fields, records and lists follow from the inside out.
-/

namespace MandateDesk.Json

/-! ## Texts -/

theorem hexDigit?_digitChar :
    ∀ digit < 16, Text.hexDigit? (Nat.digitChar digit) = some digit := by
  decide

/-- The code point of a control character is read back. -/
theorem hexWord?_control
    {code : Nat}
    (control : code < 32) :
    hexWord? '0' '0' (Nat.digitChar (code / 16))
      (Nat.digitChar (code % 16)) = some code := by
  have zero : Text.hexDigit? '0' = some 0 := rfl
  have high := hexDigit?_digitChar (code / 16) (by omega)
  have low := hexDigit?_digitChar (code % 16) (by omega)
  simp only [hexWord?, List.mapM_cons, List.mapM_nil, zero, high, low,
    Option.bind_eq_bind, Option.bind_some, Option.pure_def, List.foldl_cons,
    List.foldl_nil, Option.some.injEq]
  omega

/-- A read character is put in front of what is read behind it. -/
def withFirst
    (first : Char)
    (taken : Option (List Char × List Char)) :
    Option (List Char × List Char) :=
  taken.map fun (read, left) => (first :: read, left)

theorem bind_eq_withFirst
    (first : Char)
    (taken : Option (List Char × List Char)) :
    (taken.bind fun (read, left) => some (first :: read, left)) =
      withFirst first taken := by
  cases taken <;> rfl

theorem takeString_letter
    {letter character : Char}
    (short : letter ≠ 'u')
    (named : escapeLetter? letter = some character)
    (rest : List Char) :
    takeString ('\\' :: letter :: rest) =
      withFirst character (takeString rest) := by
  simp [takeString, short, named, bind_eq_withFirst]

/-- A character is taken back in the form in which it is written. -/
theorem takeString_escapedCharacter
    (character : Char)
    (rest : List Char) :
    takeString (escapedCharacter character ++ rest) =
      withFirst character (takeString rest) := by
  unfold escapedCharacter
  split
  · next quote =>
    subst quote
    exact takeString_letter (by decide) rfl rest
  split
  · next slash =>
    subst slash
    exact takeString_letter (by decide) rfl rest
  split
  · next line =>
    subst line
    exact takeString_letter (by decide) rfl rest
  split
  · next back =>
    subst back
    exact takeString_letter (by decide) rfl rest
  split
  · next tabulator =>
    subst tabulator
    exact takeString_letter (by decide) rfl rest
  split
  · next erasure =>
    subst erasure
    exact takeString_letter (by decide) rfl rest
  split
  · next page =>
    subst page
    exact takeString_letter (by decide) rfl rest
  split
  · next control =>
    have word := hexWord?_control control
    have upper : isUpperHalf character.toNat = false := by
      simp only [isUpperHalf, Bool.and_eq_false_iff, decide_eq_false_iff_not]
      omega
    have lower : isLowerHalf character.toNat = false := by
      simp only [isLowerHalf, Bool.and_eq_false_iff, decide_eq_false_iff_not]
      omega
    simp [takeString, word, upper, lower, bind_eq_withFirst,
      Char.ofNat_toNat]
  · next _ notSlash _ _ _ _ _ visible =>
    simp [takeString, notSlash, visible, bind_eq_withFirst]

/-- A text is taken back up to its closing quote. -/
theorem takeString_written (text rest : List Char) :
    takeString (text.flatMap escapedCharacter ++ '"' :: rest) =
      some (text, rest) := by
  induction text with
  | nil => simp [takeString]
  | cons first others hypothesis =>
    rw [List.flatMap_cons, List.append_assoc, takeString_escapedCharacter,
      hypothesis]
    rfl

/-! ## Gaps -/

theorem skipGap_cons
    {first : Char}
    (visible : isGap first = false)
    (rest : List Char) :
    skipGap (first :: rest) = first :: rest := by
  simp [skipGap, visible]

theorem skipGap_idempotent (text : List Char) :
    skipGap (skipGap text) = skipGap text := by
  induction text with
  | nil => rfl
  | cons first rest hypothesis =>
    cases gap : isGap first with
    | true => simpa [skipGap, gap] using hypothesis
    | false => rw [skipGap_cons gap, skipGap_cons gap]

/-- The beginning of a line is a gap. -/
theorem skipGap_newLine (level : Nat) (text : List Char) :
    skipGap (newLine level ++ text) = skipGap text := by
  have gap : ∀ character ∈ newLine level, isGap character = true := by
    intro character member
    rcases List.mem_cons.mp member with rfl | blank
    · rfl
    · rw [List.eq_of_mem_replicate blank]
      rfl
  exact List.dropWhile_append_of_pos gap

/-! ## Values -/

/-- A value of one line that holds no number: a text or nothing. -/
def IsPlain : Json → Prop
  | null => True
  | string _ => True
  | _ => False

/-- A text is a value as a whole. -/
theorem takeValue_stringCharacters
    (text : String)
    (depth : Nat)
    (rest : List Char) :
    takeValue (depth + 1) (stringCharacters text ++ rest) =
      some (string text, rest) := by
  have taken := takeString_written text.toList rest
  simp [stringCharacters, takeValue, taken]

theorem takeValue_plain
    {value : Json}
    (plain : value.IsPlain)
    (level : Nat)
    (rest : List Char) :
    takeValue depthLimit (skipGap (indentedCharacters level value ++ rest)) =
      some (value, rest) := by
  cases value with
  | null => rfl
  | string text =>
    have front : skipGap (stringCharacters text ++ rest) =
        stringCharacters text ++ rest := rfl
    rw [indentedCharacters, front]
    exact takeValue_stringCharacters text 127 rest
  | _ => contradiction

/-! ## Records -/

/-- Fields that are asked for, each of one line. -/
def ArePlain (names : List String) (fields : List (String × Json)) : Prop :=
  ∀ field ∈ fields, field.1 ∈ names ∧ field.2.IsPlain

/-- One field on a line of its own. -/
def fieldCharacters (level : Nat) (field : String × Json) : List Char :=
  newLine level ++ stringCharacters field.1 ++
    ':' :: ' ' :: indentedCharacters level field.2

theorem indentedFields_single (level : Nat) (field : String × Json) :
    indentedFields level [field] = fieldCharacters level field :=
  rfl

theorem indentedFields_cons_cons
    (level : Nat)
    (field next : String × Json)
    (others : List (String × Json)) :
    indentedFields level (field :: next :: others) =
      fieldCharacters level field ++
        ',' :: indentedFields level (next :: others) := by
  simp [indentedFields, fieldCharacters]

theorem takeSelected_fieldCharacters
    {names : List String}
    {field : String × Json}
    (asked : field.1 ∈ names)
    (plain : field.2.IsPlain)
    (level : Nat)
    (rest : List Char) :
    takeSelected names (fieldCharacters level field ++ rest) =
      some ([field], rest) := by
  have named := takeString_written field.1.toList
    (':' :: ' ' :: (indentedCharacters level field.2 ++ rest))
  have valued := takeValue_plain plain level rest
  have quote (text : List Char) : skipGap ('"' :: text) = '"' :: text := rfl
  have colon (text : List Char) : skipGap (':' :: text) = ':' :: text := rfl
  have blank (text : List Char) : skipGap (' ' :: text) = skipGap text := rfl
  unfold takeSelected fieldCharacters stringCharacters
  simp [skipGap_newLine, quote, colon, blank, named, valued, asked]

/-- All fields of a record are taken, in their order. -/
theorem takeSelection_indentedFields
    {names : List String}
    {fields : List (String × Json)}
    (plain : ArePlain names fields)
    (nonempty : fields ≠ [])
    {fuel : Nat}
    (enough : fields.length ≤ fuel)
    (level outer : Nat)
    (rest : List Char) :
    takeSelection names fuel
        (indentedFields level fields ++ (newLine outer ++ '\x7d' :: rest)) =
      some (fields, rest) := by
  induction fields generalizing fuel with
  | nil => contradiction
  | cons field others hypothesis =>
    obtain ⟨fuel, rfl⟩ : ∃ less, fuel = less + 1 :=
      Nat.exists_eq_succ_of_ne_zero (by simp at enough; omega)
    obtain ⟨asked, flat⟩ := plain field (List.mem_cons_self ..)
    cases others with
    | nil =>
      have taken := takeSelected_fieldCharacters asked flat level
        (newLine outer ++ '\x7d' :: rest)
      have brace : skipGap (newLine outer ++ '\x7d' :: rest) =
          '\x7d' :: rest := by
        rw [skipGap_newLine]
        rfl
      rw [indentedFields_single]
      simp only [takeSelection, taken, brace, Option.bind_eq_bind,
        Option.bind_some, Option.pure_def]
    | cons next others =>
      have taken := takeSelected_fieldCharacters asked flat level
        (',' :: (indentedFields level (next :: others) ++
          (newLine outer ++ '\x7d' :: rest)))
      have comma (text : List Char) : skipGap (',' :: text) = ',' :: text :=
        rfl
      have remaining := hypothesis
        (fun field member => plain field (List.mem_cons_of_mem _ member))
        nofun (Nat.le_of_succ_le_succ enough)
      rw [indentedFields_cons_cons, List.append_assoc, List.cons_append]
      simp only [takeSelection, taken, comma, remaining, Option.bind_eq_bind,
        Option.bind_some, Option.pure_def, List.singleton_append]

theorem takeSelection_skipGap
    (names : List String)
    (fuel : Nat)
    (text : List Char) :
    takeSelection names fuel (skipGap text) =
      takeSelection names fuel text := by
  cases fuel with
  | zero => rfl
  | succ fuel =>
    simp only [takeSelection, takeSelected, skipGap_idempotent]

/-- A record with at least one field, each of which is asked for. -/
def IsSelected (names : List String) : Json → Prop
  | object fields => fields ≠ [] ∧ ArePlain names fields
  | _ => False

theorem length_le_indentedFields
    (level : Nat)
    (fields : List (String × Json)) :
    fields.length ≤ (indentedFields level fields).length := by
  induction fields with
  | nil => exact Nat.zero_le _
  | cons field others hypothesis =>
    have some : 0 < (fieldCharacters level field).length :=
      Nat.succ_pos _
    cases others with
    | nil => exact some
    | cons next others =>
      rw [indentedFields_cons_cons]
      simp only [List.length_append, List.length_cons] at hypothesis ⊢
      omega

theorem exists_fieldCharacters_eq (level : Nat) (field : String × Json) :
    ∃ more, fieldCharacters level field = newLine level ++ '"' :: more :=
  ⟨_, by rw [fieldCharacters, stringCharacters, List.append_assoc,
    List.cons_append, List.cons_append]⟩

/-- Behind the gap in front of it, the first field begins with its name. -/
theorem skipGap_indentedFields
    (level : Nat)
    (field : String × Json)
    (others : List (String × Json))
    (rest : List Char) :
    ∃ more, skipGap (indentedFields level (field :: others) ++ rest) =
        '"' :: more ∧
      others.length ≤ more.length := by
  have quote (text : List Char) : skipGap ('"' :: text) = '"' :: text := rfl
  obtain ⟨begun, shape⟩ := exists_fieldCharacters_eq level field
  cases others with
  | nil =>
    refine ⟨begun ++ rest, ?_, Nat.zero_le _⟩
    simp [indentedFields_single, shape, skipGap_newLine, quote]
  | cons next others =>
    have long := length_le_indentedFields level (next :: others)
    refine ⟨begun ++ ',' :: (indentedFields level (next :: others) ++ rest),
      ?_, ?_⟩
    · simp [indentedFields_cons_cons, shape, skipGap_newLine, quote]
    · simp only [List.length_append, List.length_cons] at long ⊢
      omega

theorem takeRecord_indentedCharacters
    {names : List String}
    {record : Json}
    (selected : record.IsSelected names)
    (level : Nat)
    (rest : List Char) :
    takeRecord names (skipGap (indentedCharacters level record ++ rest)) =
      some (record, rest) := by
  cases record with
  | object fields =>
    obtain ⟨nonempty, plain⟩ := selected
    cases fields with
    | nil => contradiction
    | cons field others =>
      have brace (text : List Char) :
          skipGap ('\x7b' :: text) = '\x7b' :: text := rfl
      obtain ⟨more, front, long⟩ := skipGap_indentedFields (level + 1) field
        others (newLine level ++ '\x7d' :: rest)
      have enough : (field :: others).length ≤ ('"' :: more).length :=
        Nat.succ_le_succ long
      have taken := takeSelection_indentedFields plain nonempty enough
        (level + 1) level rest
      rw [← takeSelection_skipGap, front, List.length_cons] at taken
      simp [indentedCharacters, brace, takeRecord, front, taken]
  | _ => contradiction

/-! ## Lists of records -/

theorem indentedItems_cons_cons
    (level : Nat)
    (item next : Json)
    (others : List Json) :
    indentedItems level (item :: next :: others) =
      newLine level ++ indentedCharacters level item ++
        ',' :: indentedItems level (next :: others) := by
  simp [indentedItems]

theorem length_le_indentedItems
    (level : Nat)
    (items : List Json) :
    items.length ≤ (indentedItems level items).length := by
  induction items with
  | nil => exact Nat.zero_le _
  | cons item others hypothesis =>
    cases others with
    | nil => exact Nat.succ_pos _
    | cons next others =>
      rw [indentedItems_cons_cons]
      simp only [List.length_append, List.length_cons] at hypothesis ⊢
      omega

/-- All records of a list are taken, in their order. -/
theorem takeItems_indentedItems
    {names : List String}
    {items : List Json}
    (selected : ∀ item ∈ items, item.IsSelected names)
    (nonempty : items ≠ [])
    {fuel : Nat}
    (enough : items.length ≤ fuel)
    (level outer : Nat)
    (rest : List Char) :
    takeItems (takeRecord names) fuel
        (indentedItems level items ++ (newLine outer ++ ']' :: rest)) =
      some (items, rest) := by
  induction items generalizing fuel with
  | nil => contradiction
  | cons item others hypothesis =>
    obtain ⟨fuel, rfl⟩ : ∃ less, fuel = less + 1 :=
      Nat.exists_eq_succ_of_ne_zero (by simp at enough; omega)
    have whole := selected item (List.mem_cons_self ..)
    cases others with
    | nil =>
      have taken := takeRecord_indentedCharacters whole level
        (newLine outer ++ ']' :: rest)
      have bracket : skipGap (newLine outer ++ ']' :: rest) =
          ']' :: rest := by
        rw [skipGap_newLine]
        rfl
      simp only [indentedItems, List.append_assoc, takeItems,
        skipGap_newLine, taken, bracket, Option.bind_eq_bind,
        Option.bind_some, Option.pure_def]
    | cons next others =>
      have taken := takeRecord_indentedCharacters whole level
        (',' :: (indentedItems level (next :: others) ++
          (newLine outer ++ ']' :: rest)))
      have comma (text : List Char) : skipGap (',' :: text) = ',' :: text :=
        rfl
      have remaining := hypothesis
        (fun item member => selected item (List.mem_cons_of_mem _ member))
        nofun (Nat.le_of_succ_le_succ enough)
      rw [indentedItems_cons_cons, List.append_assoc, List.append_assoc,
        List.cons_append]
      simp only [takeItems, skipGap_newLine, taken, comma, remaining,
        Option.bind_eq_bind, Option.bind_some, Option.pure_def]

theorem takeItems_skipGap
    (takeOne : List Char → Option (Json × List Char))
    (fuel : Nat)
    (text : List Char) :
    takeItems takeOne fuel (skipGap text) = takeItems takeOne fuel text := by
  cases fuel with
  | zero => rfl
  | succ fuel => simp only [takeItems, skipGap_idempotent]

/-- A record begins with a brace. -/
theorem exists_indentedCharacters_eq
    {names : List String}
    {record : Json}
    (selected : record.IsSelected names)
    (level : Nat) :
    ∃ more, indentedCharacters level record = '\x7b' :: more := by
  cases record with
  | object fields =>
    cases fields with
    | nil => exact absurd rfl selected.1
    | cons field others => exact ⟨_, rfl⟩
  | _ => contradiction

/-- Behind the gap in front of it, the first record begins with a brace. -/
theorem skipGap_indentedItems
    {names : List String}
    {item : Json}
    (selected : item.IsSelected names)
    (level : Nat)
    (others : List Json)
    (rest : List Char) :
    ∃ more, skipGap (indentedItems level (item :: others) ++ rest) =
        '\x7b' :: more ∧
      others.length ≤ more.length := by
  have brace (text : List Char) :
      skipGap ('\x7b' :: text) = '\x7b' :: text := rfl
  obtain ⟨begun, shape⟩ := exists_indentedCharacters_eq selected level
  cases others with
  | nil =>
    refine ⟨begun ++ rest, ?_, Nat.zero_le _⟩
    simp [indentedItems, shape, skipGap_newLine, brace]
  | cons next others =>
    have long := length_le_indentedItems level (next :: others)
    refine ⟨begun ++ ',' :: (indentedItems level (next :: others) ++ rest),
      ?_, ?_⟩
    · simp [indentedItems_cons_cons, shape, skipGap_newLine, brace]
    · simp only [List.length_append, List.length_cons] at long ⊢
      omega

/-- A list of records is read back from its text. -/
theorem readRecords_indented
    {names : List String}
    {records : List Json}
    (selected : ∀ record ∈ records, record.IsSelected names) :
    readRecords names (Json.array records).indented = some records := by
  cases records with
  | nil => rfl
  | cons record others =>
    have bracket (text : List Char) : skipGap ('[' :: text) = '[' :: text :=
      rfl
    obtain ⟨more, front, long⟩ := skipGap_indentedItems
      (selected record (List.mem_cons_self ..)) 1 others
      (newLine 0 ++ [']'])
    have enough : (record :: others).length ≤ ('\x7b' :: more).length :=
      Nat.succ_le_succ long
    have taken := takeItems_indentedItems selected nofun enough 1 0 []
    rw [← takeItems_skipGap, front] at taken
    have reads : readItems names ('\x7b' :: more) =
        some (record :: others) := by
      unfold readItems
      rw [taken]
      rfl
    have written : (Json.array (record :: others)).indented.toList =
        '[' :: (indentedItems 1 (record :: others) ++
          (newLine 0 ++ [']'])) := by
      rw [indented, String.toList_ofList, indentedCharacters,
        List.append_assoc]
      rfl
    unfold readRecords
    simp only [written, bracket, front]
    exact reads

end MandateDesk.Json
