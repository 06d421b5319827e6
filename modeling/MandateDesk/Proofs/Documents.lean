import MandateDesk.Proofs.Values

/-!
# Written documents

A document of tables is read line by line, and each line does to the tree of
the document what it says.  The number of lines that are still to be read needs
no count: whatever is left of a text is shorter than the text.
-/

namespace MandateDesk.Toml

/-! ## Keys -/

/-- A name that needs no quotes. -/
def IsBareName (name : String) : Prop :=
  name.toList ≠ [] ∧ ∀ character ∈ name.toList, isBare character = true

instance (name : String) : Decidable (IsBareName name) :=
  decidable_of_iff (name.toList ≠ [] ∧ name.toList.all isBare = true)
    (and_congr_right fun _ => List.all_eq_true)

theorem IsBareName.exists_cons
    {name : String}
    (bare : IsBareName name) :
    ∃ first others, name.toList = first :: others ∧ isBare first = true := by
  obtain ⟨nonempty, all⟩ := bare
  cases written : name.toList with
  | nil => contradiction
  | cons first others =>
    exact ⟨first, others, rfl, all first (written ▸ List.mem_cons_self ..)⟩

theorem ne_of_isBare
    {first letter : Char}
    (bare : isBare first = true)
    (other : isBare letter = false) :
    first ≠ letter := by
  rintro rfl
  rw [bare] at other
  contradiction

/-- A bare name is taken up to what cannot stand in one. -/
theorem takeName_bare
    {name : String}
    (bare : IsBareName name)
    {mark : Char}
    (ends : isBare mark = false)
    (rest : List Char) :
    takeName (name.toList ++ mark :: rest) = some (name, mark :: rest) := by
  have word : (name.toList ++ mark :: rest).takeWhile isBare =
      name.toList := by
    rw [List.takeWhile_append_of_pos bare.2]
    simp [ends]
  obtain ⟨first, others, written, front⟩ := bare.exists_cons
  have apart (letter : Char) (other : isBare letter = false)
      (more : List Char) : name.toList ++ mark :: rest ≠ letter :: more := by
    rw [written]
    exact fun same => ne_of_isBare front other (List.cons.inj same).1
  unfold takeName
  split
  · next same => exact absurd same (apart _ rfl _)
  · next same => exact absurd same (apart _ rfl _)
  · simp [word, bare.1]

theorem skipSpace_bare
    {name : String}
    (bare : IsBareName name)
    (rest : List Char) :
    skipSpace (name.toList ++ rest) = name.toList ++ rest := by
  obtain ⟨first, others, written, front⟩ := bare.exists_cons
  have blank : first ≠ ' ' := ne_of_isBare front rfl
  have tab : first ≠ '\t' := ne_of_isBare front rfl
  simp [written, skipSpace, isSpace, blank, tab]

theorem takeKey_single
    {name : String}
    (bare : IsBareName name)
    {mark : Char}
    (ends : isBare mark = false)
    {rest left : List Char}
    (gap : skipSpace (mark :: rest) = left)
    (last : left.head? ≠ some '.')
    (fuel : Nat) :
    takeKey (fuel + 1) (name.toList ++ mark :: rest) = some ([name], left) := by
  have named := takeName_bare bare ends rest
  have joined := skipSpace_bare bare (mark :: rest)
  simp only [takeKey, joined, named, gap, Option.bind_eq_bind,
    Option.bind_some]
  split
  · exact absurd rfl last
  · rfl

theorem takeKey_dotted
    {name : String}
    (bare : IsBareName name)
    (fuel : Nat)
    {names : List String}
    {text left : List Char}
    (taken : takeKey fuel text = some (names, left)) :
    takeKey (fuel + 1) (name.toList ++ '.' :: text) =
      some (name :: names, left) := by
  have noBare : isBare '.' = false := rfl
  have named := takeName_bare bare noBare text
  have joined := skipSpace_bare bare ('.' :: text)
  have gap : skipSpace ('.' :: text) = '.' :: text := rfl
  simp [takeKey, joined, named, gap, taken]

/-- Names as they are written in a header. -/
def headerText (path : List String) : String :=
  String.intercalate "." path

theorem toList_headerText_single (name : String) :
    (headerText [name]).toList = name.toList := by
  simp [headerText]

theorem toList_headerText_cons_cons
    (first second : String)
    (rest : List String) :
    (headerText (first :: second :: rest)).toList =
      first.toList ++ '.' :: (headerText (second :: rest)).toList := by
  simp [headerText, String.toList_intercalate]

/-- Bare names with dots between them are taken as they are. -/
theorem takeKey_headerText
    {path : List String}
    (nonempty : path ≠ [])
    (bare : ∀ name ∈ path, IsBareName name)
    {fuel : Nat}
    (enough : path.length ≤ fuel)
    (rest : List Char) :
    takeKey fuel ((headerText path).toList ++ ']' :: rest) =
      some (path, ']' :: rest) := by
  induction path generalizing fuel with
  | nil => contradiction
  | cons name others hypothesis =>
    obtain ⟨fuel, rfl⟩ := Nat.exists_eq_add_of_le' enough
    have first := bare name (List.mem_cons_self ..)
    cases others with
    | nil =>
      rw [toList_headerText_single]
      have gap : skipSpace (']' :: rest) = ']' :: rest := rfl
      exact takeKey_single first rfl gap (by simp) fuel
    | cons second others =>
      have later := hypothesis nofun
        (fun name member => bare name (List.mem_cons_of_mem _ member))
        (Nat.le_add_left _ fuel)
      rw [toList_headerText_cons_cons, List.append_assoc, List.cons_append]
      exact takeKey_dotted first _ later

/-- A header of bare names does not begin like the header of a list. -/
theorem head?_headerText_ne
    {path : List String}
    (bare : ∀ name ∈ path, IsBareName name) :
    (headerText path).toList.head? ≠ some '[' := by
  cases path with
  | nil => decide
  | cons name others =>
    obtain ⟨nonempty, all⟩ := bare name (List.mem_cons_self ..)
    have front : (headerText (name :: others)).toList.head? =
        name.toList.head? := by
      cases others with
      | nil => rw [toList_headerText_single]
      | cons second others =>
        rw [toList_headerText_cons_cons, List.head?_append]
        exact Option.or_of_isSome (List.isSome_head?.mpr nonempty)
    rw [front]
    intro same
    have bracket := all '[' (List.mem_of_mem_head? same)
    contradiction

/-! ## Lines -/

/-- The rest of a document can be read, and leaves entries behind. -/
def Yields (progress : Progress) (text : List Char) (entries : Entries) :
    Prop :=
  ∃ header, ∀ fuel, text.length < fuel →
    readLines fuel progress text = some ⟨entries, header⟩

theorem yields_nil (progress : Progress) :
    Yields progress [] progress.entries := by
  refine ⟨progress.header, fun fuel enough => ?_⟩
  cases fuel with
  | zero => contradiction
  | succ fuel => rfl

/-- One line is read, and then the rest. -/
theorem Yields.step
    {progress next : Progress}
    {entries : Entries}
    {first : Char}
    {text rest left : List Char}
    (taken : takeStatement progress (skipSpace (first :: text)) =
      some (next, rest))
    (ended : afterLine? rest = some left)
    (shorter : left.length ≤ text.length)
    (yields : Yields next left entries) :
    Yields progress (first :: text) entries := by
  obtain ⟨header, reads⟩ := yields
  refine ⟨header, fun fuel enough => ?_⟩
  cases fuel with
  | zero => contradiction
  | succ fuel =>
    have later := reads fuel (by simp at enough; omega)
    simp [readLines, taken, ended, later]

/-- An empty line says nothing. -/
theorem Yields.blank
    {progress : Progress}
    {entries : Entries}
    {rest : List Char}
    (yields : Yields progress rest entries) :
    Yields progress ('\n' :: rest) entries :=
  .step rfl rfl (Nat.le_refl _) yields

/-- A line that begins with a bare name is a key with its value. -/
theorem takeStatement_bare
    {name : String}
    (bare : IsBareName name)
    (progress : Progress)
    (rest : List Char) :
    takeStatement progress (name.toList ++ rest) =
      takePair progress (name.toList ++ rest) := by
  obtain ⟨first, others, written, front⟩ := bare.exists_cons
  have apart (letter : Char) (other : isBare letter = false) :
      first ≠ letter :=
    ne_of_isBare front other
  rw [written, List.cons_append]
  unfold takeStatement
  split
  · contradiction
  · next same => exact absurd (List.cons.inj same).1 (apart _ rfl)
  · next same => exact absurd (List.cons.inj same).1 (apart _ rfl)
  · next same =>
    obtain ⟨rfl, -⟩ := List.cons.inj same
    exact if_neg (by simp [apart '#' rfl, apart '\n' rfl, apart '\r' rfl])

/-- A key with its value is added to the table under the last header. -/
theorem Yields.pair
    {known entries filled : Entries}
    {header : List String}
    {name : String}
    {written rest : List Char}
    {value : Json}
    (bare : IsBareName name)
    (writes : Writes written value)
    (gives : assigned header [name] value known = some entries)
    (yields : Yields ⟨entries, header⟩ rest filled) :
    Yields ⟨known, header⟩
      (name.toList ++ ' ' :: '=' :: ' ' :: (written ++ '\n' :: rest))
      filled := by
  have key : takeKey keyLimit
      (name.toList ++ ' ' :: '=' :: ' ' :: (written ++ '\n' :: rest)) =
        some ([name], '=' :: ' ' :: (written ++ '\n' :: rest)) := by
    have sign : skipSpace (' ' :: '=' :: ' ' :: (written ++ '\n' :: rest)) =
        '=' :: ' ' :: (written ++ '\n' :: rest) := rfl
    exact takeKey_single bare rfl sign (by simp) 78
  have gap : skipSpace (' ' :: (written ++ '\n' :: rest)) =
      written ++ '\n' :: rest := writes.joined rest
  have pair : takePair ⟨known, header⟩
      (name.toList ++ ' ' :: '=' :: ' ' :: (written ++ '\n' :: rest)) =
        some (⟨entries, header⟩, '\n' :: rest) := by
    unfold takePair
    simp only [key, gap, writes.taken rest, gives, Option.bind_eq_bind,
      Option.bind_some, Option.pure_def]
  have joined := skipSpace_bare bare
    (' ' :: '=' :: ' ' :: (written ++ '\n' :: rest))
  have statement := takeStatement_bare bare ⟨known, header⟩
    (' ' :: '=' :: ' ' :: (written ++ '\n' :: rest))
  obtain ⟨first, others, spelled, -⟩ := bare.exists_cons
  rw [pair, ← joined, spelled] at statement
  rw [spelled, List.cons_append]
  refine .step statement rfl ?_ yields
  simp only [List.length_append, List.length_cons]
  omega

/-- A header opens its table. -/
theorem Yields.header
    {progress : Progress}
    {entries filled : Entries}
    {path : List String}
    {title rest : List Char}
    (taken : ∀ rest, takeKey keyLimit (title ++ ']' :: rest) =
      some (path, ']' :: rest))
    (single : title.head? ≠ some '[')
    (gives : opened path progress.entries = some entries)
    (yields : Yields ⟨entries, path⟩ rest filled) :
    Yields progress ('[' :: (title ++ ']' :: '\n' :: rest)) filled := by
  have key := taken ('\n' :: rest)
  have ended : afterLine? ('\n' :: rest) = some rest := rfl
  have header : takeHeader progress (title ++ ']' :: '\n' :: rest) =
      some (⟨entries, path⟩, '\n' :: rest) := by
    unfold takeHeader
    simp only [key, gives, Option.bind_eq_bind, Option.bind_some,
      Option.pure_def]
  refine .step ?_ ended ?_ yields
  · show takeStatement progress ('[' :: (title ++ ']' :: '\n' :: rest)) = _
    unfold takeStatement
    split
    · contradiction
    · next same =>
      have front := (List.cons.inj same).2
      cases title with
      | nil => cases front
      | cons first others =>
        exact absurd (congrArg some (List.cons.inj front).1) single
    · next same =>
      obtain ⟨-, rfl⟩ := List.cons.inj same
      exact header
    · next impossible same =>
      obtain ⟨rfl, rfl⟩ := List.cons.inj same
      exact absurd rfl impossible
  · simp only [List.length_append, List.length_cons]
    omega

/-! ## Tables -/

/-- A line of a table: a name, what is written behind it, and its value. -/
structure Row where
  /-- The name. -/
  name : String
  /-- The written value. -/
  written : String
  /-- The value. -/
  value : Json

/-- A line that says that its name has its value. -/
structure Row.IsSound (row : Row) : Prop where
  /-- The name needs no quotes. -/
  bare : IsBareName row.name
  /-- The value is what is written. -/
  writes : Writes row.written.toList row.value

/-- The table of a document with its header. -/
structure Block where
  /-- The names of the header. -/
  path : List String
  /-- The lines. -/
  rows : List Row

/-- The text of a table. -/
def Block.text (block : Block) : String :=
  table (headerText block.path) (block.rows.map fun row => (row.name, row.written))

/-- A tree with the lines of the table under a header. -/
def added (header : List String) (known : Entries) (rows : List Row) :
    Option Entries :=
  rows.foldlM
    (fun entries row => assigned header [row.name] row.value entries) known

/-- A tree with one more table. -/
def Block.grown (known : Entries) (block : Block) : Option Entries :=
  (opened block.path known).bind fun entries =>
    added block.path entries block.rows

/-- A table that says what it is meant to. -/
structure Block.IsSound (block : Block) : Prop where
  /-- The header has a name. -/
  nonempty : block.path ≠ []
  /-- It has no more names than a header may have. -/
  short : block.path.length ≤ keyLimit
  /-- Its names need no quotes. -/
  bare : ∀ name ∈ block.path, IsBareName name
  /-- The lines say what they are meant to. -/
  rows : ∀ row ∈ block.rows, row.IsSound

theorem toList_line (name written : String) :
    (line name written).toList =
      name.toList ++ ' ' :: '=' :: ' ' :: (written.toList ++ ['\n']) := by
  simp [line]

/-- The lines of a table are read one after another. -/
theorem Yields.rows
    {rows : List Row}
    {header : List String}
    {known entries filled : Entries}
    {rest : List Char}
    (sound : ∀ row ∈ rows, row.IsSound)
    (gives : added header known rows = some entries)
    (yields : Yields ⟨entries, header⟩ rest filled) :
    Yields ⟨known, header⟩
      (rows.flatMap (fun row => (line row.name row.written).toList) ++ rest)
      filled := by
  induction rows generalizing known with
  | nil =>
    cases gives
    exact yields
  | cons row rows hypothesis =>
    obtain ⟨bare, writes⟩ := sound row (List.mem_cons_self ..)
    unfold added at gives
    rw [List.foldlM_cons, Option.bind_eq_bind, Option.bind_eq_some_iff] at gives
    obtain ⟨next, first, others⟩ := gives
    have later := hypothesis
      (fun row member => sound row (List.mem_cons_of_mem _ member)) others
    rw [List.flatMap_cons, toList_line]
    simpa using Yields.pair bare writes first later

theorem toList_text (block : Block) :
    block.text.toList =
      '[' :: ((headerText block.path).toList ++ ']' :: '\n' ::
        block.rows.flatMap fun row => (line row.name row.written).toList) := by
  simp [Block.text, table, String.toList_join, List.flatMap_map]

/-- A table is read with its header and its lines. -/
theorem Yields.block
    {block : Block}
    {progress : Progress}
    {entries filled : Entries}
    {rest : List Char}
    (sound : block.IsSound)
    (gives : block.grown progress.entries = some entries)
    (yields : ∀ header, Yields ⟨entries, header⟩ rest filled) :
    Yields progress (block.text.toList ++ rest) filled := by
  unfold Block.grown at gives
  rw [Option.bind_eq_some_iff] at gives
  obtain ⟨next, opens, adds⟩ := gives
  rw [toList_text]
  have rows := Yields.rows sound.rows adds (yields block.path)
  have taken (rest : List Char) :=
    takeKey_headerText sound.nonempty sound.bare sound.short rest
  simpa using
    Yields.header taken (head?_headerText_ne sound.bare) opens rows

/-! ## Trees -/

/--
A tree as it surrounds the table at a path: what is done there is done there
alone.
-/
def Surrounds (path : List String) (around : Entries → Entries) : Prop :=
  ∀ (change : TableKind → Entries → Option Entries) (inner : Entries),
    within false change path .headed (around inner) =
      (change .headed inner).map around

theorem surrounds_nil : Surrounds [] id := by
  intro change inner
  simp [within]

theorem find?_append_of_fresh
    {name : String}
    {entries : Entries}
    (fresh : find? name entries = none)
    (item : Item) :
    find? name (entries ++ [(name, item)]) = some item := by
  have absent : entries.lookup name = none := fresh
  simp [find?, List.lookup_append, absent]

theorem replaced_append_of_fresh
    {name : String}
    {entries : Entries}
    (fresh : find? name entries = none)
    (old new : Item) :
    replaced name new (entries ++ [(name, old)]) =
      entries ++ [(name, new)] := by
  have others : entries.map
      (fun entry => if entry.1 == name then (name, new) else entry) =
        entries := by
    refine (List.map_congr_left fun entry member => ?_).trans
      (List.map_id entries)
    have apart := List.lookup_eq_none_iff.mp fresh entry member
    rw [bne_iff_ne] at apart
    have other : (entry.1 == name) = false :=
      beq_eq_false_iff_ne.mpr fun same => apart same.symm
    simp [other]
  unfold replaced
  rw [List.map_append, others]
  simp

/-- A table that comes last is surrounded by the entries in front of it. -/
theorem surrounds_last
    {name : String}
    {entries : Entries}
    (fresh : find? name entries = none) :
    Surrounds [name] fun inner =>
      entries ++ [(name, .table .headed inner)] := by
  intro change inner
  unfold within
  rw [find?_append_of_fresh fresh]
  simp only [within, Bool.false_eq_true, false_and, if_false]
  cases change .headed inner with
  | none => rfl
  | some changed =>
    simp only [Option.map_some, Option.bind_eq_bind, Option.bind_some,
      Option.pure_def, replaced_append_of_fresh fresh]

theorem within_append
    (dotted : Bool)
    (change : TableKind → Entries → Option Entries)
    (first second : List String)
    (kind : TableKind)
    (entries : Entries) :
    within dotted change (first ++ second) kind entries =
      within dotted (within dotted change second) first kind entries := by
  induction first generalizing kind entries with
  | nil => rfl
  | cons name rest hypothesis =>
    simp only [List.cons_append, within, hypothesis]

/-- What surrounds a table in a table surrounds it in the whole tree. -/
theorem Surrounds.append
    {outer inner : List String}
    {around within : Entries → Entries}
    (surrounds : Surrounds outer around)
    (inside : Surrounds inner within) :
    Surrounds (outer ++ inner) (around ∘ within) := by
  intro change entries
  rw [within_append, Function.comp_apply, surrounds, inside, Option.map_map]

/-- What a line leaves in its table. -/
def Row.entry (row : Row) : String × Item :=
  (row.name, .value row.value)

theorem added_of_surrounds
    {path : List String}
    {around : Entries → Entries}
    (surrounds : Surrounds path around)
    {rows : List Row}
    {inner : Entries}
    (fresh : ∀ row ∈ rows, find? row.name inner = none)
    (distinct : (rows.map Row.name).Nodup) :
    added path (around inner) rows =
      some (around (inner ++ rows.map Row.entry)) := by
  induction rows generalizing inner with
  | nil => simp [added]
  | cons row rows hypothesis =>
    have absent := fresh row (List.mem_cons_self ..)
    have assigns : assigned path [row.name] row.value (around inner) =
        some (around (inner ++ [row.entry])) := by
      unfold assigned
      rw [surrounds]
      simp [assignedIn, within, assign, absent, Row.entry]
    rw [List.map_cons, List.nodup_cons] at distinct
    have others : ∀ other ∈ rows,
        find? other.name (inner ++ [row.entry]) = none := by
      intro other member
      have apart : (other.name == row.name) = false :=
        beq_eq_false_iff_ne.mpr fun same =>
          distinct.1 (List.mem_map.mpr ⟨other, member, same⟩)
      have before : inner.lookup other.name = none :=
        fresh other (List.mem_cons_of_mem _ member)
      simp [find?, List.lookup_append, before, Row.entry, List.lookup_cons,
        apart]
    have later := hypothesis others distinct.2
    unfold added at later ⊢
    rw [List.foldlM_cons, assigns, Option.bind_eq_bind, Option.bind_some,
      later]
    simp

/-- A table is added at the end of the table that is to hold it. -/
theorem grown_of_surrounds
    {path : List String}
    {around : Entries → Entries}
    (surrounds : Surrounds path around)
    {name : String}
    {inner : Entries}
    (fresh : find? name inner = none)
    {rows : List Row}
    (distinct : (rows.map Row.name).Nodup) :
    Block.grown (around inner) ⟨path ++ [name], rows⟩ =
      some (around
        (inner ++ [(name, .table .headed (rows.map Row.entry))])) := by
  have opens : opened (path ++ [name]) (around inner) =
      some (around (inner ++ [(name, .table .headed [])])) := by
    simp [opened, surrounds _ inner, openTable, fresh]
  have unused : ∀ row ∈ rows, find? row.name [] = none := fun _ _ => rfl
  have adds := added_of_surrounds
    (surrounds.append (surrounds_last fresh)) unused distinct
  simp only [Block.grown, opens, Option.bind_some]
  exact adds

/-! ## Documents -/

theorem toList_document_single (text : String) :
    (document [text]).toList = text.toList := by
  simp [document]

theorem toList_document_cons_cons (first second : String) (rest : List String) :
    (document (first :: second :: rest)).toList =
      first.toList ++ '\n' :: (document (second :: rest)).toList := by
  simp [document, String.toList_intercalate]

/-- Tables with empty lines between them are read one after another. -/
theorem Yields.tables
    {blocks : List Block}
    (nonempty : blocks ≠ [])
    {progress : Progress}
    {entries filled : Entries}
    {rest : List Char}
    (sound : ∀ block ∈ blocks, block.IsSound)
    (gives : blocks.foldlM Block.grown progress.entries = some entries)
    (yields : ∀ header, Yields ⟨entries, header⟩ rest filled) :
    Yields progress ((document (blocks.map Block.text)).toList ++ rest)
      filled := by
  induction blocks generalizing progress with
  | nil => contradiction
  | cons block blocks hypothesis =>
    rw [List.foldlM_cons, Option.bind_eq_bind, Option.bind_eq_some_iff] at gives
    obtain ⟨next, first, others⟩ := gives
    have whole := sound block (List.mem_cons_self ..)
    cases blocks with
    | nil =>
      cases others
      rw [List.map_cons, List.map_nil, toList_document_single]
      exact .block whole first yields
    | cons second blocks =>
      have later (header : List String) :
          Yields ⟨next, header⟩
            ((document ((second :: blocks).map Block.text)).toList ++ rest)
            filled :=
        hypothesis nofun
          (fun block member => sound block (List.mem_cons_of_mem _ member))
          others
      rw [List.map_cons, List.map_cons, toList_document_cons_cons,
        List.append_assoc, List.cons_append, ← List.map_cons]
      exact .block whole first fun header => (later header).blank

/-- A document of tables is read as the fields of the tree that they grow. -/
theorem readCharacters_document
    {blocks : List Block}
    (nonempty : blocks ≠ [])
    {entries : Entries}
    (sound : ∀ block ∈ blocks, block.IsSound)
    (gives : blocks.foldlM Block.grown [] = some entries)
    {rest : List Char}
    (yields : ∀ header, Yields ⟨entries, header⟩ rest entries) :
    readCharacters ((document (blocks.map Block.text)).toList ++ rest) =
      resolvedTable? (entriesToJson entries) := by
  have front : skipByteOrder
      ((document (blocks.map Block.text)).toList ++ rest) =
        (document (blocks.map Block.text)).toList ++ rest := by
    cases blocks with
    | nil => contradiction
    | cons block blocks =>
      cases blocks with
      | nil =>
        rw [List.map_cons, List.map_nil, toList_document_single, toList_text]
        rfl
      | cons second blocks =>
        rw [List.map_cons, List.map_cons, toList_document_cons_cons,
          toList_text]
        rfl
  have tables : Yields ⟨[], []⟩
      ((document (blocks.map Block.text)).toList ++ rest) entries :=
    Yields.tables nonempty sound gives yields
  obtain ⟨header, reads⟩ := tables
  have whole := reads _ (Nat.lt_succ_self _)
  simp only [readCharacters, front, whole, Option.bind_some]

end MandateDesk.Toml
