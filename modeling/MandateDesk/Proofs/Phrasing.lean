import MandateDesk.Mandate.Reader
import MandateDesk.Proofs.Checks
import MandateDesk.Proofs.Numerals

/-!
# Phrased mandates

A mandate is phrased as a few fields with colons between them.  `Phrases` says
which texts phrase which mandates without saying how they are read: the first
field spells the kind in any case and between blanks, the second is an authority
in digits, the third is the source as it stands, and where there are five fields
the others spell a direction and give a quantity.  A text is read as a mandate
exactly if it phrases one that is valid.

A valid mandate can be phrased if its source has no colon in it.  What is
written from its fields is then read back as the same mandate, with the number
of fraction digits that its quantity has, under the identifier and the stamp
that are given beside the text.
-/

namespace MandateDesk

/-! ## Fields between colons -/

namespace Text

/-- The fields of a text, in which there is no colon. -/
structure Fields (text : String) (fields : List String) : Prop where
  joined : text = ":".intercalate fields
  free : ∀ field ∈ fields, ':' ∉ field.toList

/-- A text is divided at its colons, and in one way only. -/
theorem parts_eq_iff_fields
    (text : String)
    {fields : List String}
    (nonempty : fields ≠ []) :
    (parts ':' text.toList).map String.ofList = fields ↔
      Fields text fields := by
  constructor
  · rintro rfl
    constructor
    · rw [← String.toList_inj, String.toList_intercalate, List.map_map]
      have same : String.toList ∘ String.ofList = id :=
        funext fun _ => String.toList_ofList
      rw [same, List.map_id]
      exact (intercalate_parts ':' text.toList).symm
    · intro field member
      rcases List.mem_map.mp member with ⟨part, listed, rfl⟩
      rw [String.toList_ofList]
      exact not_mem_of_mem_parts listed
  · rintro ⟨rfl, free⟩
    have divided :
        parts ':' (":".intercalate fields).toList =
          fields.map String.toList := by
      rw [String.toList_intercalate]
      refine parts_intercalate (by simpa using nonempty) ?_
      intro part member
      rcases List.mem_map.mp member with ⟨field, listed, rfl⟩
      exact free field listed
    rw [divided, List.map_map]
    have same : String.ofList ∘ String.toList = id :=
      funext fun _ => String.ofList_toList
    rw [same, List.map_id]

end Text

open Text (Fields IsUnsigned Spells)

/-! ## Words -/

theorem Mandate.Kind.read?_eq_some_iff
    (text : String)
    (kind : Kind) :
    read? text = some kind ↔ Spells kind.word text := by
  have solid : kind.word.toList.any Text.isBlank = false := by
    cases kind <;> decide
  rw [← Text.keyword_eq_iff solid]
  unfold read?
  constructor
  · intro named
    have word := List.find?_some named
    exact (beq_iff_eq.mp word).symm
  · intro named
    rw [named]
    exact ofWord?_word kind

/-- The names of a direction. -/
def Direction.names : Direction → List String
  | long => ["LONG", "BUY"]
  | short => ["SHORT", "SELL"]

theorem Direction.read?_eq_some_iff
    (text : String)
    (direction : Direction) :
    read? text = some direction ↔
      ∃ name ∈ direction.names, Spells name text := by
  have solid :
      ∀ name ∈ direction.names, name.toList.any Text.isBlank = false := by
    cases direction <;> decide
  have spelled :
      (∃ name ∈ direction.names, Spells name text) ↔
        Text.keyword text ∈ direction.names := by
    constructor
    · rintro ⟨name, listed, spells⟩
      rw [(Text.keyword_eq_iff (solid name listed) text).mpr spells]
      exact listed
    · intro listed
      exact ⟨_, listed, (Text.keyword_eq_iff (solid _ listed) text).mp rfl⟩
  rw [spelled]
  unfold read?
  generalize Text.keyword text = name
  cases direction with
  | long =>
    simp only [names, List.mem_cons, List.not_mem_nil, or_false]
    split
    · simp_all
    · split <;> simp_all
  | short =>
    simp only [names, List.mem_cons, List.not_mem_nil, or_false]
    split
    · rename_i other
      rcases other with rfl | rfl <;> simp
    · split <;> simp_all

/-! ## Written fields -/

theorem Text.spells_self
    {word : String}
    (upper : word.toList.flatMap upperCharacter = word.toList) :
    Spells word word :=
  ⟨[], word.toList, [], by simp, rfl, rfl, upper⟩

theorem Text.isUnsigned_decimalText
    {bound number : Nat}
    (small : number < bound) :
    IsUnsigned bound (decimalText number).toList number :=
  ⟨digits number, .inl String.toList_ofList, digits_ne_nil number,
    areDigits_digits number, denoted_digits number, small⟩

theorem Text.colon_not_mem_decimalText (number : Nat) :
    ':' ∉ (decimalText number).toList := by
  unfold decimalText
  rw [String.toList_ofList]
  exact (areDigits_digits number).not_mem (by decide)

theorem Decimal.colon_not_mem_text (number : Decimal) :
    ':' ∉ number.text.toList := by
  rcases exists_pointed_eq number.mantissa number.scale with
    ⟨whole, fraction, same, wholeDigits, digits, _⟩
  have plain : ':' ∉ pointed number.mantissa number.scale := by
    rw [same, List.mem_append, not_or]
    refine ⟨wholeDigits.not_mem (by decide), ?_⟩
    split
    · exact List.not_mem_nil
    · rw [List.mem_cons, not_or]
      exact ⟨by decide, digits.not_mem (by decide)⟩
  unfold text characters
  rw [String.toList_ofList]
  split
  · rw [List.mem_cons, not_or]
    exact ⟨by decide, plain⟩
  · exact plain

namespace Mandate

/-! ## What is phrased -/

/-- The mandates that a text phrases for a symbol. -/
inductive Phrases
    (id : Identifier)
    (symbol : Symbol)
    (stamp : Instant)
    (text : String) :
    Mandate → Prop where
  | brief {first second source kind authority}
      (fields : Fields text [first, second, source])
      (named : Spells kind.word first)
      (ranked : IsUnsigned Text.bound32 second.toList authority) :
      Phrases id symbol stamp text
        (plain id symbol stamp kind authority source)
  | full {first second source fourth fifth}
      {kind authority direction quantity}
      (fields : Fields text [first, second, source, fourth, fifth])
      (named : Spells kind.word first)
      (ranked : IsUnsigned Text.bound32 second.toList authority)
      (directed : ∃ name ∈ direction.names, Spells name fourth)
      (sized : Decimal.read? fifth = some quantity) :
      Phrases id symbol stamp text
        { plain id symbol stamp kind authority source with
          direction := some direction
          quantity }

theorem readKind_eq_ok_iff
    {text : String}
    {kind : Kind} :
    readKind text = .ok kind ↔ Spells kind.word text := by
  rw [← Kind.read?_eq_some_iff]
  unfold readKind
  cases Kind.read? text <;> simp

theorem readAuthority_eq_ok_iff
    {text : String}
    {authority : Nat} :
    readAuthority text = .ok authority ↔
      IsUnsigned Text.bound32 text.toList authority := by
  rw [← Text.unsigned?_eq_some_iff]
  unfold readAuthority
  cases Text.unsigned? Text.bound32 text.toList <;> simp

theorem readDirection_eq_ok_iff
    {text : String}
    {direction : Direction} :
    readDirection text = .ok direction ↔
      ∃ name ∈ direction.names, Spells name text := by
  rw [← Direction.read?_eq_some_iff]
  unfold readDirection
  cases Direction.read? text <;> simp

theorem readQuantity_eq_ok_iff
    {text : String}
    {quantity : Decimal} :
    readQuantity text = .ok quantity ↔
      Decimal.read? text = some quantity := by
  unfold readQuantity
  cases Decimal.read? text <;> simp

section Reading

variable {id : Identifier} {symbol : Symbol} {stamp : Instant}
variable {text : String} {mandate : Mandate}

theorem readUnchecked_eq_ok_iff :
    readUnchecked id symbol stamp text = .ok mandate ↔
      Phrases id symbol stamp text mandate := by
  constructor
  · intro read
    unfold readUnchecked at read
    split at read
    · rename_i first second source divided
      have fields :=
        (Text.parts_eq_iff_fields text (List.cons_ne_nil _ _)).mp divided
      rcases Risk.bind_eq_ok.mp read with ⟨kind, named, read⟩
      rcases Risk.bind_eq_ok.mp read with ⟨authority, ranked, read⟩
      cases read
      exact .brief fields (readKind_eq_ok_iff.mp named)
        (readAuthority_eq_ok_iff.mp ranked)
    · rename_i first second source fourth fifth divided
      have fields :=
        (Text.parts_eq_iff_fields text (List.cons_ne_nil _ _)).mp divided
      rcases Risk.bind_eq_ok.mp read with ⟨kind, named, read⟩
      rcases Risk.bind_eq_ok.mp read with ⟨authority, ranked, read⟩
      rcases Risk.bind_eq_ok.mp read with ⟨direction, directed, read⟩
      rcases Risk.bind_eq_ok.mp read with ⟨quantity, sized, read⟩
      cases read
      exact .full fields (readKind_eq_ok_iff.mp named)
        (readAuthority_eq_ok_iff.mp ranked)
        (readDirection_eq_ok_iff.mp directed)
        (readQuantity_eq_ok_iff.mp sized)
    · contradiction
  · intro phrases
    unfold readUnchecked
    cases phrases with
    | brief fields named ranked =>
      rw [(Text.parts_eq_iff_fields text (List.cons_ne_nil _ _)).mpr fields]
      simp only [readKind_eq_ok_iff.mpr named,
        readAuthority_eq_ok_iff.mpr ranked]
      rfl
    | full fields named ranked directed sized =>
      rw [(Text.parts_eq_iff_fields text (List.cons_ne_nil _ _)).mpr fields]
      simp only [readKind_eq_ok_iff.mpr named,
        readAuthority_eq_ok_iff.mpr ranked,
        readDirection_eq_ok_iff.mpr directed,
        readQuantity_eq_ok_iff.mpr sized]
      rfl

/-- A text is read as a mandate if it phrases one that is valid. -/
theorem read_eq_ok_iff :
    Mandate.read id symbol stamp text = .ok mandate ↔
      Phrases id symbol stamp text mandate ∧ mandate.validate = .ok () := by
  rw [← readUnchecked_eq_ok_iff]
  unfold Mandate.read
  cases readUnchecked id symbol stamp text with
  | error refusal => simp
  | ok candidate =>
    simp only [Except.ok.injEq]
    cases checked : candidate.validate with
    | error fault =>
      simp only [reduceCtorEq, false_iff, not_and]
      rintro rfl
      rw [checked]
      exact nofun
    | ok accepted =>
      simp only [Except.ok.injEq]
      refine (and_iff_left_of_imp ?_).symm
      rintro rfl
      exact checked

end Reading

/-! ## Writing mandates -/

/-- The text of a mandate without direction and quantity. -/
def briefText (mandate : Mandate) : String :=
  ":".intercalate
    [mandate.kind.word, Text.decimalText mandate.authority, mandate.source]

/-- The text of a mandate with its direction and quantity. -/
def fullText (mandate : Mandate) (direction : Direction) : String :=
  ":".intercalate
    [mandate.kind.word, Text.decimalText mandate.authority, mandate.source,
      direction.word, mandate.quantity.text]

/-- A valid mandate whose fields can stand between colons. -/
structure Writable (mandate : Mandate) : Prop where
  valid : mandate.validate = .ok ()
  /-- An authority is a number of 32 bits. -/
  ranked : mandate.authority < Text.bound32
  source : ':' ∉ mandate.source.toList

section Writing

variable {mandate : Mandate}

theorem colon_not_mem_word (kind : Kind) : ':' ∉ kind.word.toList := by
  cases kind <;> decide

theorem spells_word (kind : Kind) : Spells kind.word kind.word :=
  Text.spells_self (by cases kind <;> decide)

theorem Writable.sound
    (writable : mandate.Writable) :
    mandate.isActive = true ∧ mandate.Sound :=
  (defect?_eq_none_iff _).mp ((validate_eq_ok_iff _).mp writable.valid)

theorem Writable.status_eq
    (writable : mandate.Writable) :
    mandate.status = .active :=
  (Status.isActive_iff _).mp writable.sound.1

theorem Writable.phrases_fullText
    (writable : mandate.Writable)
    {direction : Direction}
    (directed : mandate.direction = some direction)
    (id : Identifier)
    (stamp : Instant) :
    Phrases id mandate.symbol stamp (mandate.fullText direction)
      { mandate with id, stamp } := by
  have free : ∀ field ∈
      [mandate.kind.word, Text.decimalText mandate.authority, mandate.source,
        direction.word, mandate.quantity.text], ':' ∉ field.toList := by
    simp only [List.forall_mem_cons]
    refine ⟨colon_not_mem_word _, Text.colon_not_mem_decimalText _,
      writable.source, ?_, Decimal.colon_not_mem_text _, nofun⟩
    cases direction <;> decide
  have named : ∃ name ∈ direction.names, Spells name direction.word := by
    cases direction with
    | long => exact ⟨"LONG", by decide, Text.spells_self (by decide)⟩
    | short => exact ⟨"SHORT", by decide, Text.spells_self (by decide)⟩
  have sized : Decimal.read? mandate.quantity.text = some mandate.quantity := by
    rw [Decimal.read?_text, Decimal.withoutZeroSign_of_unsigned]
    rw [writable.sound.2.quantity_sign]
    exact nofun
  have phrased :=
    @Phrases.full id mandate.symbol stamp _ _ _ _ _ _ mandate.kind
      mandate.authority direction mandate.quantity ⟨rfl, free⟩
      (spells_word _) (Text.isUnsigned_decimalText writable.ranked) named sized
  have status := writable.status_eq
  rcases mandate with ⟨_, _, _, _, _, _, _, _, _⟩
  cases directed
  cases status
  exact phrased

theorem Writable.phrases_briefText
    (writable : mandate.Writable)
    (undirected : mandate.direction = none)
    (id : Identifier)
    (stamp : Instant) :
    Phrases id mandate.symbol stamp mandate.briefText
      { mandate with id, stamp, quantity := Decimal.zero } := by
  have free : ∀ field ∈
      [mandate.kind.word, Text.decimalText mandate.authority, mandate.source],
      ':' ∉ field.toList := by
    simp only [List.forall_mem_cons]
    exact ⟨colon_not_mem_word _, Text.colon_not_mem_decimalText _,
      writable.source, nofun⟩
  have phrased :=
    @Phrases.brief id mandate.symbol stamp _ _ _ _ mandate.kind
      mandate.authority ⟨rfl, free⟩ (spells_word _)
      (Text.isUnsigned_decimalText writable.ranked)
  have status := writable.status_eq
  rcases mandate with ⟨_, _, _, _, _, _, _, _, _⟩
  cases undirected
  cases status
  exact phrased

end Writing

/--
A text is read as a mandate exactly if it phrases one that is valid.  A mandate
that can be written is read back from its text, and one that asks for neither a
direction nor a quantity also from its brief text.
-/
theorem phrases_are_read
    (id : Identifier)
    (stamp : Instant) :
    (∀ symbol text mandate,
      Mandate.read id symbol stamp text = .ok mandate ↔
        Phrases id symbol stamp text mandate ∧ mandate.validate = .ok ()) ∧
    (∀ mandate direction, Writable mandate →
      mandate.direction = some direction →
        Mandate.read id mandate.symbol stamp (mandate.fullText direction) =
          .ok { mandate with id, stamp }) ∧
    (∀ mandate, Writable mandate →
      mandate.kind = .exit ∨ mandate.kind = .block ∨ mandate.kind = .hold →
      mandate.direction = none →
      mandate.quantity.isZero = true →
        Decimal.SameValue Decimal.zero mandate.quantity ∧
          Mandate.read id mandate.symbol stamp mandate.briefText =
            .ok { mandate with id, stamp, quantity := Decimal.zero }) := by
  refine ⟨fun _ _ _ => read_eq_ok_iff, ?_, ?_⟩
  · intro mandate direction writable directed
    exact read_eq_ok_iff.mpr
      ⟨writable.phrases_fullText directed id stamp,
        (validate_eq_ok_iff _).mpr ((validate_eq_ok_iff mandate).mp
          writable.valid)⟩
  · intro mandate writable modest undirected nothing
    refine ⟨?_, read_eq_ok_iff.mpr
      ⟨writable.phrases_briefText undirected id stamp, ?_⟩⟩
    · exact Decimal.sameValue_symm
        ((Decimal.sameValue_zero_iff _).mpr nothing)
    · rcases writable.sound with ⟨active, sound⟩
      have small : Decimal.zero ≤ largestQuantity := by decide
      refine (validate_eq_ok_iff _).mpr ((defect?_eq_none_iff _).mpr
        ⟨active, sound.symbol, sound.source, rfl, small, ?_⟩)
      rcases modest with kind | kind | kind <;> simp [kindDefect?, kind]

namespace Sample

/-- The name under which the mandates are read. -/
def name : Identifier :=
  ⟨7, by decide⟩

theorem scale_two_le : 2 ≤ 28 := by decide

/-- A wish for two and a half, of the highest authority. -/
def selling : Mandate where
  id := ⟨8, by decide⟩
  symbol := ⟨"BTC"⟩
  kind := .reduce
  authority := 4294967295
  stamp := Instant.epoch
  source := "m\u00FCller ag"
  direction := some .short
  quantity := ⟨false, 250, 2, by decide, scale_two_le⟩
  status := .active

/-- A wish to leave, with a zero that has fraction digits. -/
def leaving : Mandate :=
  { selling with
    kind := .exit
    direction := none
    quantity := ⟨false, 0, 2, Decimal.mantissaBound_pos, scale_two_le⟩ }

/-- A kind in another case, between blanks, and an authority with a plus. -/
theorem phrases_are_read_oddly :
    Mandate.read name ⟨"BTC"⟩ Instant.epoch " ex\u0131t\u3000:+007: x" =
        .ok (plain name ⟨"BTC"⟩ Instant.epoch .exit 7 " x") ∧
      Mandate.read name ⟨"BTC"⟩ Instant.epoch
          "REDUCE:4294967295:m\u00FCller ag:SHORT:2.50" =
        .ok { selling with id := name } ∧
      Mandate.read name ⟨"BTC"⟩ Instant.epoch
          "EXIT:4294967295:m\u00FCller ag" =
        .ok { leaving with id := name, quantity := Decimal.zero } := by
  rcases phrases_are_read name Instant.epoch with ⟨reads, full, brief⟩
  have fields :
      Fields " ex\u0131t\u3000:+007: x"
        [" ex\u0131t\u3000", "+007", " x"] :=
    ⟨by decide +kernel, by decide +kernel⟩
  have named : Spells Kind.exit.word " ex\u0131t\u3000" :=
    ⟨[' '], ['e', 'x', '\u0131', 't'], ['\u3000'], by decide, by decide,
      by decide, by decide⟩
  have ranked : IsUnsigned Text.bound32 "+007".toList 7 :=
    Text.unsigned?_eq_some_iff.mp (by decide)
  refine ⟨(reads ..).mpr ⟨.brief fields named ranked, ?_⟩, ?_, ?_⟩
  · exact (validate_eq_ok_iff _).mpr (by decide +kernel)
  · exact full selling .short ⟨by decide, by decide, by decide⟩ rfl
  · exact (brief leaving ⟨by decide, by decide, by decide⟩ (.inl rfl) rfl
      rfl).2

end Sample

end Mandate

end MandateDesk
