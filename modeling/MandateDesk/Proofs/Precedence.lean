import Mathlib.Data.List.Nodup
import Mathlib.Data.String.Basic
import MandateDesk.Proofs.Contest

/-!
# Who wins a decision

Arbitration takes the least mandate of a list by a comparison of five keys.
This module says the same without a list: `Precedes` is the order among the
mandates of one kind, `Outranks` that among all of them, and `Decides` is the
rule for a symbol in a state, in terms of who has a say.

The rule reads the mandates as a set.  Where no two of them share an
identifier it allows exactly one action, which is the one that arbitration
finds.  That the order of the list does not matter, and that who neither wins
nor blocks may as well be missing, are facts about the rule.

Arbitration of all symbols groups the mandates by symbol.  A group is all that
the decision on its symbol looks at, so the grouped decision is the one that
all mandates together come to, and symbols do not interfere.
-/

namespace MandateDesk.Arbitration

/-! ## The order of mandates -/

/-- Whether a mandate goes before another one of its kind. -/
def Precedes (first second : Mandate) : Prop :=
  second.authority < first.authority ∨
    second.authority = first.authority ∧
      (first.source < second.source ∨
        first.source = second.source ∧
          (first.stamp < second.stamp ∨
            first.stamp = second.stamp ∧ first.id.value < second.id.value))

/-- Whether a mandate goes before another one of any kind. -/
def Outranks (first second : Mandate) : Prop :=
  second.kind.rank < first.kind.rank ∨
    second.kind.rank = first.kind.rank ∧ Precedes first second

theorem compare_source_eq_lt_iff (first second : String) :
    compare first second = .lt ↔ first < second :=
  compare_lt_iff_lt

theorem compare_id_eq_lt_iff (first second : Identifier) :
    compare first second = .lt ↔ first.value < second.value :=
  Nat.compare_eq_lt

theorem precedence_eq_lt_iff (first second : Mandate) :
    precedence first second = .lt ↔ Precedes first second := by
  unfold precedence Precedes
  rw [Ordering.then_eq_lt, Ordering.then_eq_lt, Ordering.then_eq_lt,
    Nat.compare_eq_lt, Nat.compare_eq_eq, compare_source_eq_lt_iff,
    Std.LawfulEqCmp.compare_eq_iff_eq, ← Instant.lt_iff_compare,
    Std.LawfulEqCmp.compare_eq_iff_eq, compare_id_eq_lt_iff]

theorem seniority_eq_lt_iff (first second : Mandate) :
    seniority first second = .lt ↔ Outranks first second := by
  unfold seniority Outranks
  rw [Ordering.then_eq_lt, Nat.compare_eq_lt, Nat.compare_eq_eq,
    precedence_eq_lt_iff]

theorem id_eq_of_precedence_eq_eq
    {first second : Mandate}
    (same : precedence first second = .eq) :
    first.id = second.id := by
  unfold precedence at same
  rw [Ordering.then_eq_eq, Ordering.then_eq_eq, Ordering.then_eq_eq] at same
  exact Std.LawfulEqCmp.eq_of_compare same.2.2.2

theorem id_eq_of_seniority_eq_eq
    {first second : Mandate}
    (same : seniority first second = .eq) :
    first.id = second.id :=
  id_eq_of_precedence_eq_eq (Ordering.then_eq_eq.mp same).2

/-- Larger keys first. -/
theorem transCmp_descending {α : Type} (key : α → Nat) :
    Std.TransCmp fun first second : α => compare (key second) (key first) where
  eq_swap := Std.OrientedOrd.eq_swap
  isLE_trans := fun lower upper => Std.TransOrd.isLE_trans upper lower

instance : Std.TransCmp precedence :=
  haveI := transCmp_descending Mandate.authority
  inferInstanceAs (Std.TransCmp
    (compareLex
      (fun first second : Mandate =>
        compare second.authority first.authority)
      (compareLex (compareOn Mandate.source)
        (compareLex (compareOn Mandate.stamp) (compareOn Mandate.id)))))

instance : Std.TransCmp seniority :=
  haveI := transCmp_descending fun mandate : Mandate => mandate.kind.rank
  inferInstanceAs (Std.TransCmp
    (compareLex
      (fun first second : Mandate =>
        compare second.kind.rank first.kind.rank)
      precedence))

theorem isLE_of_not_lt
    {α : Type}
    {order : α → α → Ordering}
    [Std.OrientedCmp order]
    {first second : α}
    (notBefore : order second first ≠ .lt) :
    (order first second).isLE = true := by
  have swapped : order first second = (order second first).swap :=
    Std.OrientedCmp.eq_swap
  rw [swapped]
  cases comparison : order second first with
  | lt => exact absurd comparison notBefore
  | eq => rfl
  | gt => rfl

/-- Nothing in a list goes before its least value. -/
theorem isLE_of_least
    {α : Type}
    {order : α → α → Ordering}
    [Std.TransCmp order]
    {values : List α}
    {value other : α}
    (first : least order values = some value)
    (member : other ∈ values) :
    (order value other).isLE = true := by
  induction values generalizing value with
  | nil => simp at member
  | cons head rest hypothesis =>
    unfold least at first
    split at first
    · rename_i nothing
      cases first
      rcases List.mem_cons.mp member with rfl | later
      · exact Std.ReflCmp.isLE_rfl
      · rcases exists_least order later with ⟨_, found⟩
        rw [nothing] at found
        contradiction
    · rename_i earliest found
      split at first
      · rename_i before
        cases first
        rcases List.mem_cons.mp member with rfl | later
        · rw [before]
          rfl
        · exact hypothesis found later
      · rename_i notBefore
        cases first
        rcases List.mem_cons.mp member with rfl | later
        · exact Std.ReflCmp.isLE_rfl
        · refine Std.TransCmp.isLE_trans ?_ (hypothesis found later)
          exact isLE_of_not_lt notBefore

/-! ## The rule -/

/-- Whether a mandate has a say in the decision on a symbol in a state. -/
structure HasSay
    (symbol : Symbol)
    (state : Position.State)
    (mandates : List Mandate)
    (mandate : Mandate) : Prop where
  /-- It is there. -/
  listed : mandate ∈ mandates
  /-- It is about the symbol. -/
  about : mandate.symbol = symbol
  /-- It is active. -/
  active : mandate.status = .active
  /-- The state admits its kind. -/
  admitted : state.admits mandate.kind = true

/-- Whether a mandate that has a say is left over by the blocks. -/
structure IsLeft
    (symbol : Symbol)
    (state : Position.State)
    (mandates : List Mandate)
    (mandate : Mandate) : Prop where
  /-- It has a say. -/
  say : HasSay symbol state mandates mandate
  /-- It is no block itself. -/
  notBlock : mandate.kind ≠ .block
  /-- Where it is an entry, nobody who has a say blocks it. -/
  unblocked : mandate.kind = .entry →
    ∀ other, HasSay symbol state mandates other → other.kind ≠ .block

/-- Whether a mandate that counts goes before all others that do. -/
structure IsFirst
    (before : Mandate → Mandate → Prop)
    (counts : Mandate → Prop)
    (mandate : Mandate) : Prop where
  /-- It counts. -/
  counted : counts mandate
  /-- It goes before all others. -/
  leads : ∀ other, counts other → other ≠ mandate → before mandate other

/-- Whether an exit has a say. -/
def Leaves
    (symbol : Symbol)
    (state : Position.State)
    (mandates : List Mandate)
    (mandate : Mandate) : Prop :=
  HasSay symbol state mandates mandate ∧ mandate.kind = .exit

/-- The action for a symbol in a state. -/
inductive Decides
    (symbol : Symbol)
    (state : Position.State)
    (mandates : List Mandate) : Action → Prop where
  /-- The first exit wins. -/
  | leaving {mandate : Mandate}
      (first : IsFirst Precedes (Leaves symbol state mandates) mandate) :
      Decides symbol state mandates (Action.ofMandate mandate)
  /-- Without an exit the first of those that the blocks leave over wins. -/
  | staying {mandate : Mandate}
      (nobodyLeaves : ∀ other, ¬ Leaves symbol state mandates other)
      (first : IsFirst Outranks (IsLeft symbol state mandates) mandate) :
      Decides symbol state mandates (Action.ofMandate mandate)
  /-- Where nobody is left over, nothing is done. -/
  | resting
      (nobodyLeaves : ∀ other, ¬ Leaves symbol state mandates other)
      (nobodyLeft : ∀ other, ¬ IsLeft symbol state mandates other) :
      Decides symbol state mandates (Action.noAction symbol)

section Rule

variable
  {symbol : Symbol}
  {state : Position.State}
  {mandates : List Mandate}

theorem mem_admissible_iff {mandate : Mandate} :
    mandate ∈ admissible symbol state mandates ↔
      HasSay symbol state mandates mandate := by
  unfold admissible
  rw [List.mem_filter, Bool.and_eq_true, Bool.and_eq_true, beq_iff_eq]
  constructor
  · rintro ⟨listed, ⟨about, active⟩, admitted⟩
    exact ⟨listed, about, (Mandate.Status.isActive_iff _).mp active, admitted⟩
  · rintro ⟨listed, about, active, admitted⟩
    exact ⟨listed, ⟨about, (Mandate.Status.isActive_iff _).mpr active⟩,
      admitted⟩

theorem mem_exits_iff {mandate : Mandate} :
    mandate ∈ (admissible symbol state mandates).filter isExit ↔
      Leaves symbol state mandates mandate := by
  rw [List.mem_filter, mem_admissible_iff]
  simp [Leaves, isExit]

theorem mem_unblocked_iff {mandate : Mandate} :
    mandate ∈ unblocked (admissible symbol state mandates) ↔
      IsLeft symbol state mandates mandate := by
  have blocked :
      (admissible symbol state mandates).any isBlock = false ↔
        ∀ other, HasSay symbol state mandates other →
          other.kind ≠ .block := by
    rw [List.any_eq_false]
    simp only [mem_admissible_iff, isBlock, beq_iff_eq, ne_eq]
  unfold unblocked
  simp only [List.mem_filter, mem_admissible_iff, Bool.and_eq_true,
    Bool.not_eq_true', Bool.and_eq_false_iff, blocked]
  constructor
  · rintro ⟨say, notBlock, clear⟩
    refine ⟨say, by simpa [isBlock] using notBlock, fun entry => ?_⟩
    rcases clear with unblocked | noEntry
    · exact unblocked
    · simp [isEntry, entry] at noEntry
  · rintro ⟨say, notBlock, clear⟩
    refine ⟨say, by simpa [isBlock] using notBlock, ?_⟩
    by_cases entry : mandate.kind = .entry
    · exact Or.inl (clear entry)
    · exact Or.inr (by simpa [isEntry] using entry)

theorem HasSay.eq_of_id
    (distinct : (mandates.map Mandate.id).Nodup)
    {first second : Mandate}
    (one : HasSay symbol state mandates first)
    (other : HasSay symbol state mandates second)
    (same : first.id = second.id) :
    first = second :=
  List.inj_on_of_nodup_map distinct one.listed other.listed same

/--
The least of a list goes before all others in it, where the order only takes
mandates with one identifier for equal and no two in the list share one.
-/
theorem isFirst_of_least
    {order : Mandate → Mandate → Ordering}
    [Std.TransCmp order]
    {before : Mandate → Mandate → Prop}
    (means : ∀ first second, order first second = .lt ↔ before first second)
    (tells : ∀ {first second}, order first second = .eq →
      first.id = second.id)
    {counts : Mandate → Prop}
    {values : List Mandate}
    (lists : ∀ {mandate}, mandate ∈ values ↔ counts mandate)
    (apart : ∀ {first second}, counts first → counts second →
      first.id = second.id → first = second)
    {mandate : Mandate}
    (first : least order values = some mandate) :
    IsFirst before counts mandate := by
  have own := lists.mp (mem_of_least first)
  refine ⟨own, fun other another distinct => (means _ _).mp ?_⟩
  have bound := isLE_of_least first (lists.mpr another)
  cases comparison : order mandate other with
  | lt => rfl
  | eq => exact absurd (apart own another (tells comparison)).symm distinct
  | gt =>
    rw [comparison] at bound
    contradiction

/-- What arbitration finds is what the rule allows. -/
theorem decides_resolve (distinct : (mandates.map Mandate.id).Nodup) :
    Decides symbol state mandates (resolve symbol state mandates) := by
  unfold resolve winner
  simp only
  cases exits :
      least precedence ((admissible symbol state mandates).filter isExit) with
  | some mandate =>
    exact .leaving (isFirst_of_least precedence_eq_lt_iff
      id_eq_of_precedence_eq_eq mem_exits_iff
      (fun one other => one.1.eq_of_id distinct other.1) exits)
  | none =>
    have nobodyLeaves : ∀ other, ¬ Leaves symbol state mandates other := by
      intro other leaves
      rcases exists_least precedence (mem_exits_iff.mpr leaves) with
        ⟨_, found⟩
      rw [exits] at found
      contradiction
    cases rest :
        least seniority (unblocked (admissible symbol state mandates)) with
    | some mandate =>
      exact .staying nobodyLeaves (isFirst_of_least seniority_eq_lt_iff
        id_eq_of_seniority_eq_eq mem_unblocked_iff
        (fun one other => one.say.eq_of_id distinct other.say) rest)
    | none =>
      refine .resting nobodyLeaves fun other left => ?_
      rcases exists_least seniority (mem_unblocked_iff.mpr left) with
        ⟨_, found⟩
      rw [rest] at found
      contradiction

/-- No two mandates go before all others. -/
theorem IsFirst.unique
    {order : Mandate → Mandate → Ordering}
    [Std.TransCmp order]
    {before : Mandate → Mandate → Prop}
    (means : ∀ first second, order first second = .lt ↔ before first second)
    {counts : Mandate → Prop}
    {first second : Mandate}
    (one : IsFirst before counts first)
    (other : IsFirst before counts second) :
    first = second := by
  by_contra distinct
  have ahead := (means _ _).mpr
    (one.leads second other.counted (Ne.symm distinct))
  have behind := (means _ _).mpr (other.leads first one.counted distinct)
  rw [Std.OrientedCmp.gt_of_lt ahead] at behind
  contradiction

/-- The rule allows one action only. -/
theorem Decides.unique
    {one other : Action}
    (first : Decides symbol state mandates one)
    (second : Decides symbol state mandates other) :
    one = other := by
  cases first with
  | leaving ahead =>
    cases second with
    | leaving behind => rw [ahead.unique precedence_eq_lt_iff behind]
    | staying nobody _ => exact absurd ahead.counted (nobody _)
    | resting nobody _ => exact absurd ahead.counted (nobody _)
  | staying nobody ahead =>
    cases second with
    | leaving behind => exact absurd behind.counted (nobody _)
    | staying _ behind => rw [ahead.unique seniority_eq_lt_iff behind]
    | resting _ nobodyLeft => exact absurd ahead.counted (nobodyLeft _)
  | resting nobody nobodyLeft =>
    cases second with
    | leaving behind => exact absurd behind.counted (nobody _)
    | staying _ behind => exact absurd behind.counted (nobodyLeft _)
    | resting => rfl

theorem decides_iff
    (distinct : (mandates.map Mandate.id).Nodup)
    {action : Action} :
    Decides symbol state mandates action ↔
      action = resolve symbol state mandates := by
  constructor
  · exact fun decided => decided.unique (decides_resolve distinct)
  · rintro rfl
    exact decides_resolve distinct

end Rule

/-! ## What does not matter -/

section Change

variable
  {symbol : Symbol}
  {state : Position.State}
  {mandates others : List Mandate}

/-- Only who is listed matters, and not where. -/
theorem hasSay_congr
    (same : ∀ mandate, mandate ∈ others ↔ mandate ∈ mandates) :
    HasSay symbol state others = HasSay symbol state mandates := by
  funext mandate
  refine propext ⟨fun say => ?_, fun say => ?_⟩
  · exact { say with listed := (same mandate).mp say.listed }
  · exact { say with listed := (same mandate).mpr say.listed }

theorem isLeft_congr
    (same : HasSay symbol state others = HasSay symbol state mandates) :
    IsLeft symbol state others = IsLeft symbol state mandates := by
  funext mandate
  refine propext ⟨fun left => ?_, fun left => ?_⟩
  · exact ⟨same ▸ left.say, left.notBlock, same ▸ left.unblocked⟩
  · exact ⟨same ▸ left.say, left.notBlock, same ▸ left.unblocked⟩

theorem leaves_congr
    (same : HasSay symbol state others = HasSay symbol state mandates) :
    Leaves symbol state others = Leaves symbol state mandates := by
  unfold Leaves
  rw [same]

theorem Decides.congr
    (same : HasSay symbol state others = HasSay symbol state mandates)
    {action : Action}
    (decided : Decides symbol state mandates action) :
    Decides symbol state others action := by
  cases decided with
  | leaving first => exact .leaving (leaves_congr same ▸ first)
  | staying nobody first =>
    exact .staying (leaves_congr same ▸ nobody) (isLeft_congr same ▸ first)
  | resting nobody nobodyLeft =>
    exact .resting (leaves_congr same ▸ nobody) (isLeft_congr same ▸ nobodyLeft)

/-- In any order the mandates come to the same action. -/
theorem resolve_perm
    (distinct : (mandates.map Mandate.id).Nodup)
    (rearranged : others.Perm mandates) :
    resolve symbol state others = resolve symbol state mandates := by
  have alsoDistinct : (others.map Mandate.id).Nodup :=
    (rearranged.map Mandate.id).nodup_iff.mpr distinct
  refine ((decides_iff alsoDistinct).mp ?_).symm
  exact (decides_resolve distinct).congr
    (hasSay_congr fun mandate => rearranged.mem_iff)

end Change

/-- Only a wish to block is not carried by the action that is made of it. -/
theorem mandate_ofMandate
    {mandate : Mandate}
    (notBlock : mandate.kind ≠ .block) :
    (Action.ofMandate mandate).mandate = some mandate.id := by
  unfold Action.ofMandate
  cases kind : mandate.kind with
  | block => exact absurd kind notBlock
  | _ => rfl

section Dropping

variable
  {symbol : Symbol}
  {state : Position.State}
  {front back : List Mandate}
  {dropped : Mandate}

theorem HasSay.of_dropped
    {mandate : Mandate}
    (say : HasSay symbol state (front ++ back) mandate) :
    HasSay symbol state (front ++ dropped :: back) mandate := by
  refine { say with listed := ?_ }
  have listed := say.listed
  simp only [List.mem_append, List.mem_cons] at listed ⊢
  exact listed.imp_right Or.inr

theorem HasSay.dropping
    {mandate : Mandate}
    (say : HasSay symbol state (front ++ dropped :: back) mandate)
    (other : mandate ≠ dropped) :
    HasSay symbol state (front ++ back) mandate := by
  refine { say with listed := ?_ }
  have listed := say.listed
  simp only [List.mem_append, List.mem_cons, other, false_or] at listed
  exact List.mem_append.mpr listed

/-- As long as no block is dropped, the blocks leave over the same. -/
theorem IsLeft.of_dropped
    {mandate : Mandate}
    (harmless : dropped.kind ≠ .block)
    (left : IsLeft symbol state (front ++ back) mandate) :
    IsLeft symbol state (front ++ dropped :: back) mandate := by
  refine ⟨left.say.of_dropped, left.notBlock, fun entry other say => ?_⟩
  by_cases same : other = dropped
  · rw [same]
    exact harmless
  · exact left.unblocked entry other (say.dropping same)

theorem IsLeft.dropping
    {mandate : Mandate}
    (left : IsLeft symbol state (front ++ dropped :: back) mandate)
    (other : mandate ≠ dropped) :
    IsLeft symbol state (front ++ back) mandate :=
  ⟨left.say.dropping other, left.notBlock,
    fun entry another say => left.unblocked entry another say.of_dropped⟩

/-- Who counts and does not go first may as well be missing. -/
theorem IsFirst.dropping
    {before : Mandate → Mandate → Prop}
    {counts fewer : Mandate → Prop}
    {mandate : Mandate}
    (first : IsFirst before counts mandate)
    (stays : fewer mandate)
    (less : ∀ {other}, fewer other → counts other) :
    IsFirst before fewer mandate :=
  ⟨stays, fun other another => first.leads other (less another)⟩

/-- The carried identifier tells a dropped mandate from the one that wins. -/
theorem ne_of_mandate_ne
    {mandate : Mandate}
    (notBlock : mandate.kind ≠ .block)
    (other : (Action.ofMandate mandate).mandate ≠ some dropped.id) :
    mandate ≠ dropped := by
  rintro rfl
  exact other (mandate_ofMandate notBlock)

theorem Decides.dropping
    (harmless : dropped.kind ≠ .block)
    {action : Action}
    (loses : action.mandate ≠ some dropped.id)
    (decided : Decides symbol state (front ++ dropped :: back) action) :
    Decides symbol state (front ++ back) action := by
  have fewerLeave {other : Mandate}
      (leaves : Leaves symbol state (front ++ back) other) :
      Leaves symbol state (front ++ dropped :: back) other :=
    ⟨leaves.1.of_dropped, leaves.2⟩
  cases decided with
  | leaving first =>
    rcases first.counted with ⟨say, leaves⟩
    have other := ne_of_mandate_ne (by rw [leaves]; decide) loses
    exact .leaving (first.dropping ⟨say.dropping other, leaves⟩ fewerLeave)
  | staying nobody first =>
    have other := ne_of_mandate_ne first.counted.notBlock loses
    exact .staying (fun _ leaves => nobody _ (fewerLeave leaves))
      (first.dropping (first.counted.dropping other)
        (IsLeft.of_dropped harmless))
  | resting nobody nobodyLeft =>
    exact .resting (fun _ leaves => nobody _ (fewerLeave leaves))
      fun _ left => nobodyLeft _ (left.of_dropped harmless)

end Dropping

/-- An action that carries a mandate carries one that wins and is no block. -/
theorem Decides.exists_of_mandate
    {symbol : Symbol}
    {state : Position.State}
    {mandates : List Mandate}
    {action : Action}
    {id : Identifier}
    (decided : Decides symbol state mandates action)
    (carries : action.mandate = some id) :
    ∃ mandate ∈ mandates, mandate.id = id ∧ mandate.kind ≠ .block ∧
      action = Action.ofMandate mandate := by
  have own {mandate : Mandate}
      (notBlock : mandate.kind ≠ .block)
      (carries : (Action.ofMandate mandate).mandate = some id) :
      mandate.id = id :=
    Option.some.inj ((mandate_ofMandate notBlock).symm.trans carries)
  cases decided with
  | @leaving mandate first =>
    have notBlock : mandate.kind ≠ .block := by
      rw [first.counted.2]
      decide
    exact ⟨_, first.counted.1.listed, own notBlock carries, notBlock, rfl⟩
  | staying _ first =>
    exact ⟨_, first.counted.say.listed, own first.counted.notBlock carries,
      first.counted.notBlock, rfl⟩
  | resting => contradiction

/--
Of mandates with distinct identifiers the rule picks one action, which is the
one that arbitration finds: that of the first exit, or else of the first one
that the blocks leave over.  It stays the same in any order of the mandates,
never carries a block, and does not depend on who neither wins nor blocks.
-/
theorem resolve_picks_the_first
    (symbol : Symbol)
    (state : Position.State)
    (mandates : List Mandate)
    (distinct : (mandates.map Mandate.id).Nodup) :
    (∀ action, Decides symbol state mandates action ↔
      action = resolve symbol state mandates) ∧
    (∀ others : List Mandate, others.Perm mandates →
      resolve symbol state others = resolve symbol state mandates) ∧
    (∀ id, (resolve symbol state mandates).mandate = some id →
      ∃ mandate ∈ mandates, mandate.id = id ∧ mandate.kind ≠ .block ∧
        resolve symbol state mandates = Action.ofMandate mandate) ∧
    ∀ front dropped back, mandates = front ++ dropped :: back →
      dropped.kind ≠ .block →
      (resolve symbol state mandates).mandate ≠ some dropped.id →
      resolve symbol state (front ++ back) =
        resolve symbol state mandates := by
  refine ⟨fun action => decides_iff distinct,
    fun others => resolve_perm distinct,
    fun id => (decides_resolve distinct).exists_of_mandate, ?_⟩
  rintro front dropped back rfl harmless loses
  have fewer : ((front ++ back).map Mandate.id).Nodup := by
    refine distinct.sublist (List.Sublist.map _ ?_)
    exact (List.sublist_cons_self dropped back).append_left front
  refine ((decides_iff fewer).mp ?_).symm
  exact (decides_resolve distinct).dropping harmless loses

namespace Sample

/-- A wish for one symbol. -/
def wish
    (number : Nat)
    (kind : Mandate.Kind)
    (authority : Nat)
    (source : String) :
    Mandate where
  id := ⟨number % Identifier.bound, Nat.mod_lt number (by decide)⟩
  symbol := ⟨"BTC"⟩
  kind
  authority
  stamp := .epoch
  source
  direction := some .long
  quantity := .one
  status := .active

/-- The wish that wins. -/
def patient : Mandate :=
  wish 4 .hold 3 "maker"

/-- A strong entry is blocked, and two wishes to hold tie on authority. -/
def contested : List Mandate :=
  [wish 1 .entry 9 "trend", wish 2 .hold 3 "saver", wish 3 .block 0 "guard",
    patient]

/-- Of wishes to hold with one authority the lower source wins. -/
theorem resolve_picks_the_first_contested :
    (contested.map Mandate.id).Nodup ∧
      Decides ⟨"BTC"⟩ .flat contested (Action.ofMandate patient) ∧
      resolve ⟨"BTC"⟩ .flat contested.reverse = Action.ofMandate patient ∧
      resolve ⟨"BTC"⟩ .flat (contested.drop 1) =
        Action.ofMandate patient := by
  have distinct : (contested.map Mandate.id).Nodup := by decide
  have winner : resolve ⟨"BTC"⟩ .flat contested = Action.ofMandate patient :=
    by decide
  rcases resolve_picks_the_first ⟨"BTC"⟩ .flat contested distinct with
    ⟨rule, rearranged, _, dropping⟩
  refine ⟨distinct, (rule _).mpr winner.symm, ?_, ?_⟩
  · exact (rearranged _ contested.reverse_perm).trans winner
  · refine (dropping [] (wish 1 .entry 9 "trend") _ rfl ?_ ?_).trans winner
    · decide
    · rw [winner]
      decide

end Sample

/-! ## Symbols do not interfere -/

/-- Mandates about other symbols have no say. -/
theorem admissible_about
    (symbol : Symbol)
    (state : Position.State)
    (mandates : List Mandate) :
    admissible symbol state (about symbol mandates) =
      admissible symbol state mandates := by
  unfold admissible about
  rw [List.filter_filter]
  refine List.filter_congr fun mandate _ => ?_
  cases mandate.symbol == symbol <;> simp

/-- A group comes to the action that all mandates together come to. -/
theorem resolve_about
    (symbol : Symbol)
    (state : Position.State)
    (mandates : List Mandate) :
    resolve symbol state (about symbol mandates) =
      resolve symbol state mandates := by
  unfold resolve winner
  rw [admissible_about]

theorem find?_resolveAll_of_mem
    (positions : Positions)
    {mandates : List Mandate}
    {symbol : Symbol}
    (member : symbol ∈ mandates.map Mandate.symbol) :
    (resolveAll positions mandates).find? symbol =
      some (resolve symbol (stateOf positions symbol) mandates) := by
  rw [find?_resolveAll, if_pos member, resolve_about]

/-- A symbol is decided on when a mandate is about it. -/
theorem mem_keys_resolveAll
    (positions : Positions)
    (mandates : List Mandate)
    (symbol : Symbol) :
    symbol ∈ (resolveAll positions mandates).keys ↔
      symbol ∈ mandates.map Mandate.symbol := by
  rw [OrderedMap.mem_keys_iff, find?_resolveAll]
  split
  · rename_i member
    exact iff_of_true rfl member
  · rename_i absent
    exact iff_of_false (by simp) absent

theorem mem_symbols_iff_about_ne_nil
    (mandates : List Mandate)
    (symbol : Symbol) :
    symbol ∈ mandates.map Mandate.symbol ↔ about symbol mandates ≠ [] := by
  unfold about
  rw [List.mem_map, Ne, List.filter_eq_nil_iff]
  simp

/-- The action for a symbol only depends on its group and its position. -/
theorem find?_resolveAll_congr
    {positions others : Positions}
    {mandates changed : List Mandate}
    {symbol : Symbol}
    (held : others.find? symbol = positions.find? symbol)
    (wished : about symbol changed = about symbol mandates) :
    (resolveAll others changed).find? symbol =
      (resolveAll positions mandates).find? symbol := by
  have state : stateOf others symbol = stateOf positions symbol := by
    unfold stateOf
    rw [held]
  simp only [find?_resolveAll, mem_symbols_iff_about_ne_nil, wished, state]

theorem resolveAll_perm
    (positions : Positions)
    {mandates others : List Mandate}
    (distinct : (mandates.map Mandate.id).Nodup)
    (rearranged : others.Perm mandates) :
    resolveAll positions others = resolveAll positions mandates := by
  refine OrderedMap.eq_of_find?_eq fun symbol => ?_
  have symbols : symbol ∈ others.map Mandate.symbol ↔
      symbol ∈ mandates.map Mandate.symbol :=
    (rearranged.map Mandate.symbol).mem_iff
  by_cases member : symbol ∈ mandates.map Mandate.symbol
  · rw [find?_resolveAll_of_mem positions member,
      find?_resolveAll_of_mem positions (symbols.mpr member),
      resolve_perm distinct rearranged]
  · rw [find?_resolveAll, find?_resolveAll, if_neg member,
      if_neg (mt symbols.mp member)]

/--
There is an action for exactly the symbols that mandates are about, namely the
one that all mandates come to in the state of the position.  Mandates and
positions of other symbols do not change it, and where no two mandates share
an identifier their order does not matter either.
-/
theorem symbols_are_decided_apart
    (positions : Positions)
    (mandates : List Mandate) :
    (∀ symbol, symbol ∈ (resolveAll positions mandates).keys ↔
      symbol ∈ mandates.map Mandate.symbol) ∧
    (∀ symbol ∈ mandates.map Mandate.symbol,
      (resolveAll positions mandates).find? symbol =
        some (resolve symbol
          (((positions.find? symbol).map Position.state).getD .flat)
          mandates)) ∧
    (∀ symbol (others : Positions) (changed : List Mandate),
      others.find? symbol = positions.find? symbol →
      (changed.filter fun mandate => mandate.symbol == symbol) =
        (mandates.filter fun mandate => mandate.symbol == symbol) →
      (resolveAll others changed).find? symbol =
        (resolveAll positions mandates).find? symbol) ∧
    ((mandates.map Mandate.id).Nodup →
      ∀ others : List Mandate, others.Perm mandates →
        resolveAll positions others = resolveAll positions mandates) := by
  refine ⟨mem_keys_resolveAll positions mandates, ?_, ?_, ?_⟩
  · intro symbol member
    rw [find?_resolveAll_of_mem positions member]
    unfold stateOf
    cases positions.find? symbol <;> rfl
  · intro symbol others changed held wished
    exact find?_resolveAll_congr held wished
  · intro distinct others rearranged
    exact resolveAll_perm positions distinct rearranged

namespace Sample

/-- Wishes for two symbols in turn, one of them inactive. -/
def interleaved : List Mandate :=
  [wish 1 .entry 9 "trend", { wish 5 .hold 1 "maker" with symbol := ⟨"ETH"⟩ },
    patient, { wish 6 .exit 1 "maker" with
      symbol := ⟨"SOL"⟩, status := .consumed }]

/-- The entry is decided as if nothing else had been wished for. -/
theorem symbols_are_decided_apart_interleaved :
    (resolveAll OrderedMap.empty interleaved).find? ⟨"BTC"⟩ =
        some (Action.ofMandate (wish 1 .entry 9 "trend")) ∧
      (resolveAll OrderedMap.empty [wish 1 .entry 9 "trend", patient]).find?
          ⟨"BTC"⟩ =
        some (Action.ofMandate (wish 1 .entry 9 "trend")) ∧
      (resolveAll OrderedMap.empty interleaved).find? ⟨"SOL"⟩ =
        some (Action.noAction ⟨"SOL"⟩) ∧
      resolveAll OrderedMap.empty interleaved.reverse =
        resolveAll OrderedMap.empty interleaved := by
  rcases symbols_are_decided_apart OrderedMap.empty interleaved with
    ⟨_, decided, apart, rearranged⟩
  have entered := decided ⟨"BTC"⟩ (by decide)
  have inactive := decided ⟨"SOL"⟩ (by decide)
  refine ⟨entered.trans (by decide), ?_, inactive.trans (by decide), ?_⟩
  · refine (apart ⟨"BTC"⟩ _ _ rfl (by decide)).trans ?_
    exact entered.trans (by decide)
  · exact rearranged (by decide) _ interleaved.reverse_perm

end Sample

end MandateDesk.Arbitration
