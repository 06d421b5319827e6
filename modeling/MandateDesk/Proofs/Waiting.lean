import MandateDesk.Proofs.Precedence

/-!
# What waiting changes

A mandate that waits gains authority and nothing else.  So who has a say among
aged mandates is who has one among the mandates themselves, and so is who is
left over by the blocks.  Ranks of kinds are compared before authorities:
whoever wins after aging is of the kind that would have won without it.

The bump is computed in numbers of 64 bits and capped.  As the cap itself has
32 bits, the product that the computation cuts off is above the cap anyway, and
what comes out is the exact number.

Of two mandates of one kind the one that is senior by authority and not the
younger one gains at least as much as the other, so that it stays in front of
it.  There is one exception.  What aging would add beyond the largest number of
32 bits is cut off.  Where this happens to both mandates they are on a level,
and the order of sources, stamps and identifiers decides, which knows nothing
of seniority.
-/

namespace MandateDesk

/-! ## The bump -/

namespace Aging

/-- The authority that an age adds, in numbers without bound. -/
def gain (aging : Aging) (age : Nat) : Nat :=
  if aging.interval = 0 then 0
  else min (age / aging.interval * aging.bump) aging.ceiling

/-- No product that the computation cuts off is below a ceiling of 32 bits. -/
theorem bumpFor_eq_gain
    {aging : Aging}
    (narrow : aging.ceiling < Text.bound32)
    (age : Nat) :
    aging.bumpFor age = aging.gain age := by
  have within : aging.ceiling ≤ largest64 :=
    narrow.le.trans (by decide)
  unfold bumpFor gain
  split
  · rfl
  · rw [min_assoc, min_eq_right within]

theorem monotone_gain (aging : Aging) : Monotone aging.gain := by
  intro younger older le
  unfold gain
  split
  · exact Nat.le_refl 0
  · have intervals := Nat.div_le_div_right (c := aging.interval) le
    exact min_le_min_right _ (Nat.mul_le_mul_right _ intervals)

theorem apply_eq_map_gain
    {aging : Aging}
    (narrow : aging.ceiling < Text.bound32)
    (now : Instant)
    (mandates : List Mandate) :
    aging.apply now mandates =
      mandates.map fun mandate =>
        { mandate with
          authority :=
            min (mandate.authority + aging.gain (mandate.age now))
              largest32 } := by
  refine List.map_congr_left fun mandate _ => ?_
  unfold aged
  rw [bumpFor_eq_gain narrow]

/-! ## Senior mandates -/

/-- The bound of 64 bits acts as one more ceiling. -/
theorem monotone_bumpFor (aging : Aging) : Monotone aging.bumpFor := by
  have bounded : aging.bumpFor =
      gain { aging with ceiling := min largest64 aging.ceiling } := by
    funext age
    unfold bumpFor gain
    simp only [min_assoc]
  rw [bounded]
  exact monotone_gain _

section Seniority

variable {aging : Aging} {now : Instant} {senior junior : Mandate}

theorem authority_aged_le
    (older : junior.age now ≤ senior.age now)
    (above : junior.authority < senior.authority) :
    (aging.aged now junior).authority ≤ (aging.aged now senior).authority :=
  min_le_min_right _
    (Nat.add_le_add above.le (aging.monotone_bumpFor older))

/-- Only at the end of the range does a senior mandate lose its lead. -/
theorem largest32_le_of_authority_aged_le
    (older : junior.age now ≤ senior.age now)
    (above : junior.authority < senior.authority)
    (level :
      (aging.aged now senior).authority ≤ (aging.aged now junior).authority) :
    largest32 ≤ junior.authority + aging.bumpFor (junior.age now) := by
  have gains := aging.monotone_bumpFor older
  unfold aged at level
  simp only at level
  omega

end Seniority

end Aging

namespace Arbitration

section Aged

variable
  {symbol : Symbol}
  {state : Position.State}
  {mandates : List Mandate}
  {aging : Aging}
  {now : Instant}

/-! ## Who has a say among aged mandates -/

theorem hasSay_apply_iff {aged : Mandate} :
    HasSay symbol state (aging.apply now mandates) aged ↔
      ∃ mandate, HasSay symbol state mandates mandate ∧
        aging.aged now mandate = aged := by
  constructor
  · intro say
    rcases List.mem_map.mp say.listed with ⟨mandate, listed, rfl⟩
    exact ⟨mandate, ⟨listed, say.about, say.active, say.admitted⟩, rfl⟩
  · rintro ⟨mandate, say, rfl⟩
    exact ⟨List.mem_map_of_mem say.listed, say.about, say.active,
      say.admitted⟩

theorem leaves_apply_iff {aged : Mandate} :
    Leaves symbol state (aging.apply now mandates) aged ↔
      ∃ mandate, Leaves symbol state mandates mandate ∧
        aging.aged now mandate = aged := by
  unfold Leaves
  rw [hasSay_apply_iff]
  constructor
  · rintro ⟨⟨mandate, say, rfl⟩, leaves⟩
    exact ⟨mandate, ⟨say, leaves⟩, rfl⟩
  · rintro ⟨mandate, ⟨say, leaves⟩, rfl⟩
    exact ⟨⟨mandate, say, rfl⟩, leaves⟩

theorem isLeft_apply_iff {aged : Mandate} :
    IsLeft symbol state (aging.apply now mandates) aged ↔
      ∃ mandate, IsLeft symbol state mandates mandate ∧
        aging.aged now mandate = aged := by
  constructor
  · intro left
    rcases hasSay_apply_iff.mp left.say with ⟨mandate, say, rfl⟩
    refine ⟨mandate, ⟨say, left.notBlock, fun entry other speaks => ?_⟩, rfl⟩
    exact left.unblocked entry (aging.aged now other)
      (hasSay_apply_iff.mpr ⟨other, speaks, rfl⟩)
  · rintro ⟨mandate, left, rfl⟩
    refine ⟨hasSay_apply_iff.mpr ⟨mandate, left.say, rfl⟩, left.notBlock,
      fun entry other speaks => ?_⟩
    rcases hasSay_apply_iff.mp speaks with ⟨known, say, rfl⟩
    exact left.unblocked entry known say

/-! ## What wins -/

/-- Nobody outranks who goes first by kind and precedence. -/
theorem IsFirst.rank_le
    {counts : Mandate → Prop}
    {first other : Mandate}
    (leads : IsFirst Outranks counts first)
    (counted : counts other) :
    other.kind.rank ≤ first.kind.rank := by
  by_cases same : other = first
  · rw [same]
  · rcases leads.leads other counted same with above | ⟨level, _⟩
    · exact above.le
    · exact level.le

/-- The kind of an action is that of the mandate that it carries. -/
theorem kind_ofMandate_congr
    {first second : Mandate}
    (same : first.kind = second.kind) :
    (Action.ofMandate first).kind = (Action.ofMandate second).kind := by
  unfold Action.ofMandate
  rw [same]
  cases Action.kindFor? second.kind <;> rfl

/-- Aged mandates come to an action of the kind that they would come to. -/
theorem Decides.kind_eq_of_aged
    {action other : Action}
    (decided : Decides symbol state mandates action)
    (agedToo : Decides symbol state (aging.apply now mandates) other) :
    other.kind = action.kind := by
  have ages {mandate : Mandate}
      (leaves : Leaves symbol state mandates mandate) :
      Leaves symbol state (aging.apply now mandates)
        (aging.aged now mandate) :=
    leaves_apply_iff.mpr ⟨mandate, leaves, rfl⟩
  have stays {mandate : Mandate} (left : IsLeft symbol state mandates mandate) :
      IsLeft symbol state (aging.apply now mandates)
        (aging.aged now mandate) :=
    isLeft_apply_iff.mpr ⟨mandate, left, rfl⟩
  cases agedToo with
  | leaving ahead =>
    rcases leaves_apply_iff.mp ahead.counted with ⟨leaver, leaves, aged⟩
    cases decided with
    | leaving first =>
      exact kind_ofMandate_congr (ahead.counted.2.trans first.counted.2.symm)
    | staying nobody _ => exact absurd leaves (nobody leaver)
    | resting nobody _ => exact absurd leaves (nobody leaver)
  | staying nobodyAged ahead =>
    rcases isLeft_apply_iff.mp ahead.counted with ⟨winner, left, aged⟩
    cases decided with
    | leaving first => exact absurd (ages first.counted) (nobodyAged _)
    | staying _ first =>
      -- each of the two ranks is the largest of all that are left over
      have above := first.rank_le left
      have below := ahead.rank_le (stays first.counted)
      rw [← aged] at below ⊢
      exact kind_ofMandate_congr
        (Mandate.Kind.rank_injective (le_antisymm above below))
    | resting _ nobodyLeft => exact absurd left (nobodyLeft winner)
  | resting nobodyAged nobodyLeftAged =>
    cases decided with
    | leaving first => exact absurd (ages first.counted) (nobodyAged _)
    | staying _ first => exact absurd (stays first.counted) (nobodyLeftAged _)
    | resting => rfl

theorem map_id_apply
    (aging : Aging)
    (now : Instant)
    (mandates : List Mandate) :
    (aging.apply now mandates).map Mandate.id = mandates.map Mandate.id := by
  unfold Aging.apply
  rw [List.map_map]
  rfl

/-- An action that does something carries a mandate. -/
theorem Decides.isSome_mandate
    {action : Action}
    (decided : Decides symbol state mandates action)
    (acts : action.kind ≠ .noAction) :
    ∃ id, action.mandate = some id := by
  cases decided with
  | @leaving mandate first =>
    have notBlock : mandate.kind ≠ .block := by
      rw [first.counted.2]
      decide
    exact ⟨_, mandate_ofMandate notBlock⟩
  | staying _ first => exact ⟨_, mandate_ofMandate first.counted.notBlock⟩
  | resting => exact absurd rfl acts

theorem carries_ofMandate
    {mandate : Mandate}
    (notBlock : mandate.kind ≠ .block) :
    (Action.ofMandate mandate).direction = mandate.direction ∧
      (Action.ofMandate mandate).quantity = mandate.quantity := by
  unfold Action.ofMandate
  cases kind : mandate.kind with
  | block => exact absurd kind notBlock
  | _ => exact ⟨rfl, rfl⟩

end Aged

/--
Aging does not change what kind of action wins.  An action that does something
is carried by one of the mandates as they were submitted, in its direction and
its quantity.  What a mandate gains is the exact number of full intervals of
its age times the bump, up to the ceiling, and an older one does not gain less.
-/
theorem aging_keeps_the_kind
    {aging : Aging}
    (narrow : aging.ceiling < Text.bound32)
    (now : Instant)
    (symbol : Symbol)
    (state : Position.State)
    {mandates : List Mandate}
    (distinct : (mandates.map Mandate.id).Nodup) :
    (resolve symbol state (aging.apply now mandates)).kind =
      (resolve symbol state mandates).kind ∧
    ((resolve symbol state (aging.apply now mandates)).kind ≠ .noAction →
      ∃ mandate ∈ mandates,
        (∀ other ∈ mandates,
          (resolve symbol state (aging.apply now mandates)).mandate =
            some other.id ↔ other = mandate) ∧
        (resolve symbol state (aging.apply now mandates)).direction =
          mandate.direction ∧
        (resolve symbol state (aging.apply now mandates)).quantity =
          mandate.quantity) ∧
    (∀ age, aging.bumpFor age = aging.gain age) ∧
    (aging.apply now mandates =
      mandates.map fun mandate =>
        { mandate with
          authority :=
            min (mandate.authority + aging.gain (mandate.age now))
              Aging.largest32 }) ∧
    Monotone aging.gain := by
  have distinctAged : ((aging.apply now mandates).map Mandate.id).Nodup := by
    rwa [map_id_apply]
  have agedToo :
      Decides symbol state (aging.apply now mandates)
        (resolve symbol state (aging.apply now mandates)) :=
    decides_resolve distinctAged
  refine ⟨(decides_resolve distinct).kind_eq_of_aged agedToo, ?_,
    Aging.bumpFor_eq_gain narrow, Aging.apply_eq_map_gain narrow now mandates,
    aging.monotone_gain⟩
  intro acts
  rcases agedToo.isSome_mandate acts with ⟨id, carries⟩
  rcases agedToo.exists_of_mandate carries with
    ⟨aged, member, named, notBlock, same⟩
  rcases List.mem_map.mp member with ⟨mandate, listed, rfl⟩
  refine ⟨mandate, listed, fun other known => ?_, ?_⟩
  · rw [carries, Option.some.injEq, ← named]
    constructor
    · intro shared
      exact List.inj_on_of_nodup_map distinct known listed shared.symm
    · rintro rfl
      rfl
  · rw [same]
    exact carries_ofMandate notBlock

namespace Sample

/-- Five seconds after the first wishes. -/
def afterwards : Instant :=
  { Instant.epoch with second := 5 }

/-- An entry of low authority that has waited for five seconds. -/
def waiting : Mandate :=
  wish 1 .entry 1 "slow"

/-- An entry of higher authority that was just submitted. -/
def newcomer : Mandate :=
  { wish 2 .entry 3 "fast" with
    stamp := afterwards, direction := some .short }

/-- The entry that waited overtakes the other one, and is carried as it is. -/
theorem aging_keeps_the_kind_overtaking :
    ([waiting, newcomer].map Mandate.id).Nodup ∧
      (resolve ⟨"BTC"⟩ .flat [waiting, newcomer]).mandate =
        some newcomer.id ∧
      (resolve ⟨"BTC"⟩ .flat
        (Aging.standard.apply afterwards [waiting, newcomer])).kind =
          .entry ∧
      (resolve ⟨"BTC"⟩ .flat
        (Aging.standard.apply afterwards [waiting, newcomer])).direction =
          waiting.direction ∧
      Aging.standard.bumpFor (waiting.age afterwards) =
        Aging.standard.gain 5000 := by
  have distinct : ([waiting, newcomer].map Mandate.id).Nodup := by decide
  have entered : (resolve ⟨"BTC"⟩ .flat [waiting, newcomer]).kind = .entry :=
    by decide
  have overtaken :
      (resolve ⟨"BTC"⟩ .flat
        (Aging.standard.apply afterwards [waiting, newcomer])).mandate =
          some waiting.id := by decide
  rcases
      @aging_keeps_the_kind Aging.standard (by decide) afterwards ⟨"BTC"⟩ .flat
        [waiting, newcomer] distinct with
    ⟨kept, carried, gained, _⟩
  rcases carried (by rw [kept, entered]; decide) with
    ⟨mandate, _, named, direction, _⟩
  have own : waiting = mandate :=
    (named waiting (by decide)).mp overtaken
  refine ⟨distinct, by decide, kept.trans entered, ?_, ?_⟩
  · rw [direction, own]
  · exact gained (waiting.age afterwards)

end Sample

/-! ## Who does not win -/

/-- Whether the tie of two mandates of one authority goes to the first one. -/
def TakesTie (first second : Mandate) : Prop :=
  first.source < second.source ∨
    first.source = second.source ∧
      (first.stamp < second.stamp ∨
        first.stamp = second.stamp ∧ first.id.value ≤ second.id.value)

theorem isLE_compare_id_iff (first second : Identifier) :
    (compare first second).isLE = true ↔ first.value ≤ second.value :=
  Nat.isLE_compare

theorem isLE_precedence_iff (first second : Mandate) :
    (precedence first second).isLE = true ↔
      second.authority < first.authority ∨
        second.authority = first.authority ∧ TakesTie first second := by
  unfold precedence TakesTie
  rw [Ordering.isLE_then_iff_or, Ordering.isLE_then_iff_or,
    Ordering.isLE_then_iff_or, Nat.compare_eq_lt, Nat.compare_eq_eq,
    compare_source_eq_lt_iff, Std.LawfulEqCmp.compare_eq_iff_eq,
    ← Instant.lt_iff_compare, Std.LawfulEqCmp.compare_eq_iff_eq,
    isLE_compare_id_iff]

section Winner

variable
  {symbol : Symbol}
  {state : Position.State}
  {mandates : List Mandate}
  {first other : Mandate}

/-- A mandate of the kind of one that is left over is left over as well. -/
theorem IsLeft.of_sameKind
    (left : IsLeft symbol state mandates first)
    (say : HasSay symbol state mandates other)
    (sameKind : other.kind = first.kind) :
    IsLeft symbol state mandates other where
  say
  notBlock := sameKind ▸ left.notBlock
  unblocked entry := left.unblocked (sameKind ▸ entry)

/-- Nobody of its kind who has a say goes before the winner. -/
theorem isLE_precedence_of_winner
    (wins : winner symbol state mandates = some first)
    (say : HasSay symbol state mandates other)
    (sameKind : other.kind = first.kind) :
    (precedence first other).isLE = true := by
  unfold winner at wins
  simp only at wins
  split at wins
  · rename_i mandate leads
    cases wins
    have exit := mem_exits_iff.mp (mem_of_least leads)
    exact isLE_of_least leads
      (mem_exits_iff.mpr ⟨say, sameKind.trans exit.2⟩)
  · have left := mem_unblocked_iff.mp (mem_of_least wins)
    have senior := isLE_of_least wins
      (mem_unblocked_iff.mpr (left.of_sameKind say sameKind))
    unfold seniority at senior
    rw [Ordering.isLE_then_iff_or, Nat.compare_eq_lt, sameKind] at senior
    rcases senior with above | ⟨_, goesFirst⟩
    · exact absurd above (Nat.lt_irrefl _)
    · exact goesFirst

/-- An action carries the mandate that won. -/
theorem exists_winner_of_mandate
    {id : Identifier}
    (carries : (resolve symbol state mandates).mandate = some id) :
    ∃ mandate, winner symbol state mandates = some mandate ∧
      mandate ∈ mandates ∧ mandate.id = id := by
  unfold resolve at carries
  cases wins : winner symbol state mandates with
  | none =>
    rw [wins] at carries
    contradiction
  | some mandate =>
    rcases mem_of_winner wins with ⟨counted, notBlock⟩
    rw [wins] at carries
    simp only [mandate_ofMandate notBlock, Option.some.injEq] at carries
    exact ⟨mandate, rfl, (mem_admissible_iff.mp counted).listed, carries⟩

end Winner

/-! ## Senior mandates stay ahead -/

/--
How a mandate gets in front of a senior one in spite of aging: its authority
has reached the end of the range, and so the tie decides.
-/
structure WinsAtTheEnd
    (aging : Aging)
    (now : Instant)
    (junior senior : Mandate) : Prop where
  /-- What aging adds goes to the end of the range of authorities. -/
  ended :
    Aging.largest32 ≤ junior.authority + aging.bumpFor (junior.age now)
  /-- The tie goes to the junior mandate. -/
  tie : TakesTie junior senior

/-- An aged mandate does not go first before a senior one. -/
theorem winsAtTheEnd_of_winner
    {aging : Aging}
    {now : Instant}
    {symbol : Symbol}
    {state : Position.State}
    {mandates : List Mandate}
    {senior junior : Mandate}
    (say : HasSay symbol state mandates senior)
    (sameKind : senior.kind = junior.kind)
    (older : junior.age now ≤ senior.age now)
    (above : junior.authority < senior.authority)
    (wins :
      winner symbol state (aging.apply now mandates) =
        some (aging.aged now junior)) :
    WinsAtTheEnd aging now junior senior := by
  have first : (precedence (aging.aged now junior)
      (aging.aged now senior)).isLE = true :=
    isLE_precedence_of_winner wins
      (hasSay_apply_iff.mpr ⟨senior, say, rfl⟩) sameKind
  rcases (isLE_precedence_iff _ _).mp first with higher | ⟨level, tie⟩
  · exact absurd (Aging.authority_aged_le older above) higher.not_ge
  · exact ⟨Aging.largest32_le_of_authority_aged_le older above level.le, tie⟩

/--
Of two mandates of one kind the junior one does not win over the senior one
that is not younger, whatever the policy of aging, as long as the authority of
the junior one has not reached the end of the range.  Where it has, it wins by
its source, its stamp or its identifier only.
-/
theorem senior_stays_ahead
    (aging : Aging)
    (now : Instant)
    {symbol : Symbol}
    {state : Position.State}
    {mandates : List Mandate}
    {senior junior : Mandate}
    (say : HasSay symbol state mandates senior)
    (sameKind : senior.kind = junior.kind)
    (older : junior.age now ≤ senior.age now)
    (above : junior.authority < senior.authority) :
    (winner symbol state (aging.apply now mandates) =
        some (aging.aged now junior) →
      WinsAtTheEnd aging now junior senior) ∧
    ((mandates.map Mandate.id).Nodup →
      junior ∈ mandates →
      (resolve symbol state (aging.apply now mandates)).mandate =
        some junior.id →
      WinsAtTheEnd aging now junior senior) := by
  refine ⟨winsAtTheEnd_of_winner say sameKind older above, ?_⟩
  intro distinct listed carries
  rcases exists_winner_of_mandate carries with ⟨first, wins, aged, named⟩
  rcases List.mem_map.mp aged with ⟨mandate, known, rfl⟩
  have same : mandate = junior :=
    List.inj_on_of_nodup_map distinct known listed named
  rw [same] at wins
  exact winsAtTheEnd_of_winner say sameKind older above wins

namespace Sample

/-- An entry with an authority that has waited for five seconds. -/
def elder (authority : Nat) : Mandate :=
  wish 1 .entry authority "slow"

/-- An entry with an authority that has waited for two seconds. -/
def younger (authority : Nat) : Mandate :=
  { wish 2 .entry authority "fast" with
    stamp := { Instant.epoch with second := 3 } }

/-- One step of authority apart, the elder entry wins after aging as well. -/
theorem senior_stays_ahead_waiting :
    HasSay ⟨"BTC"⟩ .flat [younger 2, elder 3] (elder 3) ∧
      (younger 2).age afterwards ≤ (elder 3).age afterwards ∧
      (younger 2).authority < (elder 3).authority ∧
      winner ⟨"BTC"⟩ .flat
          (Aging.standard.apply afterwards [younger 2, elder 3]) ≠
        some (Aging.standard.aged afterwards (younger 2)) ∧
      (resolve ⟨"BTC"⟩ .flat
          (Aging.standard.apply afterwards [younger 2, elder 3])).mandate ≠
        some (younger 2).id := by
  have say : HasSay ⟨"BTC"⟩ .flat [younger 2, elder 3] (elder 3) :=
    ⟨by decide, rfl, rfl, rfl⟩
  have inside :
      ¬ WinsAtTheEnd Aging.standard afterwards (younger 2) (elder 3) :=
    fun wins => absurd wins.ended (by decide)
  rcases
      @senior_stays_ahead Aging.standard afterwards ⟨"BTC"⟩ .flat
        [younger 2, elder 3] (elder 3) (younger 2) say rfl (by decide)
        (by decide) with
    ⟨first, carried⟩
  exact ⟨say, by decide, by decide, fun wins => inside (first wins),
    fun carries => inside (carried (by decide) (by decide) carries)⟩

/--
At the end of the range aging puts two authorities on a level, and the source
of the younger entry goes first.
-/
theorem senior_is_overtaken_at_the_end :
    HasSay ⟨"BTC"⟩ .flat
        [elder Aging.largest32, younger (Aging.largest32 - 1)]
        (elder Aging.largest32) ∧
      (younger (Aging.largest32 - 1)).kind = (elder Aging.largest32).kind ∧
      (younger (Aging.largest32 - 1)).age afterwards ≤
        (elder Aging.largest32).age afterwards ∧
      (younger (Aging.largest32 - 1)).authority <
        (elder Aging.largest32).authority ∧
      (elder Aging.largest32).authority < Text.bound32 ∧
      (resolve ⟨"BTC"⟩ .flat
          [elder Aging.largest32, younger (Aging.largest32 - 1)]).mandate =
        some (elder Aging.largest32).id ∧
      (resolve ⟨"BTC"⟩ .flat
          (Aging.standard.apply afterwards
            [elder Aging.largest32, younger (Aging.largest32 - 1)])).mandate =
        some (younger (Aging.largest32 - 1)).id :=
  ⟨⟨by decide, rfl, rfl, rfl⟩, rfl, by decide, by decide, by decide,
    by decide, by decide⟩

end Sample

end Arbitration

end MandateDesk
