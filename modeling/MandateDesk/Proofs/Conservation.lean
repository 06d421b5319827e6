import MandateDesk.Proofs.Lifecycle
import MandateDesk.Proofs.Reachability
import MandateDesk.Proofs.Rounding

/-!
# Exposure is conserved

From an admitted entry until it is flat again a position is one exposure.  What
it holds is the fill of the entry without the fills of the reductions, and the
direction and the entry price stay what the entry made them.  A position that
is flat again was either never filled, or all of its entry was given back.

`Carries` relates a position to the fills that were taken since its entry was
admitted.  One event preserves it as long as the position does not become flat,
and so does every list of events.
-/

namespace MandateDesk.Position

/-! ## Runs -/

/-- An event and the time at which it happens. -/
structure Happening where
  /-- What happens. -/
  event : Event
  /-- When it happens. -/
  time : Instant

/-- What the venue has filled, at which price. -/
structure Fill where
  /-- The filled quantity. -/
  quantity : Decimal
  /-- The price. -/
  price : Decimal

/-- The position behind an event, which is the same if the event is refused. -/
def taking (position : Position) (happening : Happening) : Position :=
  match position.apply happening.event happening.time with
  | .ok next => next
  | .error _ => position

/-- The position behind a list of events. -/
def through (position : Position) (happenings : List Happening) : Position :=
  happenings.foldl taking position

/-- The fill that an event reports. -/
def Event.fill? : Event → Option Fill
  | .filled quantity price => some ⟨quantity, price⟩
  | _ => none

/-- The fill that a position takes from an event. -/
def fillTaken? (position : Position) (happening : Happening) : Option Fill :=
  match position.apply happening.event happening.time with
  | .ok _ => happening.event.fill?
  | .error _ => none

/-- The fills that a position takes from a list of events, in their order. -/
def fillsTaken (position : Position) : List Happening → List Fill
  | [] => []
  | happening :: later =>
    (position.fillTaken? happening).toList ++
      (position.taking happening).fillsTaken later

/-- A position that is not flat now, nor behind any part of a list of events. -/
def StaysOut (position : Position) (happenings : List Happening) : Prop :=
  ∀ part, part <+: happenings → (position.through part).isFlat = false

section Runs

variable {position : Position} {happening : Happening}

theorem through_cons
    (position : Position)
    (happening : Happening)
    (later : List Happening) :
    position.through (happening :: later) =
      (position.taking happening).through later :=
  rfl

theorem through_append
    (position : Position)
    (earlier later : List Happening) :
    position.through (earlier ++ later) =
      (position.through earlier).through later :=
  List.foldl_append

theorem StaysOut.isFlat
    {happenings : List Happening}
    (away : position.StaysOut happenings) :
    position.isFlat = false :=
  away [] List.nil_prefix

theorem StaysOut.tail
    {later : List Happening}
    (away : position.StaysOut (happening :: later)) :
    (position.taking happening).StaysOut later := by
  intro part known
  exact away (happening :: part) ((List.prefix_cons_inj happening).mpr known)

theorem StaysOut.of_prefix
    {earlier later : List Happening}
    (away : position.StaysOut later)
    (known : earlier <+: later) :
    position.StaysOut earlier :=
  fun _ part => away _ (part.trans known)

theorem StaysOut.behind
    {earlier later : List Happening}
    (away : position.StaysOut (earlier ++ later)) :
    (position.through earlier).StaysOut later := by
  intro part known
  rw [← through_append]
  exact away _ ((List.prefix_append_right_inj earlier).mpr known)

/-- An event either leaves a position as it is or moves it. -/
theorem taking_cases
    (position : Position)
    (happening : Happening) :
    (position.taking happening = position ∧
      position.fillTaken? happening = none) ∨
    (position.Moves happening.time happening.event
        (position.taking happening) ∧
      position.fillTaken? happening = happening.event.fill?) := by
  unfold taking fillTaken?
  cases applied : position.apply happening.event happening.time with
  | error fault => exact Or.inl ⟨rfl, rfl⟩
  | ok next => exact Or.inr ⟨moves_of_apply applied, rfl⟩

/-- A position stays that of its symbol. -/
theorem symbol_taking
    (position : Position)
    (happening : Happening) :
    (position.taking happening).symbol = position.symbol := by
  rcases position.taking_cases happening with ⟨same, _⟩ | ⟨moves, _⟩
  · rw [same]
  · exact moves.symbol_eq

theorem symbol_through
    (position : Position)
    (happenings : List Happening) :
    (position.through happenings).symbol = position.symbol := by
  induction happenings generalizing position with
  | nil => rfl
  | cons happening later hypothesis =>
    rw [through_cons, hypothesis, symbol_taking]

end Runs

/-! ## What is carried -/

/-- What the fills add up to. -/
def totalFilled (fills : List Fill) : ℚ :=
  (fills.map fun fill => fill.quantity.value).sum

theorem totalFilled_append
    (first second : List Fill) :
    totalFilled (first ++ second) = totalFilled first + totalFilled second := by
  simp [totalFilled]

theorem totalFilled_singleton
    (fill : Fill) :
    totalFilled [fill] = fill.quantity.value := by
  simp [totalFilled]

/--
What is left of an entry behind each of its reductions has so few digits that
no difference is rounded.
-/
def IsUnrounded (entry : Fill) (reductions : List Fill) : Prop :=
  ∀ part,
    part <+: reductions →
      Decimal.Representable (entry.quantity.value - totalFilled part)

theorem IsUnrounded.of_append
    {entry : Fill}
    {reductions more : List Fill}
    (exact : IsUnrounded entry (reductions ++ more)) :
    IsUnrounded entry reductions :=
  fun part known => exact part (known.trans (List.prefix_append _ _))

/-- What is left behind one more reduction is not rounded either. -/
theorem IsUnrounded.value_saturatingSub
    {entry fill : Fill}
    {reductions : List Fill}
    {held : Decimal}
    (exact : IsUnrounded entry (reductions ++ [fill]))
    (counted :
      held.value = entry.quantity.value - totalFilled reductions) :
    (held.saturatingSub fill.quantity).value =
      entry.quantity.value - totalFilled (reductions ++ [fill]) := by
  have left :
      entry.quantity.value - totalFilled (reductions ++ [fill]) =
        held.value - fill.quantity.value := by
    rw [counted, totalFilled_append, totalFilled_singleton, sub_sub]
  have representable := exact _ (List.prefix_refl _)
  rw [left] at representable ⊢
  exact Decimal.value_saturatingSub representable

/--
What a position is, by the direction and the quantity of its entry and the
fills that were taken since.
-/
inductive Carries (direction : Direction) (asked : Decimal) :
    List Fill → Position → Prop where
  /-- Nothing was filled: nothing is held. -/
  | waiting {position : Position}
      (state : position.state = .entering)
      (directed : position.direction = some direction)
      (nothing : position.quantity = Decimal.zero)
      (asks : position.pendingQuantity = asked) :
      Carries direction asked [] position
  /-- The entry was filled: what was not given back is held. -/
  | holding {entry : Fill} {reductions : List Fill} {position : Position}
      (exposed : position.state.hasExposure = true)
      (directed : position.direction = some direction)
      (within : entry.quantity ≤ asked)
      (covered : position.quantity ≤ entry.quantity)
      (priced : position.entryPrice = some entry.price)
      (counted :
        IsUnrounded entry reductions →
          position.quantity.value =
            entry.quantity.value - totalFilled reductions) :
      Carries direction asked (entry :: reductions) position

section Carrying

variable {direction : Direction} {asked : Decimal} {fills : List Fill}
variable {position : Position} {happening : Happening}

/-- An entry that was just admitted carries nothing. -/
theorem carries_entering
    (position : Position)
    (direction : Direction)
    (asked : Decimal)
    (now : Instant) :
    Carries direction asked [] (position.entering direction asked now) :=
  .waiting rfl rfl rfl rfl

/-- What is carried is kept by every event that does not end it. -/
theorem Carries.moved
    {event : Event}
    {now : Instant}
    {next : Position}
    (carries : Carries direction asked fills position)
    (moves : position.Moves now event next)
    (away : next.isFlat = false) :
    Carries direction asked (fills ++ event.fill?.toList) next := by
  cases carries with
  | waiting state directed nothing asks =>
    cases moves with
    | fillEntry _ _ _ within =>
      rw [asks] at within
      refine .holding rfl directed within (Decimal.le_refl _) rfl ?_
      intro _
      exact (sub_zero _).symm
    | failEntry => contradiction
    | fillAllReduced => contradiction
    | fillClose => contradiction
    | enter known => rw [state] at known; contradiction
    | startReduce known => rw [state] at known; contradiction
    | startClose known => rw [state] at known; contradiction
    | fillReduce known => rw [state] at known; contradiction
  | holding exposed directed within covered priced counted =>
    rename_i entry reductions
    cases moves with
    | startReduce =>
      simp only [Event.fill?, Option.toList_none, List.append_nil]
      exact .holding rfl directed within covered priced counted
    | startClose =>
      simp only [Event.fill?, Option.toList_none, List.append_nil]
      exact .holding rfl directed within covered priced counted
    | @fillReduce quantity price _ unsigned held left =>
      have lessened := Decimal.saturatingSub_le unsigned held
      show Carries direction asked
        (entry :: (reductions ++ [⟨quantity, price⟩])) _
      refine .holding rfl directed within
        (Decimal.le_trans lessened covered) priced ?_
      intro exact
      exact exact.value_saturatingSub (counted exact.of_append)
    | failEntry => contradiction
    | fillAllReduced => contradiction
    | fillClose => contradiction
    | enter known => rw [known] at exposed; contradiction
    | fillEntry known => rw [known] at exposed; contradiction

theorem Carries.isFlat
    (carries : Carries direction asked fills position) :
    position.isFlat = false := by
  cases carries with
  | waiting state =>
    rw [Position.isFlat, state]
    rfl
  | holding exposed =>
    rw [Position.isFlat, beq_eq_false_iff_ne]
    intro state
    rw [state] at exposed
    contradiction

theorem Carries.taking
    (carries : Carries direction asked fills position)
    (away : (position.taking happening).isFlat = false) :
    Carries direction asked
      (fills ++ (position.fillTaken? happening).toList)
      (position.taking happening) := by
  rcases position.taking_cases happening with ⟨same, none⟩ | ⟨moves, taken⟩
  · rw [same, none, Option.toList_none, List.append_nil]
    exact carries
  · rw [taken]
    exact carries.moved moves away

/-- What is carried is kept as long as a position does not become flat. -/
theorem Carries.through
    {later : List Happening}
    (carries : Carries direction asked fills position)
    (away : position.StaysOut later) :
    Carries direction asked (fills ++ position.fillsTaken later)
      (position.through later) := by
  induction later generalizing position fills with
  | nil =>
    rw [fillsTaken, List.append_nil]
    exact carries
  | cons happening later hypothesis =>
    rw [fillsTaken, ← List.append_assoc]
    exact hypothesis (carries.taking away.tail.isFlat) away.tail

/-- What is held is at most what was asked for. -/
theorem Carries.quantity_le
    (carries : Carries direction asked fills position)
    (positive : Decimal.zero < asked) :
    position.quantity ≤ asked := by
  cases carries with
  | waiting _ _ nothing =>
    rw [nothing]
    exact Decimal.le_of_lt positive
  | holding _ _ within covered => exact Decimal.le_trans covered within

/-- Nothing was filled exactly as long as the entry works. -/
theorem Carries.entering_iff
    (carries : Carries direction asked fills position) :
    position.state = .entering ↔ fills = [] := by
  cases carries with
  | waiting state => simp [state]
  | holding exposed =>
    simp only [reduceCtorEq, iff_false]
    intro state
    rw [state] at exposed
    contradiction

theorem Carries.exposed
    (carries : Carries direction asked fills position)
    (filled : fills ≠ []) :
    position.state.hasExposure = true := by
  cases carries with
  | waiting => contradiction
  | holding exposed => exact exposed

/-! ## Nothing is added -/

/-- What was filled once stays so, and nothing is added to it. -/
theorem Moves.quantity_le
    {event : Event}
    {now : Instant}
    {next : Position}
    (moves : position.Moves now event next)
    (exposed : position.state.hasExposure = true)
    (away : next.isFlat = false) :
    next.state.hasExposure = true ∧ next.quantity ≤ position.quantity := by
  cases moves with
  | startReduce => exact ⟨rfl, Decimal.le_refl _⟩
  | startClose => exact ⟨rfl, Decimal.le_refl _⟩
  | fillReduce _ unsigned within =>
    exact ⟨rfl, Decimal.saturatingSub_le unsigned within⟩
  | failEntry => contradiction
  | fillAllReduced => contradiction
  | fillClose => contradiction
  | enter state => rw [state] at exposed; contradiction
  | fillEntry state => rw [state] at exposed; contradiction

theorem quantity_taking_le
    (exposed : position.state.hasExposure = true)
    (away : (position.taking happening).isFlat = false) :
    (position.taking happening).state.hasExposure = true ∧
      (position.taking happening).quantity ≤ position.quantity := by
  rcases position.taking_cases happening with ⟨same, _⟩ | ⟨moves, _⟩
  · rw [same]
    exact ⟨exposed, Decimal.le_refl _⟩
  · exact moves.quantity_le exposed away

theorem quantity_through_le
    {later : List Happening}
    (exposed : position.state.hasExposure = true)
    (away : position.StaysOut later) :
    (position.through later).quantity ≤ position.quantity := by
  induction later generalizing position with
  | nil => exact Decimal.le_refl _
  | cons happening later hypothesis =>
    rcases quantity_taking_le exposed away.tail.isFlat with ⟨remains, lessened⟩
    exact Decimal.le_trans (hypothesis remains away.tail) lessened

/-! ## The two ends -/

/-- How what was carried comes to its end. -/
inductive Ends (fills : List Fill) (held : Decimal) : Event → Prop where
  /-- The entry failed, and nothing was filled. -/
  | failed {reason : String}
      (unfilled : fills = []) :
      Ends fills held (.failed reason)
  /-- The last fill took all that was held. -/
  | filled {entry : Fill} {reductions : List Fill} {quantity price : Decimal}
      (entered : fills = entry :: reductions)
      (whole : quantity.value = held.value)
      (total :
        IsUnrounded entry reductions →
          totalFilled (reductions ++ [⟨quantity, price⟩]) =
            entry.quantity.value) :
      Ends fills held (.filled quantity price)

theorem Carries.ends_filled
    (carries : Carries direction asked fills position)
    (exposed : position.state.hasExposure = true)
    {quantity price : Decimal}
    (whole : quantity.value = position.quantity.value) :
    Ends fills position.quantity (.filled quantity price) := by
  cases carries with
  | waiting state => rw [state] at exposed; contradiction
  | holding _ _ _ _ _ counted =>
    refine .filled rfl whole ?_
    intro exact
    rw [totalFilled_append, totalFilled_singleton, whole, counted exact]
    exact add_sub_cancel _ _

/-- A position becomes flat by a failed entry or when nothing is left. -/
theorem Carries.ends
    (carries : Carries direction asked fills position)
    (ended : (position.taking happening).isFlat = true) :
    Ends fills position.quantity happening.event ∧
      position.taking happening = flat position.symbol happening.time := by
  rcases position.taking_cases happening with ⟨same, _⟩ | ⟨moves, _⟩
  · rw [same, carries.isFlat] at ended
    contradiction
  · generalize happening.event = event at moves
    generalize position.taking happening = next at moves ended ⊢
    cases moves with
    | failEntry state =>
      exact ⟨.failed (carries.entering_iff.mp state), rfl⟩
    | fillAllReduced state _ _ nothing =>
      refine ⟨carries.ends_filled (by rw [state]; rfl) ?_, rfl⟩
      exact ((Decimal.isZero_saturatingSub_iff _ _).mp nothing).symm
    | fillClose state whole =>
      refine ⟨carries.ends_filled (by rw [state]; rfl) ?_, rfl⟩
      exact (Decimal.sameValue_iff_value _ _).mp whole
    | enter => contradiction
    | fillEntry => contradiction
    | startReduce => contradiction
    | startClose => contradiction
    | fillReduce => contradiction

/-- A flat position is left by an admitted entry alone. -/
theorem exists_entering
    (out : position.isFlat = true)
    (away : (position.taking happening).isFlat = false) :
    ∃ direction asked,
      happening.event = .entryAdmitted direction asked ∧
        Decimal.zero < asked ∧
        position.taking happening =
          position.entering direction asked happening.time := by
  rcases position.taking_cases happening with ⟨same, _⟩ | ⟨moves, _⟩
  · rw [same, out] at away
    contradiction
  · have state : position.state = .flat := by simpa [isFlat] using out
    generalize happening.event = event at moves ⊢
    generalize position.taking happening = next at moves away ⊢
    cases moves with
    | enter _ positive => exact ⟨_, _, rfl, positive, rfl⟩
    | fillEntry known => rw [state] at known; contradiction
    | failEntry known => rw [state] at known; contradiction
    | startReduce known => rw [state] at known; contradiction
    | startClose known => rw [state] at known; contradiction
    | fillReduce known => rw [state] at known; contradiction
    | fillAllReduced known => rw [state] at known; contradiction
    | fillClose known => rw [state] at known; contradiction

end Carrying

/--
A run that begins with a flat position leaves flat by an admitted entry alone.
As long as it is not flat again, whatever happens and is refused in between,
its direction is that of the entry.  It holds nothing while the entry works,
and then the fill of the entry without the fills of the reductions, if no
difference was rounded; its entry price is that of the fill.  It never holds
more than was asked for, nor more than at any time since the entry was filled.

It becomes flat by the failure of an entry that was not filled, or by a fill of
all that is held.  With that the fills of the reductions add up to the fill of
the entry, if no difference was rounded, and nothing of the exposure is left.
-/
theorem exposure_is_conserved
    (symbol : Symbol)
    (start : Instant)
    {before later : List Happening}
    {first : Happening}
    {position : Position}
    (out : ((flat symbol start).through before).isFlat = true)
    (leaves : ((flat symbol start).through before).taking first = position)
    (away : position.StaysOut later) :
    ∃ direction asked,
      first.event = .entryAdmitted direction asked ∧
      Carries direction asked (position.fillsTaken later)
        (position.through later) ∧
      (position.through later).quantity ≤ asked ∧
      (∀ earlier,
        earlier <+: later →
          position.fillsTaken earlier ≠ [] →
            (position.through later).quantity ≤
              (position.through earlier).quantity) ∧
      ∀ last,
        ((position.through later).taking last).isFlat = true →
          Ends (position.fillsTaken later) (position.through later).quantity
              last.event ∧
            (position.through later).taking last = flat symbol last.time := by
  have about : position.symbol = symbol := by
    rw [← leaves, symbol_taking, symbol_through]
    rfl
  have started := away.isFlat
  rw [← leaves] at started
  rcases exists_entering out started with
    ⟨direction, asked, admitted, positive, entered⟩
  have waits : Carries direction asked [] position := by
    rw [← leaves, entered]
    exact carries_entering _ direction asked first.time
  have carries := waits.through away
  refine ⟨direction, asked, admitted, carries, carries.quantity_le positive,
    ?_, ?_⟩
  · rintro earlier ⟨rest, rfl⟩ filled
    have known := waits.through (away.of_prefix (List.prefix_append _ _))
    rw [through_append]
    exact quantity_through_le (known.exposed filled) away.behind
  · intro last ended
    have ends := carries.ends ended
    rw [symbol_through, about] at ends
    exact ends

namespace Sample

open Desk.Sample (hundred moment one)

theorem ninetyNine_mantissa : 99 < Decimal.mantissaBound := by decide

/-- The number 99. -/
def ninetyNine : Decimal :=
  ⟨false, 99, 0, ninetyNine_mantissa, Decimal.scale_zero_le⟩

/-- A position whose entry of a hundred was admitted. -/
def admitted : Position :=
  (flat Desk.Sample.symbol (moment 0)).taking
    ⟨.entryAdmitted .long hundred, moment 1⟩

/-- The entry is filled, one is given back, and the rest is being closed. -/
def partlyReduced : List Happening :=
  [⟨.filled hundred hundred, moment 2⟩,
    ⟨.reduceAdmitted one, moment 3⟩,
    ⟨.failed "", moment 4⟩,
    ⟨.filled one hundred, moment 5⟩,
    ⟨.exitAdmitted, moment 6⟩]

theorem fillsTaken_partlyReduced :
    admitted.fillsTaken partlyReduced = [⟨hundred, hundred⟩, ⟨one, hundred⟩] :=
  rfl

theorem staysOut_partlyReduced : admitted.StaysOut partlyReduced := by
  intro part known
  rw [← List.mem_inits] at known
  revert part
  decide +kernel

theorem isUnrounded_partlyReduced :
    IsUnrounded ⟨hundred, hundred⟩ [⟨one, hundred⟩] := by
  intro part known
  rw [← List.mem_inits] at known
  simp only [List.inits, List.map_cons, List.map_nil, List.mem_pair] at known
  rcases known with rfl | rfl
  · exact ⟨hundred, by simp [totalFilled]⟩
  · refine ⟨ninetyNine, ?_⟩
    norm_num [totalFilled, Decimal.value, Decimal.numerator, ninetyNine,
      hundred, one, Decimal.one, tenTo]

/-- What is left of a hundred when one was given back is closed by 99. -/
theorem exposure_is_conserved_partlyReduced :
    Carries .long hundred [⟨hundred, hundred⟩, ⟨one, hundred⟩]
        (admitted.through partlyReduced) ∧
      IsUnrounded ⟨hundred, hundred⟩ [⟨one, hundred⟩] ∧
      Ends [⟨hundred, hundred⟩, ⟨one, hundred⟩]
        (admitted.through partlyReduced).quantity
        (.filled ninetyNine hundred) ∧
      (admitted.through partlyReduced).taking
          ⟨.filled ninetyNine hundred, moment 7⟩ =
        flat Desk.Sample.symbol (moment 7) := by
  have out :
      ((flat Desk.Sample.symbol (moment 0)).through []).isFlat = true :=
    rfl
  have leaves :
      ((flat Desk.Sample.symbol (moment 0)).through []).taking
          ⟨.entryAdmitted .long hundred, moment 1⟩ =
        admitted :=
    rfl
  rcases exposure_is_conserved _ _ out leaves staysOut_partlyReduced with
    ⟨direction, asked, entry, carries, _, _, ends⟩
  cases entry
  rw [fillsTaken_partlyReduced] at carries ends
  exact ⟨carries, isUnrounded_partlyReduced,
    ends ⟨.filled ninetyNine hundred, moment 7⟩ (by decide +kernel)⟩

end Sample

end MandateDesk.Position
