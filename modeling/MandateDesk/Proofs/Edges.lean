import MandateDesk.Proofs.Endurance
import MandateDesk.Proofs.Rounding

/-!
# The edges of a position's life

Which states follow each other, which events a state accepts, and what an event
does to a position are three separate tables.  They agree: every move goes over
an edge, by an event that its state accepts, and every edge is taken by some
event.

The shape of a position is kept as well, but for one gap.  A position that is
being reduced need not know its entry price and an open one must, so that the
fill of a part of an unpriced position cannot be booked, and is a fatal fault
instead of a refusal.
-/

namespace MandateDesk.Position

/-! ## Moves go over edges -/

section Moves

variable {position next : Position} {event : Event} {now : Instant}

/-- A move is what follows from its event. -/
theorem Moves.successor
    (moves : position.Moves now event next) :
    position.successor event now = .ok next := by
  cases moves with
  | enter state positive =>
    simp [Position.successor, state, Position.enter, positive, entering]
  | fillEntry state positive priced within =>
    simp [Position.successor, state, Position.fillEntry, positive, priced,
      Decimal.not_lt.mpr within, entered]
  | failEntry state => simp [Position.successor, state]
  | startReduce state positive within =>
    simp [Position.successor, state, Position.startReduce, positive,
      Decimal.not_lt.mpr within, reducing]
  | startClose state => simp [Position.successor, state]
  | fillReduce state unsigned within left =>
    simp [Position.successor, state, Position.fillReduce, unsigned,
      Decimal.not_lt.mpr within, left, remaining]
  | fillAllReduced state unsigned within nothing =>
    simp [Position.successor, state, Position.fillReduce, unsigned,
      Decimal.not_lt.mpr within, nothing]
  | fillClose state whole =>
    simp [Position.successor, state, Position.fillClose, whole]

/-- Nothing but an accepted event moves a position. -/
theorem Moves.isAccepted
    (moves : position.Moves now event next) :
    event.kind ∈ position.state.acceptedEvents := by
  cases moves with
  | enter state => simp [state, State.acceptedEvents, Event.kind]
  | fillEntry state => simp [state, State.acceptedEvents, Event.kind]
  | failEntry state => simp [state, State.acceptedEvents, Event.kind]
  | startReduce state => simp [state, State.acceptedEvents, Event.kind]
  | startClose state => simp [state, State.acceptedEvents, Event.kind]
  | fillReduce state => simp [state, State.acceptedEvents, Event.kind]
  | fillAllReduced state => simp [state, State.acceptedEvents, Event.kind]
  | fillClose state => simp [state, State.acceptedEvents, Event.kind]

end Moves

/-! ## Parts of what was never priced -/

/-- A fill would leave a part of what has no entry price. -/
structure LeavesUnpriced
    (position : Position)
    (quantity : Decimal) :
    Prop where
  reducing : position.state = .reducing
  unpriced : position.entryPrice = none
  unsigned : quantity.negative = false
  part : quantity < position.quantity

section Parts

variable {position next : Position} {event : Event} {now : Instant}
variable {quantity : Decimal}

/-- A fill below what is held leaves something. -/
theorem isZero_of_part
    {held : Decimal}
    (part : quantity < held) :
    (held.saturatingSub quantity).isZero = false := by
  rw [Bool.eq_false_iff, Ne, Decimal.isZero_saturatingSub_iff]
  exact ((Decimal.value_lt_iff _ _).mpr part).ne'

/-- A fill that leaves something is below what is held. -/
theorem part_of_isZero
    {held : Decimal}
    (within : quantity ≤ held)
    (left : (held.saturatingSub quantity).isZero = false) :
    quantity < held := by
  rw [Bool.eq_false_iff, Ne, Decimal.isZero_saturatingSub_iff] at left
  rw [← Decimal.value_le_iff] at within
  rw [← Decimal.value_lt_iff]
  exact lt_of_le_of_ne within (Ne.symm left)

theorem LeavesUnpriced.moves
    (leaves : position.LeavesUnpriced quantity)
    (price : Decimal)
    (now : Instant) :
    position.Moves now (.filled quantity price)
      (position.remaining quantity now) :=
  .fillReduce leaves.reducing leaves.unsigned (Decimal.le_of_lt leaves.part)
    (isZero_of_part leaves.part)

/-- What an unpriced part lacks is its price alone. -/
theorem LeavesUnpriced.violation?_remaining
    (leaves : position.LeavesUnpriced quantity)
    (shaped : position.WellFormed)
    (now : Instant) :
    (position.remaining quantity now).violation? = some .openShape := by
  have shape := leavingShape shaped (Or.inl leaves.reducing)
  have left := isZero_of_part leaves.part
  have unsigned :=
    Decimal.negative_saturatingSub shape.unsigned leaves.unsigned
      (Decimal.le_of_lt leaves.part)
  simp [violation?, remaining, touched, isFlat, holdsNothing, stateViolation,
    left, unsigned, leaves.unpriced, Decimal.zero]

/-- The fill of an unpriced part breaks the shape of the position. -/
theorem LeavesUnpriced.apply_filled
    (leaves : position.LeavesUnpriced quantity)
    (shaped : position.WellFormed)
    (price : Decimal)
    (now : Instant) :
    position.apply (.filled quantity price) now =
      .error
        (.invariantViolation position.symbol
          (.position .openShape (position.remaining quantity now))) := by
  simp only [apply, (leaves.moves price now).successor, check,
    leaves.violation?_remaining shaped now]
  rfl

/-- Every other move keeps the shape of the position. -/
theorem Moves.apply
    (moves : position.Moves now event next)
    (shaped : position.WellFormed)
    (priced :
      ∀ quantity price,
        event = .filled quantity price → ¬ position.LeavesUnpriced quantity) :
    position.apply event now = .ok next := by
  refine (apply_eq_ok_iff _ _ _ _).mpr
    ⟨moves.successor, moves.wellFormed_of_priced shaped ?_⟩
  intro state opened
  cases moves with
  | fillReduce _ unsigned within left =>
    by_contra absent
    rw [Option.not_isSome_iff_eq_none] at absent
    exact priced _ _ rfl ⟨state, absent, unsigned, part_of_isZero within left⟩
  | enter known => rw [state] at known; contradiction
  | fillEntry known => rw [state] at known; contradiction
  | startReduce known => rw [state] at known; contradiction
  | startClose known => rw [state] at known; contradiction
  | failEntry => contradiction
  | fillAllReduced => contradiction
  | fillClose => contradiction

end Parts

/-! ## Answers -/

/--
An answer to an event that is no fatal fault: a position of its shape, reached
over an edge by an accepted event, or a refusal that names the state and the
event.
-/
inductive Answers (position : Position) (event : Event) :
    Except Fault Position → Prop where
  | moved {next}
      (shaped : next.WellFormed)
      (same : next.symbol = position.symbol)
      (edge : position.state.canBecome next.state = true)
      (accepted : event.kind ∈ position.state.acceptedEvents) :
      Answers position event (.ok next)
  | refused {refusal} :
      Answers position event
        (.error
          (.invalidTransition position.symbol position.state event.kind
            refusal))

theorem not_answers_invariantViolation
    {position : Position}
    {event : Event}
    {symbol : Symbol}
    {violation : BookViolation} :
    ¬ position.Answers event
      (.error (.invariantViolation symbol violation)) := by
  rintro ⟨⟩

/-- An event is answered, unless it fills an unpriced part. -/
theorem answers_apply
    {position : Position}
    (shaped : position.WellFormed)
    {event : Event}
    (priced :
      ∀ quantity price,
        event = .filled quantity price → ¬ position.LeavesUnpriced quantity)
    (now : Instant) :
    position.Answers event (position.apply event now) := by
  cases followed : position.successor event now with
  | error refusal =>
    simp only [apply, followed]
    exact .refused
  | ok next =>
    have moves := moves_of_successor followed
    have applied := moves.apply shaped priced
    rw [applied]
    exact .moved (wellFormed_of_apply applied) moves.symbol_eq moves.canBecome
      moves.isAccepted

/-! ## Every edge is taken -/

/-- An unpriced part is nothing that a priced position can leave. -/
theorem IsPriced.not_leavesUnpriced
    {position : Position}
    (priced : position.IsPriced)
    (quantity : Decimal) :
    ¬ position.LeavesUnpriced quantity := by
  intro leaves
  have present := priced (by rw [leaves.reducing]; rfl)
  rw [leaves.unpriced] at present
  contradiction

/-- A figure that is neither negative nor zero is above zero. -/
theorem zero_lt_of_filled
    {quantity : Decimal}
    (unsigned : quantity.negative = false)
    (filled : quantity.isZero = false) :
    Decimal.zero < quantity := by
  refine (Decimal.zero_lt_iff quantity).mpr ⟨unsigned, ?_⟩
  simpa [Decimal.isZero] using filled

/-- An entry that works asks for something. -/
theorem zero_lt_pendingQuantity
    {position : Position}
    (shaped : position.WellFormed)
    (state : position.state = .entering) :
    Decimal.zero < position.pendingQuantity := by
  rcases (wellFormed_iff position).mp shaped with ⟨⟨_, unsigned⟩, _, clean⟩
  refine zero_lt_of_filled unsigned ?_
  simp only [stateViolation, state, ite_eq_right_iff, reduceCtorEq, imp_false,
    Bool.or_eq_true, not_or, Bool.not_eq_true] at clean
  exact clean.2

/-- A position moves over each of its edges by some event. -/
theorem exists_moves
    {position : Position}
    (shaped : position.WellFormed)
    {target : State}
    (edge : position.state.canBecome target = true)
    (now : Instant) :
    ∃ event next, position.Moves now event next ∧ next.state = target := by
  have unit : Decimal.zero < Decimal.one := by decide
  rw [← State.mem_successors_iff] at edge
  cases state : position.state with
  | flat =>
    simp only [state, State.successors, List.mem_singleton] at edge
    subst edge
    exact ⟨.entryAdmitted .long .one, _, .enter state unit, rfl⟩
  | entering =>
    simp only [state, State.successors, List.mem_pair] at edge
    have asked := zero_lt_pendingQuantity shaped state
    rcases edge with rfl | rfl
    · exact ⟨.filled position.pendingQuantity .one, _,
        .fillEntry state asked unit (Decimal.le_refl _), rfl⟩
    · exact ⟨.failed "", _, .failEntry state, rfl⟩
  | opened =>
    simp only [state, State.successors, List.mem_pair] at edge
    have shape := openShape shaped state
    have held := zero_lt_of_filled shape.unsigned shape.filled
    rcases edge with rfl | rfl
    · exact ⟨.reduceAdmitted position.quantity, _,
        .startReduce state held (Decimal.le_refl _), rfl⟩
    · exact ⟨.exitAdmitted, _, .startClose state, rfl⟩
  | reducing =>
    simp only [state, State.successors, List.mem_pair] at edge
    have shape := leavingShape shaped (Or.inl state)
    have held := zero_lt_of_filled shape.unsigned shape.filled
    rcases edge with rfl | rfl
    · -- A fill of nothing leaves all of it, and the position open.
      exact ⟨.filled .zero .one, _,
        .fillReduce state rfl (Decimal.le_of_lt held) (isZero_of_part held),
        rfl⟩
    · exact ⟨.filled position.quantity .one, _,
        .fillAllReduced state shape.unsigned (Decimal.le_refl _)
          ((Decimal.isZero_saturatingSub_iff _ _).mpr rfl), rfl⟩
  | closing =>
    simp only [state, State.successors, List.mem_singleton] at edge
    subst edge
    have whole : Decimal.SameValue position.quantity position.quantity :=
      (Decimal.sameValue_iff_value _ _).mpr rfl
    exact ⟨.filled position.quantity .one, _, .fillClose state whole, rfl⟩

/-- A position of a symbol and a state that has its shape and its price. -/
structure Sound
    (symbol : Symbol)
    (state : State)
    (position : Position) :
    Prop where
  about : position.symbol = symbol
  placed : position.state = state
  shaped : position.WellFormed
  priced : position.IsPriced

/-- A sound position takes each of its edges, and is sound behind it. -/
theorem Sound.exists_apply
    {symbol : Symbol}
    {source target : State}
    {position : Position}
    (sound : Sound symbol source position)
    (edge : source.canBecome target = true)
    (now : Instant) :
    ∃ event next,
      position.apply event now = .ok next ∧ Sound symbol target next := by
  rw [← sound.placed] at edge
  rcases exists_moves sound.shaped edge now with ⟨event, next, moves, reached⟩
  have applied :=
    moves.apply sound.shaped
      fun quantity _ _ => sound.priced.not_leavesUnpriced quantity
  exact ⟨event, next, applied, moves.symbol_eq.trans sound.about, reached,
    wellFormed_of_apply applied, moves.isPriced sound.priced⟩

/-- Every state is reached by a sound position of every symbol. -/
theorem exists_sound
    (symbol : Symbol)
    (state : State)
    (now : Instant) :
    ∃ position, Sound symbol state position := by
  have first : Sound symbol .flat (flat symbol now) :=
    ⟨rfl, rfl, flat_wellFormed symbol now, isPriced_flat symbol now⟩
  have entry : State.flat.canBecome .entering = true := rfl
  rcases first.exists_apply entry now with ⟨_, entering, _, second⟩
  have fill : State.entering.canBecome .opened = true := rfl
  rcases second.exists_apply fill now with ⟨_, opened, _, third⟩
  have leaving
      (target : State)
      (edge : State.opened.canBecome target = true) :
      ∃ position, Sound symbol target position := by
    rcases third.exists_apply edge now with ⟨_, next, _, sound⟩
    exact ⟨next, sound⟩
  cases state with
  | flat => exact ⟨_, first⟩
  | entering => exact ⟨_, second⟩
  | opened => exact ⟨_, third⟩
  | reducing => exact leaving .reducing rfl
  | closing => exact leaving .closing rfl

/--
A position of its shape answers every event by a position of its shape, reached
over an edge by an accepted event, or by a refusal that names the state and the
event, with one exception: the fill of a part of a position that is being
reduced without an entry price.  Then, and only then, the answer is a fatal
fault, since the open position that would be left has no price.

Conversely every edge is taken: each state is that of some position, and every
position in it that has its shape and its price goes over each edge by some
event.
-/
theorem apply_follows_the_edges
    (now : Instant) :
    (∀ position event,
      WellFormed position →
        (position.Answers event (position.apply event now) ↔
          ∀ quantity price,
            event = .filled quantity price →
              ¬ position.LeavesUnpriced quantity)) ∧
    (∀ position quantity price,
      WellFormed position →
        position.LeavesUnpriced quantity →
          position.apply (.filled quantity price) now =
            .error
              (.invariantViolation position.symbol
                (.position .openShape (position.remaining quantity now)))) ∧
    ∀ source target,
      source.canBecome target = true →
        (∀ symbol, ∃ position, Sound symbol source position) ∧
        ∀ symbol position,
          Sound symbol source position →
            ∃ event next,
              position.apply event now = .ok next ∧ next.state = target := by
  refine ⟨?_, ?_, ?_⟩
  · intro position event shaped
    refine ⟨?_, fun priced => answers_apply shaped priced now⟩
    rintro answers quantity price rfl leaves
    rw [leaves.apply_filled shaped price now] at answers
    exact not_answers_invariantViolation answers
  · intro position quantity price shaped leaves
    exact leaves.apply_filled shaped price now
  · intro source target edge
    refine ⟨fun symbol => exists_sound symbol source now, ?_⟩
    intro symbol position sound
    rcases sound.exists_apply edge now with ⟨event, next, applied, reached⟩
    exact ⟨event, next, applied, reached.placed⟩

namespace Sample

open Desk.Sample (hundred moment one)

/-- A hundred, of which one is being reduced. -/
def parting (entryPrice : Option Decimal) : Position :=
  { symbol := Desk.Sample.symbol
    state := .reducing
    direction := some .long
    quantity := hundred
    entryPrice
    pendingQuantity := one
    updatedAt := moment 0 }

theorem sound_parting :
    Sound Desk.Sample.symbol .reducing (parting (some hundred)) :=
  ⟨rfl, rfl, by decide +kernel, fun _ => rfl⟩

theorem leavesUnpriced_parting : (parting none).LeavesUnpriced one :=
  ⟨rfl, rfl, rfl, by decide +kernel⟩

/-- A part is taken off a position that has a price, and only off that. -/
theorem apply_follows_the_edges_parting :
    (parting (some hundred)).Answers (.filled one hundred)
      ((parting (some hundred)).apply (.filled one hundred) (moment 1)) ∧
    (parting none).apply (.filled one hundred) (moment 1) =
      .error
        (.invariantViolation Desk.Sample.symbol
          (.position .openShape ((parting none).remaining one (moment 1)))) ∧
    ∃ event next,
      (parting (some hundred)).apply event (moment 1) = .ok next ∧
        next.state = .opened := by
  rcases apply_follows_the_edges (moment 1) with ⟨answered, faulty, taken⟩
  refine ⟨?_, ?_, ?_⟩
  · exact (answered _ _ sound_parting.shaped).mpr
      fun quantity _ _ => sound_parting.priced.not_leavesUnpriced quantity
  · exact faulty _ _ hundred (by decide +kernel) leavesUnpriced_parting
  · exact (taken .reducing .opened rfl).2 _ _ sound_parting

/--
A position that has its shape but no price answers the fill of a part by a
fatal fault.
-/
theorem unpriced_part_is_fatal :
    (parting none).WellFormed ∧
      ¬ (parting none).Answers (.filled one hundred)
        ((parting none).apply (.filled one hundred) (moment 1)) ∧
      ∃ fault,
        (parting none).apply (.filled one hundred) (moment 1) =
          .error fault ∧
        fault.isFatal = true := by
  have shaped : (parting none).WellFormed := by decide +kernel
  have broken :=
    leavesUnpriced_parting.apply_filled shaped hundred (moment 1)
  refine ⟨shaped, ?_, _, broken, rfl⟩
  rw [broken]
  exact not_answers_invariantViolation

end Sample

end MandateDesk.Position
