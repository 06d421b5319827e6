import MandateDesk.Book

/-!
# The life of a position

`Moves` lists all that an event can do to a position: one constructor for each
pair of a state and an event that belong together, with the checks that the
figures of the event have passed.  An event that is applied is one of these
moves, and the position that follows has the shape of its state.

Conversely, the three moves by which an admitted action sets out — an entry, a
reduction, a close — never fail on a position that has the shape of its state.
-/

namespace MandateDesk.Position

/-! ## The shape of a position in each state -/

/-- The three things that the shape of a position consists of. -/
theorem wellFormed_iff
    (position : Position) :
    position.WellFormed ↔
      (position.quantity.negative = false ∧
        position.pendingQuantity.negative = false) ∧
      position.isFlat = position.holdsNothing ∧
      position.stateViolation = none := by
  unfold WellFormed violation?
  by_cases signed :
      (position.quantity.negative || position.pendingQuantity.negative) = true
  · have broken :
        ¬ (position.quantity.negative = false ∧
          position.pendingQuantity.negative = false) := by
      rintro ⟨first, second⟩
      simp [first, second] at signed
    simp [signed, broken]
  · have unsigned :
        position.quantity.negative = false ∧
          position.pendingQuantity.negative = false := by
      simpa using signed
    by_cases coincide : position.isFlat = position.holdsNothing
    · simp [unsigned, coincide]
    · simp [unsigned, coincide]

/-- What holds of an open position. -/
structure OpenShape (position : Position) : Prop where
  unsigned : position.quantity.negative = false
  filled : position.quantity.isZero = false
  directed : position.direction.isSome = true
  priced : position.entryPrice.isSome = true
  settled_unsigned : position.pendingQuantity.negative = false
  settled : position.pendingQuantity.isZero = true

/-- What holds of a position that is being reduced or closed. -/
structure LeavingShape (position : Position) : Prop where
  unsigned : position.quantity.negative = false
  filled : position.quantity.isZero = false
  directed : position.direction.isSome = true
  pending_unsigned : position.pendingQuantity.negative = false
  pending : position.pendingQuantity.isZero = false
  pending_le : position.pendingQuantity ≤ position.quantity

/-- Whoever holds a quantity is not flat. -/
theorem holdsNothing_of_filled
    {position : Position}
    (filled : position.quantity.isZero = false) :
    position.holdsNothing = false := by
  simp [holdsNothing, filled]

theorem openShape
    {position : Position}
    (shaped : position.WellFormed)
    (state : position.state = .opened) :
    position.OpenShape := by
  rcases (wellFormed_iff position).mp shaped with
    ⟨⟨unsigned, settledUnsigned⟩, _, clean⟩
  unfold stateViolation at clean
  simp only [state] at clean
  split at clean
  · contradiction
  rename_i complete
  split at clean
  · contradiction
  rename_i settled
  simp only [Bool.or_eq_true, not_or, Bool.not_eq_true,
    Option.isNone_eq_false_iff] at complete
  exact ⟨unsigned, complete.1.1, complete.1.2, complete.2, settledUnsigned,
    by simpa using settled⟩

theorem leavingShape
    {position : Position}
    (shaped : position.WellFormed)
    (state : position.state = .reducing ∨ position.state = .closing) :
    position.LeavingShape := by
  rcases (wellFormed_iff position).mp shaped with
    ⟨⟨unsigned, pendingUnsigned⟩, _, clean⟩
  have checked :
      ¬ (position.quantity.isZero || position.direction.isNone) = true ∧
        ¬ (position.pendingQuantity.isZero ||
          decide (position.quantity < position.pendingQuantity)) = true := by
    unfold stateViolation at clean
    rcases state with state | state <;>
    · simp only [state] at clean
      split at clean
      · contradiction
      rename_i filled
      split at clean
      · contradiction
      rename_i within
      exact ⟨filled, within⟩
  simp only [Bool.or_eq_true, not_or, Bool.not_eq_true,
    Option.isNone_eq_false_iff, decide_eq_false_iff_not] at checked
  exact ⟨unsigned, checked.1.1, checked.1.2, pendingUnsigned, checked.2.1,
    Decimal.not_lt.mp checked.2.2⟩

theorem LeavingShape.wellFormed
    {position : Position}
    (shape : position.LeavingShape)
    (state : position.state = .reducing ∨ position.state = .closing) :
    position.WellFormed := by
  have directed : position.direction.isNone = false := by
    simpa using shape.directed
  have within : ¬ position.quantity < position.pendingQuantity :=
    Decimal.not_lt.mpr shape.pending_le
  refine (wellFormed_iff position).mpr
    ⟨⟨shape.unsigned, shape.pending_unsigned⟩, ?_, ?_⟩
  · rw [holdsNothing_of_filled shape.filled]
    rcases state with state | state <;> simp [isFlat, state]
  · rcases state with state | state <;>
      simp [stateViolation, state, shape.filled, directed, shape.pending,
        within]

theorem OpenShape.wellFormed
    {position : Position}
    (shape : position.OpenShape)
    (state : position.state = .opened) :
    position.WellFormed := by
  have directed : position.direction.isNone = false := by
    simpa using shape.directed
  have priced : position.entryPrice.isNone = false := by
    simpa using shape.priced
  refine (wellFormed_iff position).mpr
    ⟨⟨shape.unsigned, shape.settled_unsigned⟩, ?_, ?_⟩
  · rw [holdsNothing_of_filled shape.filled]
    simp [isFlat, state]
  · simp [stateViolation, state, shape.filled, directed, priced,
      shape.settled]

/-- A position that is being entered has a direction. -/
theorem isSome_direction_of_entering
    {position : Position}
    (shaped : position.WellFormed)
    (state : position.state = .entering) :
    position.direction.isSome = true := by
  rcases (wellFormed_iff position).mp shaped with ⟨_, coincide, clean⟩
  have nothing : position.holdsNothing = false := by
    rw [← coincide]
    simp [isFlat, state]
  have empty : position.quantity.isZero = true := by
    simp only [stateViolation, state, ite_eq_right_iff, reduceCtorEq,
      imp_false, Bool.or_eq_true, not_or, Bool.not_eq_true,
      Bool.not_eq_false'] at clean
    exact clean.1
  simpa [holdsNothing, empty] using nothing

/-- A flat position that has its shape holds nothing. -/
theorem isZero_of_flat
    {position : Position}
    (shaped : position.WellFormed)
    (state : position.state = .flat) :
    position.quantity.isZero = true := by
  have coincide := ((wellFormed_iff position).mp shaped).2.1
  have nothing : position.holdsNothing = true := by
    rw [← coincide]
    simp [isFlat, state]
  simp only [holdsNothing, Bool.and_eq_true] at nothing
  exact nothing.1

/-! ## The moves -/

/-- A position whose entry was admitted. -/
def entering
    (position : Position)
    (direction : Direction)
    (quantity : Decimal)
    (now : Instant) :
    Position :=
  { position.touched now with
    state := .entering
    direction := some direction
    quantity := Decimal.zero
    entryPrice := none
    pendingQuantity := quantity }

/-- A position whose entry was filled. -/
def entered
    (position : Position)
    (quantity price : Decimal)
    (now : Instant) :
    Position :=
  { position.touched now with
    state := .opened
    quantity
    entryPrice := some price
    pendingQuantity := Decimal.zero }

/-- A position whose reduction was admitted. -/
def reducing
    (position : Position)
    (quantity : Decimal)
    (now : Instant) :
    Position :=
  { position.touched now with
    state := .reducing
    pendingQuantity := quantity }

/-- A position of which a part was reduced. -/
def remaining
    (position : Position)
    (quantity : Decimal)
    (now : Instant) :
    Position :=
  { position.touched now with
    state := .opened
    quantity := position.quantity.saturatingSub quantity
    pendingQuantity := Decimal.zero }

/-- All that an event can do to a position. -/
inductive Moves (position : Position) (now : Instant) :
    Event → Position → Prop where
  | enter {direction quantity}
      (state : position.state = .flat)
      (positive : Decimal.zero < quantity) :
      Moves position now (.entryAdmitted direction quantity)
        (position.entering direction quantity now)
  | fillEntry {quantity price}
      (state : position.state = .entering)
      (positive : Decimal.zero < quantity)
      (priced : Decimal.zero < price)
      (within : quantity ≤ position.pendingQuantity) :
      Moves position now (.filled quantity price)
        (position.entered quantity price now)
  | failEntry {reason}
      (state : position.state = .entering) :
      Moves position now (.failed reason) (flat position.symbol now)
  | startReduce {quantity}
      (state : position.state = .opened)
      (positive : Decimal.zero < quantity)
      (within : quantity ≤ position.quantity) :
      Moves position now (.reduceAdmitted quantity)
        (position.reducing quantity now)
  | startClose
      (state : position.state = .opened) :
      Moves position now .exitAdmitted (position.startClose now)
  | fillReduce {quantity price}
      (state : position.state = .reducing)
      (unsigned : quantity.negative = false)
      (within : quantity ≤ position.quantity)
      (left : (position.quantity.saturatingSub quantity).isZero = false) :
      Moves position now (.filled quantity price)
        (position.remaining quantity now)
  | fillAllReduced {quantity price}
      (state : position.state = .reducing)
      (unsigned : quantity.negative = false)
      (within : quantity ≤ position.quantity)
      (none : (position.quantity.saturatingSub quantity).isZero = true) :
      Moves position now (.filled quantity price) (flat position.symbol now)
  | fillClose {quantity price}
      (state : position.state = .closing)
      (whole : Decimal.SameValue quantity position.quantity) :
      Moves position now (.filled quantity price) (flat position.symbol now)

theorem moves_of_successor
    {position next : Position}
    {event : Event}
    {now : Instant}
    (followed : position.successor event now = .ok next) :
    position.Moves now event next := by
  unfold successor at followed
  split at followed
  · rename_i direction quantity state
    unfold enter at followed
    split at followed
    · rename_i positive
      cases followed
      exact .enter state positive
    · contradiction
  · rename_i quantity price state
    unfold fillEntry at followed
    split at followed
    · contradiction
    rename_i positive
    split at followed
    · contradiction
    rename_i priced
    split at followed
    · contradiction
    rename_i within
    cases followed
    exact .fillEntry state (by simpa using positive) (by simpa using priced)
      (Decimal.not_lt.mp within)
  · rename_i reason state
    cases followed
    exact .failEntry state
  · rename_i quantity state
    unfold startReduce at followed
    split at followed
    · contradiction
    rename_i positive
    split at followed
    · contradiction
    rename_i within
    cases followed
    exact .startReduce state (by simpa using positive)
      (Decimal.not_lt.mp within)
  · rename_i state
    cases followed
    exact .startClose state
  · rename_i quantity price state
    unfold fillReduce at followed
    split at followed
    · contradiction
    rename_i unsigned
    split at followed
    · contradiction
    rename_i within
    simp only at followed
    split at followed
    · rename_i nothing
      cases followed
      exact .fillAllReduced state (by simpa using unsigned)
        (Decimal.not_lt.mp within) nothing
    · rename_i something
      cases followed
      exact .fillReduce state (by simpa using unsigned)
        (Decimal.not_lt.mp within) (by simpa using something)
  · rename_i quantity price state
    unfold fillClose at followed
    split at followed
    · rename_i whole
      cases followed
      exact .fillClose state whole
    · contradiction
  · contradiction

/-- An event that is applied is a move, and is computed without its check. -/
theorem apply_eq_ok_iff
    (position next : Position)
    (event : Event)
    (now : Instant) :
    position.apply event now = .ok next ↔
      position.successor event now = .ok next ∧ next.WellFormed := by
  unfold apply
  cases followed : position.successor event now with
  | error refusal => simp
  | ok candidate =>
    cases checked : candidate.check with
    | error fault =>
      have broken : ¬ candidate.WellFormed := by
        rw [← check_eq_ok_iff, checked]
        simp
      simp only [checked]
      constructor
      · intro impossible
        contradiction
      · rintro ⟨same, shaped⟩
        cases same
        exact absurd shaped broken
    | ok accepted =>
      have shaped : candidate.WellFormed := (check_eq_ok_iff _).mp checked
      simp only [checked]
      constructor
      · intro same
        cases same
        exact ⟨rfl, shaped⟩
      · rintro ⟨same, _⟩
        cases same
        rfl

theorem moves_of_apply
    {position next : Position}
    {event : Event}
    {now : Instant}
    (applied : position.apply event now = .ok next) :
    position.Moves now event next :=
  moves_of_successor ((apply_eq_ok_iff _ _ _ _).mp applied).1

/-- No move changes what a position is about. -/
theorem Moves.symbol_eq
    {position next : Position}
    {event : Event}
    {now : Instant}
    (moves : position.Moves now event next) :
    next.symbol = position.symbol := by
  cases moves <;> rfl

/-- An answer of the venue ends the wait of a position. -/
theorem Moves.state_of_answer
    {position next : Position}
    {event : Event}
    {now : Instant}
    (moves : position.Moves now event next)
    (answer : event.kind = .filled ∨ event.kind = .failed) :
    next.state = .flat ∨ next.state = .opened := by
  cases moves with
  | enter => simp [Event.kind] at answer
  | fillEntry => exact Or.inr rfl
  | failEntry => exact Or.inl rfl
  | startReduce => simp [Event.kind] at answer
  | startClose => simp [Event.kind] at answer
  | fillReduce => exact Or.inr rfl
  | fillAllReduced => exact Or.inl rfl
  | fillClose => exact Or.inl rfl

/-! ## The moves of admitted actions -/

/-- A flat position takes every entry of a positive quantity. -/
theorem apply_entryAdmitted
    {position : Position}
    (state : position.state = .flat)
    (direction : Direction)
    {quantity : Decimal}
    (positive : Decimal.zero < quantity)
    (now : Instant) :
    position.apply (.entryAdmitted direction quantity) now =
      .ok (position.entering direction quantity now) := by
  refine (apply_eq_ok_iff _ _ _ _).mpr ⟨?_, ?_⟩
  · simp [successor, state, enter, positive, entering]
  · have figure := (Decimal.zero_lt_iff quantity).mp positive
    simp [WellFormed, violation?, entering, isFlat, holdsNothing,
      stateViolation, Decimal.zero, Decimal.isZero, figure]

/-- An open position takes every reduction within what it holds. -/
theorem apply_reduceAdmitted
    {position : Position}
    (shaped : position.WellFormed)
    (state : position.state = .opened)
    {quantity : Decimal}
    (positive : Decimal.zero < quantity)
    (within : quantity ≤ position.quantity)
    (now : Instant) :
    position.apply (.reduceAdmitted quantity) now =
      .ok (position.reducing quantity now) := by
  have shape := openShape shaped state
  have figure := (Decimal.zero_lt_iff quantity).mp positive
  refine (apply_eq_ok_iff _ _ _ _).mpr ⟨?_, ?_⟩
  · simp [successor, state, startReduce, positive, Decimal.not_lt.mpr within,
      reducing]
  · refine LeavingShape.wellFormed ?_ (Or.inl rfl)
    exact ⟨shape.unsigned, shape.filled, shape.directed, figure.1,
      by simp [reducing, Decimal.isZero, figure.2], within⟩

/-- An open position can be closed. -/
theorem apply_exitAdmitted
    {position : Position}
    (shaped : position.WellFormed)
    (state : position.state = .opened)
    (now : Instant) :
    position.apply .exitAdmitted now = .ok (position.startClose now) := by
  have shape := openShape shaped state
  refine (apply_eq_ok_iff _ _ _ _).mpr ⟨?_, ?_⟩
  · simp [successor, state]
  · refine LeavingShape.wellFormed ?_ (Or.inr rfl)
    exact ⟨shape.unsigned, shape.filled, shape.directed, shape.unsigned,
      shape.filled, Decimal.le_refl _⟩

end MandateDesk.Position
