import MandateDesk.Proofs.Reachability
import MandateDesk.Proofs.Retaining

/-!
# Mandates that outlive their time

A mandate expires once its age exceeds the lifetime that the parameters set.
The desk does not compare ages: it goes back from the present by the lifetime
and compares stamps.  The two come to the same where no leap second lies in the
way, and an instant inside of one counts as the last one in front of it.  Going
back takes a calendar that is long enough; where it is not, the cycle breaks
down and no mandate is touched.

All of this holds of lifetimes that are durations, which are numbers of 63
bits.  Nothing keeps the parameters from setting a longer one, and that is read
as a negative number: what was submitted a moment ago has expired, then.
-/

namespace MandateDesk

/-! ## Going back in time -/

namespace Instant

/-- Nanoseconds since the beginning of 1970. -/
def count (instant : Instant) : Int :=
  instant.second * nanosPerSecond + instant.nanos

/-- The instant, or the last one in front of the leap second that it is in. -/
def ordinary (instant : Instant) : Instant :=
  ⟨instant.second, min instant.nanos 999999999, by omega⟩

/-- The beginning of the calendar. -/
def earliest : Instant :=
  { epoch with second := Calendar.firstDay * secondsPerDay }

theorem inLeapSecond_eq_false_iff (instant : Instant) :
    instant.inLeapSecond = false ↔ instant.nanos < 1000000000 := by
  unfold inLeapSecond nanosPerSecond
  rw [decide_eq_false_iff_not, Nat.not_le]

theorem ordinary_of_not_leap
    {instant : Instant}
    (ordinary : instant.inLeapSecond = false) :
    instant.ordinary = instant := by
  rw [inLeapSecond_eq_false_iff] at ordinary
  rcases instant with ⟨second, nanos, bound⟩
  simp only [Instant.ordinary, mk.injEq, true_and]
  simp only at ordinary
  omega

theorem inLeapSecond_ordinary (instant : Instant) :
    instant.ordinary.inLeapSecond = false := by
  rw [inLeapSecond_eq_false_iff]
  unfold ordinary
  simp only
  omega

/-- Outside leap seconds a difference of times is a difference of counts. -/
theorem nanosSince_eq
    {later earlier : Instant}
    (current : later.inLeapSecond = false)
    (past : earlier.inLeapSecond = false) :
    later.nanosSince earlier = later.count - earlier.count := by
  have aligned : leapCorrection later earlier = 0 := by
    simp [leapCorrection, current, past]
  unfold nanosSince count
  rw [aligned]
  simp only [nanosPerSecond]
  omega

theorem shiftedBy_eq
    {now : Instant}
    (clock : now.inLeapSecond = false)
    (nanos : Int) :
    now.shiftedBy nanos = ofNanos (now.count + nanos) := by
  unfold shiftedBy count
  simp only [clock, Bool.false_eq_true, if_false, nanosPerSecond]
  congr 1
  omega

/-- An instant is in front of a count where its ordinary count is. -/
theorem lt_ofNanos_iff
    (instant : Instant)
    (nanos : Int) :
    instant < ofNanos nanos ↔ instant.ordinary.count < nanos := by
  have bound := instant.nanos_lt
  show instant.position < (ofNanos nanos).position ↔ _
  unfold position ofNanos ordinary count nanosPerSecond
  simp only
  omega

section Back

variable {now : Instant} {milliseconds : Nat}

/-- An instant is in front of the one that much earlier if it is older. -/
theorem lt_of_before?_iff
    (clock : now.inLeapSecond = false)
    {cutoff : Instant}
    (back : now.before? milliseconds = some cutoff)
    (instant : Instant) :
    instant < cutoff ↔
      (milliseconds : Int) * 1000000 < now.nanosSince instant.ordinary := by
  unfold before? at back
  split at back
  · contradiction
  · simp only at back
    split at back
    · cases back
      rw [shiftedBy_eq clock, lt_ofNanos_iff,
        nanosSince_eq clock instant.inLeapSecond_ordinary]
      omega
    · contradiction

theorem inCalendar_iff (instant : Instant) :
    instant.inCalendar = true ↔
      Calendar.firstDay ≤ instant.second / 86400 ∧
        instant.second / 86400 ≤ Calendar.lastDay := by
  unfold inCalendar
  rw [Bool.and_eq_true, decide_eq_true_eq, decide_eq_true_eq]
  exact Iff.rfl

/-- One can go back to the beginning of the calendar, and no further. -/
theorem before?_eq_none_iff
    (clock : now.inLeapSecond = false)
    (current : now.inCalendar = true) :
    now.before? milliseconds = none ↔
      now.nanosSince earliest < (milliseconds : Int) * 1000000 := by
  have counted : ¬ (milliseconds : Int) < -longestDuration := by
    unfold longestDuration
    omega
  have within := ((inCalendar_iff now).mp current).2
  have nanos := (inLeapSecond_eq_false_iff now).mp clock
  have dated :
      (now.shiftedBy (-((milliseconds : Int) * 1000000))).inCalendar = true ↔
        (milliseconds : Int) * 1000000 ≤ now.nanosSince earliest := by
    rw [shiftedBy_eq clock, nanosSince_eq clock (by decide), inCalendar_iff]
    unfold ofNanos count earliest epoch secondsPerDay nanosPerSecond
    generalize Calendar.firstDay = first
    generalize Calendar.lastDay = last at within ⊢
    simp only
    omega
  unfold before?
  rw [if_neg counted]
  simp only
  split
  · rename_i inside
    exact iff_of_false nofun (Int.not_lt.mpr (dated.mp inside))
  · rename_i outside
    exact iff_of_true rfl (Int.not_le.mp (mt dated.mpr outside))

end Back

end Instant

theorem Text.asSigned64_of_lt
    {number : Nat}
    (fits : number < bound63) :
    asSigned64 number = number := by
  have small : number % bound64 = number :=
    Nat.mod_eq_of_lt (Nat.lt_trans fits (by decide))
  unfold asSigned64
  rw [small, if_pos fits]

/-! ## What expires -/

namespace Desk

/-- The age of a mandate exceeds a lifetime, which is endless where zero. -/
def overdue (lifetime : Nat) (now : Instant) (mandate : Mandate) : Bool :=
  lifetime != 0 &&
    decide
      ((lifetime : Int) * 1000000 < now.nanosSince mandate.stamp.ordinary)

theorem overdue_iff
    {mandate : Mandate}
    (plain : mandate.stamp.inLeapSecond = false)
    (lifetime : Nat)
    (now : Instant) :
    overdue lifetime now mandate = true ↔
      lifetime ≠ 0 ∧
        (lifetime : Int) * 1000000 < now.nanosSince mandate.stamp := by
  unfold overdue
  rw [Instant.ordinary_of_not_leap plain, Bool.and_eq_true, bne_iff_ne,
    decide_eq_true_eq]

section Expiry

variable {registry next : Registry} {lifetime count : Nat} {now : Instant}

/-- Where expiry works, its comparison of stamps is one of ages. -/
theorem outlived_eq_overdue
    (short : lifetime < Text.bound63)
    (clock : now.inLeapSecond = false)
    (expiry : (expire registry lifetime now).isSome = true) :
    outlived lifetime now = overdue lifetime now := by
  funext mandate
  unfold outlived overdue
  rcases (isSome_expire_iff registry lifetime now).mp expiry with
    never | dated
  · simp [never]
  · rw [Text.asSigned64_of_lt short] at dated ⊢
    rcases Option.isSome_iff_exists.mp dated with ⟨cutoff, back⟩
    rw [back]
    simp only [Option.any_some, Instant.lt_of_before?_iff clock back]

/-- Expiry counts the active mandates that outlived their time. -/
theorem count_expire
    (expiry : expire registry lifetime now = some (next, count)) :
    count =
      (registry.mandates.values.filter fun mandate =>
        mandate.isActive && outlived lifetime now mandate).length := by
  unfold expire at expiry
  split at expiry
  · rename_i never
    cases expiry
    have spared :
        (registry.mandates.values.filter fun mandate =>
          mandate.isActive && outlived lifetime now mandate) = [] :=
      List.filter_eq_nil_iff.mpr fun mandate _ => by simp [outlived, never]
    rw [spared]
    rfl
  · rename_i ends
    rcases Option.map_eq_some_iff.mp expiry with ⟨cutoff, back, same⟩
    have dated :
        outlived lifetime now =
          fun mandate => decide (mandate.stamp < cutoff) := by
      funext mandate
      simp [outlived, ends, back]
    rw [← (Prod.mk.inj same).2, dated]
    exact List.length_map ..

/-- What is left of the mandates is as it was. -/
theorem original?_expire
    (expiry : expire registry lifetime now = some (next, count))
    (id : Identifier) :
    next.original? id = next.get? id := by
  have left := get?_expire expiry id
  unfold Registry.original?
  cases found : next.get? id with
  | none => rfl
  | some mandate =>
    rw [found] at left
    have kept := (Option.filter_eq_some_iff.mp left.symm).2
    rw [Bool.and_eq_true] at kept
    have active : mandate.status = .active := by
      cases status : mandate.status <;>
        simp [Mandate.isActive, status, Mandate.Status.isActive] at kept ⊢
    rcases mandate with
      ⟨id, symbol, kind, authority, stamp, source, direction, quantity, status⟩
    cases active
    rfl

end Expiry

/--
On fresh market data, a cycle breaks down exactly where the calendar does not
reach back over the lifetime, and then changes no mandate.  Otherwise it drops
the mandates that were inactive and those whose age exceeds the lifetime, and
keeps all others, with whatever status they have by then; its summary counts
the active ones among those that it drops.  None is too old where the lifetime
is zero, and ages are exact for all stamps outside leap seconds.
-/
theorem mandates_expire_by_age
    {parameters : Parameters}
    (short : parameters.mandateLifetime < Text.bound63)
    {now : Instant}
    (clock : now.inLeapSecond = false)
    (current : now.inCalendar = true)
    {feed : Feed}
    {snapshot : Snapshot}
    (fresh : feed.fresh parameters.oldestSnapshot now = .ok snapshot)
    (desk : Desk)
    (limits : Risk.Limits)
    (room : Option Nat) :
    (∀ mandate : Mandate,
      mandate.stamp.inLeapSecond = false →
        (overdue parameters.mandateLifetime now mandate = true ↔
          parameters.mandateLifetime ≠ 0 ∧
            (parameters.mandateLifetime : Int) * 1000000 <
              now.nanosSince mandate.stamp)) ∧
    ∃ turn ending,
      desk.runCycle parameters limits feed room now = (turn, ending) ∧
      (ending = .brokeDown ↔
        parameters.mandateLifetime ≠ 0 ∧
          now.nanosSince Instant.earliest <
            (parameters.mandateLifetime : Int) * 1000000) ∧
      (ending = .brokeDown → turn.desk.registry = desk.registry) ∧
      (ending ≠ .brokeDown → ∀ id,
        turn.desk.registry.original? id =
          (desk.registry.get? id).filter fun mandate =>
            mandate.isActive &&
              !overdue parameters.mandateLifetime now mandate) ∧
      ∀ summary, ending = .done summary →
        summary.expired =
          (desk.registry.mandates.values.filter fun mandate =>
            mandate.isActive &&
              overdue parameters.mandateLifetime now mandate).length := by
  have dated :
      expire desk.registry parameters.mandateLifetime now = none ↔
        parameters.mandateLifetime ≠ 0 ∧
          now.nanosSince Instant.earliest <
            (parameters.mandateLifetime : Int) * 1000000 := by
    rw [← Instant.before?_eq_none_iff clock current,
      ← Option.not_isSome_iff_eq_none, isSome_expire_iff, not_or,
      Text.asSigned64_of_lt short, Option.not_isSome_iff_eq_none]
  refine ⟨fun mandate plain => overdue_iff plain _ now, ?_⟩
  cases expiry : expire desk.registry parameters.mandateLifetime now with
  | none =>
    rcases exists_tripOverdue_eq desk parameters.reservationTimeout now with
      ⟨halt, tripped⟩
    refine ⟨_, _, runCycle_of_expire_none fresh expiry limits room,
      iff_of_true rfl (dated.mp expiry), fun _ => ?_, fun done => ?_, nofun⟩
    · rw [tripped]
    · exact absurd rfl done
  | some left =>
    rcases left with ⟨registry, expired⟩
    have same :=
      outlived_eq_overdue short clock (Option.isSome_of_eq_some expiry)
    rcases runCycle_of_expire_some fresh expiry limits room with
      ⟨turn, ending, ran, retains, goes, counted⟩
    have possible := mt dated.mpr (by rw [expiry]; nofun)
    refine ⟨turn, ending, ran, iff_of_false goes possible,
      fun broke => absurd broke goes, fun _ id => ?_, fun summary done => ?_⟩
    · rw [retains.originals id]
      exact (original?_expire expiry id).trans
        (same ▸ get?_expire expiry id)
    · rw [counted summary done, count_expire expiry, same]

namespace Sample

/-- Market data that is published after a minute. -/
def lateFeed : Feed :=
  Feed.start { snapshot with publishedAt := moment 60 }

/-- The wish to leave, ten seconds before the end of a minute. -/
def lateExit : Mandate :=
  { exit with stamp := moment 50 }

/-- A desk with a wish of each age. -/
def ageing : Desk :=
  { wishing with registry := wishing.registry.adding lateExit }

/-- After a minute and a second the older wish is dropped, not the other. -/
theorem mandates_expire_by_age_ageing :
    (moment 61).inLeapSecond = false ∧
      (moment 61).inCalendar = true ∧
      ∃ turn ending,
        ageing.runCycle .standard .standard lateFeed none (moment 61) =
          (turn, ending) ∧
        turn.desk.registry.original? entry.id = none ∧
        turn.desk.registry.original? lateExit.id = some lateExit ∧
        ∀ summary, ending = .done summary → summary.expired = 1 := by
  have clock : (moment 61).inLeapSecond = false := by decide
  have current : (moment 61).inCalendar = true := by decide +kernel
  have fresh :
      lateFeed.fresh Parameters.standard.oldestSnapshot (moment 61) =
        .ok lateFeed.latest :=
    rfl
  rcases
      @mandates_expire_by_age .standard (by decide) (moment 61) clock current
        lateFeed lateFeed.latest fresh ageing .standard none with
    ⟨_, turn, ending, ran, breaks, _, kept, counted⟩
  have works : ending ≠ .brokeDown :=
    mt breaks.mp (by decide +kernel)
  exact ⟨clock, current, turn, ending, ran,
    (kept works entry.id).trans (by decide +kernel),
    (kept works lateExit.id).trans (by decide +kernel),
    fun summary done => (counted summary done).trans (by decide +kernel)⟩

/-- The longest lifetime that can be set. -/
def endless : Parameters :=
  { Parameters.standard with mandateLifetime := Text.bound64 - 1 }

/-- The middle of the lifetimes that can be set. -/
def halfway : Parameters :=
  { Parameters.standard with mandateLifetime := Text.bound63 }

/-- A wish of this very moment. -/
def prompt : Mandate :=
  { entry with stamp := moment 1 }

/-- The desk once this was wished for. -/
def prompted : Desk :=
  { wishing with registry := Registry.empty.adding prompt }

/--
Under the longest lifetime a mandate of this very moment expires; under half of
it the cycle breaks down.
-/
theorem prompt_wish_expires :
    endless.problems = [] ∧
      halfway.problems = [] ∧
      feed.fresh endless.oldestSnapshot (moment 1) = .ok feed.latest ∧
      prompted.registry.get? prompt.id = some prompt ∧
      prompt.isActive = true ∧
      overdue endless.mandateLifetime (moment 1) prompt = false ∧
      (prompted.runCycle endless .standard feed none (moment 1)).2 =
        .done ⟨1, some 0, false, 1, []⟩ ∧
      (prompted.runCycle endless .standard feed none
        (moment 1)).1.desk.registry.get? prompt.id = none ∧
      (prompted.runCycle halfway .standard feed none (moment 1)).2 =
        .brokeDown :=
  ⟨by decide, by decide, rfl, by decide +kernel, by decide, by decide +kernel,
    by decide +kernel, by decide +kernel, by decide +kernel⟩

end Sample

end Desk

end MandateDesk
