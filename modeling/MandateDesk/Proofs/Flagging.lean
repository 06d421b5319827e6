import MandateDesk.Proofs.Breakdown
import MandateDesk.Proofs.Endurance
import MandateDesk.Proofs.Exits
import MandateDesk.Proofs.Handing
import MandateDesk.Proofs.Retrying

/-!
# Which cancels are remembered

A working entry is marked once a cancel of it was handed over, and while it is
marked no other cancel is handed over.  When the venue refuses to take the
cancel, the mark goes.  So an entry is marked exactly when one cancel of it has
reached the venue or waits for it, and there is never more than one.

What the venue answers to a cancel that it took does not come into this.  A
report under the name of the cancel names nothing that works, is turned down,
and leaves the mark where it is.
-/

namespace MandateDesk

namespace Desk

open Venue (Dispatch)

/-- The number of cancels of an order on a symbol. -/
def cancels
    (out : List Dispatch)
    (symbol : Symbol)
    (target : DispatchId) :
    Nat :=
  out.countP fun dispatch =>
    decide (dispatch.symbol = symbol ∧ dispatch.order = .cancelEntry target)

theorem cancels_append
    (out later : List Dispatch)
    (symbol : Symbol)
    (target : DispatchId) :
    cancels (out ++ later) symbol target =
      cancels out symbol target + cancels later symbol target :=
  List.countP_append

/-- An order that is no such cancel does not count. -/
theorem cancels_cons_of_ne
    {dispatch : Dispatch}
    {symbol : Symbol}
    {target : DispatchId}
    (apart :
      dispatch.symbol = symbol → dispatch.order ≠ .cancelEntry target)
    (later : List Dispatch) :
    cancels (dispatch :: later) symbol target =
      cancels later symbol target :=
  List.countP_cons_of_neg (by simpa using apart)

theorem cancels_cons_of_eq
    {dispatch : Dispatch}
    {symbol : Symbol}
    {target : DispatchId}
    (about : dispatch.symbol = symbol)
    (aims : dispatch.order = .cancelEntry target)
    (later : List Dispatch) :
    cancels (dispatch :: later) symbol target =
      cancels later symbol target + 1 :=
  List.countP_cons_of_pos (by simp [about, aims])

theorem cancels_eq_zero_iff
    {out : List Dispatch}
    {symbol : Symbol}
    {target : DispatchId} :
    cancels out symbol target = 0 ↔
      ∀ cancel ∈ out, cancel.symbol = symbol →
        cancel.order ≠ .cancelEntry target := by
  simp [cancels, List.countP_eq_zero]

/-- The marks on a desk go with the orders that have left it. -/
structure Flagged (desk : Desk) (out : List Dispatch) : Prop where
  /-- What works has a number that was given. -/
  issued : ∀ {symbol : Symbol} {order : WorkingOrder} {serial : Nat},
    desk.working.find? symbol = some order →
    order.dispatch = .issued serial →
      serial ≤ desk.issued
  /-- Cancels aim at numbers that were given. -/
  aimed : ∀ {cancel : Dispatch} {serial : Nat},
    cancel ∈ out →
    cancel.order = .cancelEntry (.issued serial) →
      serial ≤ desk.issued
  /-- What works is marked if one cancel of it has left the desk. -/
  marked : ∀ {symbol : Symbol} {order : WorkingOrder},
    desk.working.find? symbol = some order →
      order.isCancelled.toNat = cancels out symbol order.dispatch

theorem flagged_nil
    {desk : Desk}
    (idle : desk.working = OrderedMap.empty) :
    Flagged desk [] where
  issued working := by simp [idle] at working
  aimed member := by simp at member
  marked working := by simp [idle] at working

section Flagged

variable {desk after : Desk} {out sent : List Dispatch}

/-- It does not matter when orders work no more. -/
theorem Flagged.of_still
    (flagged : Flagged desk out)
    (still : ∀ {symbol order},
      after.working.find? symbol = some order →
        desk.working.find? symbol = some order)
    (issued : after.issued = desk.issued) :
    Flagged after out where
  issued working named := issued ▸ flagged.issued (still working) named
  aimed member aims := issued ▸ flagged.aimed member aims
  marked working := flagged.marked (still working)

theorem Flagged.launch
    (flagged : Flagged desk out)
    {dispatch : Dispatch}
    {token : Option Reservation.Token}
    (trades : dispatch.order.admission?.isSome = true)
    (named : dispatch.id = desk.nextDispatch)
    (working : ∀ symbol, after.working.find? symbol =
      if symbol = dispatch.symbol then
        some ⟨dispatch.id, dispatch.order, token, false⟩
      else desk.working.find? symbol)
    (issued : after.issued = desk.issued + 1) :
    Flagged after (out ++ [dispatch]) := by
  have silent (target : DispatchId) :
      dispatch.order ≠ .cancelEntry target := by
    intro aims
    simp [aims, Venue.Order.admission?] at trades
  have still (symbol : Symbol) (target : DispatchId) :
      cancels (out ++ [dispatch]) symbol target =
        cancels out symbol target := by
    rw [cancels_append, cancels_cons_of_ne (fun _ => silent target)]
    rfl
  constructor
  · intro symbol order serial works named'
    rw [working] at works
    rw [issued]
    split at works
    · cases works
      rw [named] at named'
      cases named'
      exact le_rfl
    · exact Nat.le_succ_of_le (flagged.issued works named')
  · intro cancel serial member aims
    rw [issued]
    rcases List.mem_append.mp member with here | last
    · exact Nat.le_succ_of_le (flagged.aimed here aims)
    · rw [List.mem_singleton.mp last] at aims
      exact absurd aims (silent _)
  · intro symbol order works
    rw [still]
    rw [working] at works
    split at works
    · cases works
      -- nothing that has left the desk can aim at a new number
      refine (cancels_eq_zero_iff.mpr fun cancel member _ aims => ?_).symm
      simp only [named] at aims
      have low := flagged.aimed member aims
      omega
    · exact flagged.marked works

theorem Flagged.cancel
    (flagged : Flagged desk out)
    {dispatch : Dispatch}
    {order : WorkingOrder}
    (cancellable : desk.cancellable? dispatch.symbol = some order)
    (aims : dispatch.order = .cancelEntry order.dispatch)
    (working : ∀ symbol, after.working.find? symbol =
      if symbol = dispatch.symbol then some { order with isCancelled := true }
      else desk.working.find? symbol)
    (issued : after.issued = desk.issued + 1) :
    Flagged after (out ++ [dispatch]) := by
  rcases find?_of_cancellable? cancellable with ⟨worked, unmarked, _⟩
  constructor
  · intro symbol known serial works named
    rw [working] at works
    rw [issued]
    split at works
    · cases works
      exact Nat.le_succ_of_le (flagged.issued worked named)
    · exact Nat.le_succ_of_le (flagged.issued works named)
  · intro cancel serial member aimsAt
    rw [issued]
    rcases List.mem_append.mp member with here | last
    · exact Nat.le_succ_of_le (flagged.aimed here aimsAt)
    · rw [List.mem_singleton.mp last, aims] at aimsAt
      exact Nat.le_succ_of_le
        (flagged.issued worked (Venue.Order.cancelEntry.inj aimsAt))
  · intro symbol known works
    rw [working] at works
    rw [cancels_append]
    split at works
    · rename_i about
      cases works
      have none := flagged.marked worked
      rw [unmarked] at none
      rw [cancels_cons_of_eq about.symm aims, about, ← none]
      rfl
    · rename_i apart
      rw [cancels_cons_of_ne (fun about => absurd about.symm apart)]
      exact flagged.marked works

/-- Orders that leave the desk one after another go with its marks. -/
theorem Flagged.handing
    (flagged : Flagged desk out)
    (handing : Handing desk after sent) :
    Flagged after (out ++ sent) := by
  induction handing generalizing out with
  | once hands =>
    cases hands with
    | nothing working issued =>
      rw [List.append_nil]
      exact flagged.of_still (fun works => working ▸ works) issued
    | launch token _ trades named working issued =>
      exact flagged.launch trades named working issued
    | cancel cancellable aims _ working issued =>
      exact flagged.cancel cancellable aims working issued
  | trans _ _ former latter =>
    rw [← List.append_assoc]
    exact latter (former flagged)

/-- What works once a cancel was turned down: its target is not marked. -/
theorem working_of_keepEntry
    {symbol other : Symbol}
    {target : DispatchId}
    {order : WorkingOrder}
    (working :
      (desk.keepEntry symbol target).working.find? other = some order) :
    (other = symbol ∧ ∃ known, desk.working.find? symbol = some known ∧
      known.dispatch = target ∧
      order = { known with isCancelled := false }) ∨
    desk.working.find? other = some order ∧
      (other = symbol → order.dispatch ≠ target) := by
  unfold Desk.keepEntry at working
  split at working
  · rename_i vacant
    refine Or.inr ⟨working, ?_⟩
    rintro rfl
    simp [vacant] at working
  · rename_i known found
    split at working
    · rename_i named
      rw [find?_working_start] at working
      split at working
      · rename_i here
        cases working
        exact Or.inl ⟨here, known, found, named, rfl⟩
      · rename_i apart
        exact Or.inr ⟨working, fun here => absurd here apart⟩
    · rename_i unnamed
      refine Or.inr ⟨working, ?_⟩
      rintro rfl
      rw [← Option.some.inj (found.symm.trans working)]
      exact unnamed

theorem issued_keepEntry
    (desk : Desk)
    (symbol : Symbol)
    (target : DispatchId) :
    (desk.keepEntry symbol target).issued = desk.issued := by
  unfold Desk.keepEntry
  split
  · rfl
  · split <;> rfl

/-- A cancel that the venue refuses has not left the desk. -/
theorem Flagged.keepEntry
    {early late : List Dispatch}
    {dispatch : Dispatch}
    {target : DispatchId}
    (flagged : Flagged desk (early ++ dispatch :: late))
    (aims : dispatch.order = .cancelEntry target) :
    Flagged (desk.keepEntry dispatch.symbol target) (early ++ late) := by
  have fewer {cancel : Dispatch} (member : cancel ∈ early ++ late) :
      cancel ∈ early ++ dispatch :: late := by
    rw [List.mem_append] at member ⊢
    exact member.imp_right (List.mem_cons_of_mem _)
  constructor
  · intro symbol order serial works named
    rw [issued_keepEntry]
    rcases working_of_keepEntry works with
      ⟨rfl, known, worked, _, rfl⟩ | ⟨worked, _⟩
    · exact flagged.issued worked named
    · exact flagged.issued worked named
  · intro cancel serial member aimsAt
    rw [issued_keepEntry]
    exact flagged.aimed (fewer member) aimsAt
  · intro symbol order works
    rw [cancels_append]
    rcases working_of_keepEntry works with
      ⟨rfl, known, worked, rfl, rfl⟩ | ⟨worked, unnamed⟩
    · -- this was the only cancel that had left the desk
      have once := flagged.marked worked
      rw [cancels_append, cancels_cons_of_eq rfl aims] at once
      have few := Bool.toNat_le known.isCancelled
      simp only [Bool.toNat_false]
      omega
    · have count := flagged.marked worked
      rw [cancels_append, cancels_cons_of_ne] at count
      · exact count
      · intro about aimsAt
        refine unnamed about.symm ?_
        rw [aims] at aimsAt
        exact (Venue.Order.cancelEntry.inj aimsAt).symm

/-- Any other order that the venue refuses does not matter. -/
theorem Flagged.dropping
    {early late : List Dispatch}
    {dispatch : Dispatch}
    (flagged : Flagged desk (early ++ dispatch :: late))
    (silent : ∀ target, dispatch.order ≠ .cancelEntry target) :
    Flagged desk (early ++ late) where
  issued := flagged.issued
  aimed member := by
    refine flagged.aimed ?_
    rw [List.mem_append] at member ⊢
    exact member.imp_right (List.mem_cons_of_mem _)
  marked working := by
    have count := flagged.marked working
    rw [cancels_append, cancels_cons_of_ne (fun _ => silent _)] at count
    rw [cancels_append]
    exact count

end Flagged

end Desk

namespace Course

/-- In a run what works is marked if one cancel of it has left the desk. -/
theorem Reached.flagged
    {course : Course}
    (reached : course.Reached) :
    Desk.Flagged course.desk (course.sent ++ course.waiting) := by
  induction reached with
  | blank store => exact Desk.flagged_nil rfl
  | recovered ran => exact Desk.flagged_nil rfl
  | @step course _ earlier step flagged =>
    cases step with
    | submit registered => exact flagged.of_still id rfl
    | cancelSource source => exact flagged.of_still id rfl
    | cycle parameters limits feed now clear =>
      rw [clear, List.append_nil] at flagged
      exact flagged.handing
        (earlier.coherent.handing_runCycle parameters limits feed now)
    | take waits =>
      rw [waits] at flagged
      simp only [taking, List.append_assoc]
      exact flagged
    | @refuse dispatch rest waits =>
      rw [waits] at flagged
      simp only [refusing, spurned]
      split
      · rename_i target aims
        exact flagged.keepEntry aims
      · rename_i silent
        exact flagged.dropping silent
    | report report now =>
      have settled := earlier.coherent.settled report now
      exact flagged.of_still (fun works => (settled.still works).1)
        settled.issued
    | keep => exact flagged.of_still id rfl

/-- In a run all that was handed over has a number that was given. -/
theorem Reached.serial
    {course : Course}
    (reached : course.Reached)
    {dispatch : Venue.Dispatch}
    (handed : dispatch ∈ course.handed) :
    ∃ serial, dispatch.id = .issued serial ∧
      serial ≤ course.desk.issued := by
  induction reached with
  | blank store => simp at handed
  | recovered ran => simp at handed
  | @step course _ earlier step hypothesis =>
    cases step with
    | submit registered => exact hypothesis handed
    | cancelSource source => exact hypothesis handed
    | cycle parameters limits feed now clear =>
      have issues :=
        earlier.coherent.issues_runCycle parameters limits feed now
      rcases List.mem_append.mp handed with before | new
      · rcases hypothesis before with ⟨serial, named, low⟩
        refine ⟨serial, named, low.trans ?_⟩
        exact issues.issued ▸ Nat.le_add_right _ _
      · rcases issues.serial new with ⟨serial, named, _, low⟩
        exact ⟨serial, named, low⟩
    | take waits => exact hypothesis handed
    | @refuse dispatch rest waits =>
      rcases hypothesis handed with ⟨serial, named, low⟩
      refine ⟨serial, named, low.trans_eq ?_⟩
      simp only [refusing, spurned]
      split
      · exact (Desk.issued_keepEntry _ _ _).symm
      · rfl
    | report report now =>
      rcases hypothesis handed with ⟨serial, named, low⟩
      exact ⟨serial, named,
        low.trans_eq (earlier.coherent.settled report now).issued.symm⟩
    | keep => exact hypothesis handed

end Course

/-- A cycle hands over a cancel of a working entry, or one has left before. -/
theorem Desk.Flagged.asks
    {desk : Desk}
    {out : List Venue.Dispatch}
    (flagged : Flagged desk out)
    (coherent : desk.Coherent)
    {parameters : Parameters}
    {limits : Risk.Limits}
    {snapshot : Snapshot}
    {now : Instant}
    {turn : Turn}
    {summary : CycleSummary}
    (worked : Worked desk parameters limits snapshot now turn summary)
    {symbol : Symbol}
    {order : WorkingOrder}
    (working : desk.working.find? symbol = some order)
    (entry : order.order.isEntry = true)
    (wishes : desk.WishesExit parameters.mandateLifetime now symbol) :
    cancels out symbol order.dispatch +
      cancels turn.outbox symbol order.dispatch = 1 := by
  have state :=
    (coherent.coupled symbol).entry_iff_entering.mp ⟨order, working, entry⟩
  rcases worked.cancels coherent state wishes with
    ⟨known, works, _, isCancelled⟩
  rcases worked.issues.kept working with ⟨_, mark, stays⟩
  rw [stays] at works
  cases works
  have marked := (flagged.handing worked.handing).marked stays
  rw [cancels_append, isCancelled] at marked
  exact marked.symm

namespace History

open Venue (Dispatch)

/--
Where an exit is wished for and an entry works, the next cycle hands over a new
cancel of the entry, unless one has reached the venue before.  So a cancel that
the venue refused to take is asked for again; but after one that it took, none
is asked for any more, whatever was reported of it.  This holds as long as the
venue stands and the session goes on.
-/
theorem cancel_is_asked_for_until_taken
    {history : History}
    (reached : history.Reached)
    (standing : history.session.isBroken = false)
    (running : history.session.phase.isRunning = true)
    {symbol : Symbol}
    {order : Desk.WorkingOrder}
    (working : history.session.desk.working.find? symbol = some order)
    (entry : order.order.isEntry = true)
    {snapshot : Snapshot}
    {now : Instant}
    (fresh :
      history.session.feed.fresh history.session.parameters.oldestSnapshot
        now = .ok snapshot)
    (reaches : history.session.parameters.Reaches now)
    (wishes :
      history.session.desk.WishesExit
        history.session.parameters.mandateLifetime now symbol) :
    (∃ cancel ∈ (history.session.step now .cycle).handed,
      cancel.symbol = symbol ∧
        cancel.order = .cancelEntry order.dispatch ∧
        ∀ known ∈ history.handed, known.id ≠ cancel.id) ↔
      ∀ cancel ∈ history.sent, cancel.symbol = symbol →
        cancel.order ≠ .cancelEntry order.dispatch := by
  have unbroken := reached.unbroken standing
  have course := unbroken.course
  have coherent : history.session.desk.Coherent := course.coherent
  have flagged : Desk.Flagged history.session.desk history.sent := by
    have known := course.flagged
    rw [List.append_nil] at known
    exact known
  have live := unbroken.sound.isLive running
  rw [live.handed_cycle now]
  rcases
      Desk.runCycle_of_fresh coherent history.session.parameters
        history.session.limits fresh with
    ⟨broke, _⟩ | ⟨turn, summary, worked, ran⟩
  · have dated :=
      (Desk.isSome_expire_iff history.session.desk.registry _ now).mpr reaches
    simp [broke] at dated
  rw [ran, ← Desk.cancels_eq_zero_iff]
  have one := flagged.asks coherent worked working entry wishes
  constructor
  · rintro ⟨cancel, handed, about, aims, _⟩
    have some :
        0 < Desk.cancels turn.outbox symbol order.dispatch :=
      List.countP_pos_iff.mpr ⟨cancel, handed, by simp [about, aims]⟩
    omega
  · intro none
    have some :
        0 < Desk.cancels turn.outbox symbol order.dispatch := by omega
    rcases List.countP_pos_iff.mp some with ⟨cancel, handed, found⟩
    rcases of_decide_eq_true found with ⟨about, aims⟩
    refine ⟨cancel, handed, about, aims, fun known listed same => ?_⟩
    rcases course.serial listed with ⟨serial, named, within⟩
    have low : serial ≤ history.session.desk.issued := within
    rcases worked.issues.serial handed with ⟨fresh, own, high, _⟩
    rw [named, own, DispatchId.issued.injEq] at same
    omega

namespace Sample

open Desk.Sample

/-- The commands by which an entry comes to work and an exit is wished for. -/
def leavingEarly : List (Instant × Session.Command) :=
  [(moment 1, .submit entry), (moment 1, .cycle), (moment 1, .submit exit)]

/-- The run in which the venue refuses to take the cancel of the entry. -/
def cancelRefused : History :=
  (beginning Desk.Sample.beginning).through
    (leavingEarly ++ [(moment 1, .refuseNext), (moment 1, .cycle)])

/-- The run in which the venue takes the cancel and rejects it by a report. -/
def cancelRejected : History :=
  (beginning Desk.Sample.beginning).through
    (leavingEarly ++
      [(moment 1, .cycle),
        (moment 1, .report ⟨.issued 2, symbol, .rejected "busy"⟩)])

/-- The entry of these runs as it works. -/
def workingEntry (isCancelled : Bool) : Desk.WorkingOrder :=
  ⟨.issued 1, .enter .long one,
    (entering.working.find? symbol).bind Desk.WorkingOrder.token,
    isCancelled⟩

theorem reached_cancelRefused : cancelRefused.Reached :=
  (Reached.start (.blank _ _ _ _ _)).through _

theorem reached_cancelRejected : cancelRejected.Reached :=
  (Reached.start (.blank _ _ _ _ _)).through _

/-- The cancel that the venue refused to take is handed over once more. -/
theorem cancel_is_asked_for_until_taken_cancelRefused :
    cancelRefused.session.desk.working.find? symbol =
        some (workingEntry false) ∧
      ∃ cancel ∈ (cancelRefused.session.step (moment 1) .cycle).handed,
        cancel.symbol = symbol ∧ cancel.order = .cancelEntry (.issued 1) ∧
          ∀ known ∈ cancelRefused.handed, known.id ≠ cancel.id :=
  ⟨by decide +kernel,
    (@cancel_is_asked_for_until_taken cancelRefused reached_cancelRefused
      (by decide +kernel) (by decide +kernel) symbol (workingEntry false)
      (by decide +kernel) rfl _ (moment 1) (if_neg (by decide +kernel))
      (Or.inr (by decide +kernel))
      ⟨exit, by decide +kernel, rfl, rfl, rfl, by decide +kernel⟩).mpr
      (by decide +kernel)⟩

/-- The cancel that the venue took and then rejected is not. -/
theorem rejected_cancel_is_not_asked_for_again :
    cancelRejected.Reached ∧
      cancelRejected.session.isBroken = false ∧
      cancelRejected.session.phase.isRunning = true ∧
      cancelRejected.session.desk.working.find? symbol =
        some (workingEntry true) ∧
      cancelRejected.session.desk.WishesExit
        cancelRejected.session.parameters.mandateLifetime (moment 1)
        symbol ∧
      (∃ snapshot, cancelRejected.session.feed.fresh
        cancelRejected.session.parameters.oldestSnapshot (moment 1) =
          .ok snapshot) ∧
      (cancelRejected.session.step (moment 1) .cycle).handed = [] :=
  ⟨reached_cancelRejected, by decide +kernel, by decide +kernel,
    by decide +kernel,
    ⟨exit, by decide +kernel, rfl, rfl, rfl, by decide +kernel⟩,
    ⟨_, if_neg (by decide +kernel)⟩, by decide +kernel⟩

end Sample

end History

end MandateDesk
