import MandateDesk.Proofs.Correspondence

/-!
# Handing orders over, one after another

A desk hands over one order at a time.  Either the order trades, and then it
works from then on on a symbol where nothing worked; or it is a cancel, and
then the entry that it aims at works and was not asked to be cancelled, but is
from then on.  `Hands` lists these two ways and that in which nothing is handed
over; `Handing` puts them one after another.

Whatever is to be said of a desk and of the orders it has handed over so far
needs to be looked at in these cases only: a whole cycle consists of them.
-/

namespace MandateDesk

namespace Desk

open Reservation (Token)
open Venue (Dispatch)

/-- One change of a desk, by which at most one order is handed over. -/
inductive Hands (desk after : Desk) : List Dispatch → Prop where
  /-- Neither what works nor the number of dispatches changes. -/
  | nothing
      (working : after.working = desk.working)
      (issued : after.issued = desk.issued) :
      Hands desk after []
  /-- An order that trades works from then on. -/
  | launch {dispatch}
      (token : Option Token)
      (vacant : desk.working.find? dispatch.symbol = none)
      (trades : dispatch.order.admission?.isSome = true)
      (named : dispatch.id = desk.nextDispatch)
      (working : ∀ symbol, after.working.find? symbol =
        if symbol = dispatch.symbol then
          some ⟨dispatch.id, dispatch.order, token, false⟩
        else desk.working.find? symbol)
      (issued : after.issued = desk.issued + 1) :
      Hands desk after [dispatch]
  /-- A working entry is asked to be cancelled. -/
  | cancel {dispatch order}
      (cancellable : desk.cancellable? dispatch.symbol = some order)
      (aims : dispatch.order = .cancelEntry order.dispatch)
      (named : dispatch.id = desk.nextDispatch)
      (working : ∀ symbol, after.working.find? symbol =
        if symbol = dispatch.symbol then
          some { order with isCancelled := true }
        else desk.working.find? symbol)
      (issued : after.issued = desk.issued + 1) :
      Hands desk after [dispatch]

/-- Changes of a desk one after another, and what they hand over. -/
inductive Handing : Desk → Desk → List Dispatch → Prop where
  | once {desk after sent}
      (hands : Hands desk after sent) :
      Handing desk after sent
  | trans {first second third sent later}
      (before : Handing first second sent)
      (after : Handing second third later) :
      Handing first third (sent ++ later)

theorem handing_of_same
    {desk after : Desk}
    (working : after.working = desk.working)
    (issued : after.issued = desk.issued) :
    Handing desk after [] :=
  .once (.nothing working issued)

/-- An order that trades is launched where nothing works. -/
theorem handing_launched
    {desk changed : Desk}
    {action : Action}
    {order : Venue.Order}
    (trades : order.admission?.isSome = true)
    (token : Option Token)
    (reservation : Option Reservation.Receipt)
    (vacant : desk.working.find? action.symbol = none)
    (working : changed.working = desk.working)
    (issued : changed.issued = desk.issued) :
    Handing desk (changed.launched action.symbol order token)
      [desk.issue action order reservation] := by
  have named : changed.nextDispatch = desk.nextDispatch :=
    congrArg (fun count => DispatchId.issued (count + 1)) issued
  refine .once (.launch token vacant trades rfl (fun symbol => ?_) ?_)
  · rw [find?_working_launched, working, named]
    rfl
  · show changed.issued + 1 = _
    rw [issued]

/-- A ruling hands over at most one order. -/
theorem Ruling.handing
    {round : Round}
    {desk after : Desk}
    {action : Action}
    {verdict : Risk.Verdict}
    {outcome : Outcome}
    {sent : List Dispatch}
    (coherent : desk.Coherent)
    (ruling : Ruling round desk action verdict after outcome sent) :
    Handing desk after sent := by
  cases ruling with
  | idle => exact handing_of_same rfl rfl
  | refused => exact handing_of_same rfl rfl
  | cancelled leaving state working =>
    have about := symbol_ruled action verdict
    refine .once (.cancel ?_ rfl rfl ?_ rfl)
    · show desk.cancellable? (ruled action verdict).symbol = _
      rw [about]
      exact working
    · intro symbol
      rw [find?_working_cancelling]
      show _ = if symbol = (ruled action verdict).symbol then _ else _
      rw [about]
  | entered wish kind checked unlatched directed state =>
    exact handing_launched rfl _ _
      (coherent.working_eq_none (by rw [state]; rfl)) rfl rfl
  | reduced wish kind found state =>
    exact handing_launched rfl _ _
      (coherent.working_eq_none_of_opened found state) rfl rfl
  | exited leaving spent found state =>
    have about := symbol_ruled action verdict
    rw [← about] at found ⊢
    exact handing_launched rfl _ _
      (coherent.working_eq_none_of_opened found state) rfl rfl

theorem Decided.handing
    {round : Round}
    {agenda : Agenda}
    {symbols : List Symbol}
    {desk last : Desk}
    {decisions : List Decision}
    {sent : List Dispatch}
    (run : Decided round agenda symbols desk last decisions sent) :
    Handing desk last sent := by
  induction run with
  | nil => exact handing_of_same rfl rfl
  | cons new coherent asked ruling tail hypothesis =>
    rename_i symbol rest desk after outcome sent last decisions later
    have recorded :
        Handing after
          (after.record (decisionOn round agenda desk symbol outcome)) [] :=
      handing_of_same rfl rfl
    exact (ruling.handing coherent).trans (recorded.trans hypothesis)

/-- What a position waits for trades. -/
theorem isSome_admission?_of_pendingOrder?
    {position : Position}
    {kind : Action.Kind}
    {order : Venue.Order}
    (pending : pendingOrder? position = some (kind, order)) :
    order.admission?.isSome = true := by
  unfold pendingOrder? at pending
  split at pending
  · cases pending
    rfl
  · cases pending
    rfl
  · contradiction

theorem Resent.handing
    {desk last : Desk}
    {sent : List Dispatch}
    (resent : Resent desk last sent) :
    Handing desk last sent := by
  induction resent with
  | done => exact handing_of_same rfl rfl
  | @again desk position kind order _ _ _ _ vacant pending _ hypothesis =>
    have handed :
        Handing desk (desk.launched position.symbol order none)
          [desk.issue (resentAction position kind) order none] :=
      @handing_launched desk desk (resentAction position kind) order
        (isSome_admission?_of_pendingOrder? pending) none none vacant rfl rfl
    exact handed.trans hypothesis

theorem Worked.handing
    {desk : Desk}
    {parameters : Parameters}
    {limits : Risk.Limits}
    {snapshot : Snapshot}
    {now : Instant}
    {turn : Turn}
    {summary : CycleSummary}
    (worked : Worked desk parameters limits snapshot now turn summary) :
    Handing desk turn.desk turn.outbox := by
  rcases worked with ⟨expiry, run, resending, served⟩
  rename_i registry expired decided decisions sent last resent reading tally
  have started : Handing desk (desk.collected parameters registry now) [] := by
    rcases exists_collected_eq desk parameters registry now with ⟨halt, same⟩
    rw [same]
    exact handing_of_same rfl rfl
  have ended : Handing last { last with reading, tally } [] :=
    handing_of_same rfl rfl
  have passed :=
    started.trans ((run.handing.trans resending.handing).trans ended)
  rw [List.nil_append, List.append_nil] at passed
  exact passed

/-- A cycle hands its orders over one after another. -/
theorem Coherent.handing_runCycle
    {desk : Desk}
    (coherent : desk.Coherent)
    (parameters : Parameters)
    (limits : Risk.Limits)
    (feed : Feed)
    (now : Instant) :
    Handing desk (desk.runCycle parameters limits feed none now).1.desk
      (desk.runCycle parameters limits feed none now).1.outbox := by
  have cycled := coherent.cycled parameters limits feed now
  generalize (desk.runCycle parameters limits feed none now).1 = turn
    at cycled ⊢
  cases cycled with
  | idle => exact handing_of_same rfl rfl
  | worked worked => exact worked.handing

end Desk

end MandateDesk
