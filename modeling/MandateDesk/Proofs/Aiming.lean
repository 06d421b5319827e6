import MandateDesk.Proofs.Drawing
import MandateDesk.Proofs.Handing

/-!
# What cancels aim at

A cancel aims at the entry that works on its symbol.  Whatever works there
later on is that entry still, or was handed over after the cancel.  So of two
cancels on a symbol the later one aims at the same entry as the earlier one or
at an entry that was handed over in between.

An exit that asks for a cancel is not spent on it: it stays active to close the
position should the entry be filled first.  When the entry is cancelled, the
exit is still there, and it cancels the next entry as well.
-/

namespace MandateDesk

namespace Desk

open Venue (Dispatch)

section Places

variable {handed : List Dispatch}

/-- What the last place of a longer list adds to the others. -/
theorem getElem?_concat_eq_some
    {last dispatch : Dispatch}
    {place : Nat} :
    (handed ++ [last])[place]? = some dispatch ↔
      handed[place]? = some dispatch ∨
        place = handed.length ∧ last = dispatch := by
  rw [List.getElem?_append]
  split
  · rename_i within
    exact ⟨Or.inl, fun found =>
      found.resolve_right fun ⟨same, _⟩ => absurd same (Nat.ne_of_lt within)⟩
  · rename_i beyond
    rw [List.getElem?_singleton, List.getElem?_eq_none (by omega)]
    simp only [reduceCtorEq, false_or]
    split
    · rename_i least
      simp only [Option.some.injEq]
      exact ⟨fun same => ⟨by omega, same⟩, fun found => found.2⟩
    · rename_i more
      simp only [reduceCtorEq, false_iff, not_and]
      omega

theorem lt_length_of_getElem?
    {dispatch : Dispatch}
    {place : Nat}
    (found : handed[place]? = some dispatch) :
    place < handed.length :=
  (List.getElem?_eq_some_iff.mp found).1

variable (handed) in
/-- A working order was handed over on a symbol after a place. -/
def CarriedAfter
    (place : Nat)
    (symbol : Symbol)
    (order : WorkingOrder) :
    Prop :=
  ∃ (between : Nat) (dispatch : Dispatch),
    place < between ∧ handed[between]? = some dispatch ∧
      dispatch.symbol = symbol ∧ Carries dispatch order

theorem CarriedAfter.concat
    {place : Nat}
    {symbol : Symbol}
    {order : WorkingOrder}
    (carried : CarriedAfter handed place symbol order)
    (last : Dispatch) :
    CarriedAfter (handed ++ [last]) place symbol order := by
  rcases carried with ⟨between, dispatch, later, found, rest⟩
  exact ⟨between, dispatch, later,
    getElem?_concat_eq_some.mpr (Or.inl found), rest⟩

variable (handed) in
/-- An entry on a symbol was handed over between two places. -/
def EnteredBetween
    (early late : Nat)
    (symbol : Symbol)
    (target : DispatchId) :
    Prop :=
  ∃ (between : Nat) (entry : Dispatch),
    early < between ∧ between < late ∧ handed[between]? = some entry ∧
      entry.symbol = symbol ∧ entry.id = target ∧
      entry.order.isEntry = true

theorem EnteredBetween.concat
    {early late : Nat}
    {symbol : Symbol}
    {target : DispatchId}
    (entered : EnteredBetween handed early late symbol target)
    (last : Dispatch) :
    EnteredBetween (handed ++ [last]) early late symbol target := by
  rcases entered with ⟨between, entry, later, earlier, found, rest⟩
  exact ⟨between, entry, later, earlier,
    getElem?_concat_eq_some.mpr (Or.inl found), rest⟩

/-- An entry that works was handed over before anything that comes next. -/
theorem CarriedAfter.entered
    {place : Nat}
    {symbol : Symbol}
    {order : WorkingOrder}
    (carried : CarriedAfter handed place symbol order)
    (isEntry : order.order.isEntry = true) :
    EnteredBetween handed place handed.length symbol order.dispatch := by
  rcases carried with ⟨between, dispatch, later, found, about, carries⟩
  refine ⟨between, dispatch, later, lt_length_of_getElem? found, found, about,
    carries.id.symm, ?_⟩
  rw [← carries.asked]
  exact isEntry

end Places

/-- How what works on a desk goes with the orders that were handed over. -/
structure Aimed (desk : Desk) (handed : List Dispatch) : Prop where
  /-- After a cancel its target works, or an order that came later. -/
  since : ∀ {place : Nat} {cancel : Dispatch} {target : DispatchId}
    {order : WorkingOrder},
    handed[place]? = some cancel →
    cancel.order = .cancelEntry target →
    desk.working.find? cancel.symbol = some order →
      order.dispatch = target ∨
        CarriedAfter handed place cancel.symbol order
  /-- A later cancel aims at the same entry or at one that came in between. -/
  apart : ∀ {early late : Nat} {first second : Dispatch}
    {target other : DispatchId},
    early < late →
    handed[early]? = some first →
    handed[late]? = some second →
    first.symbol = second.symbol →
    first.order = .cancelEntry target →
    second.order = .cancelEntry other →
      target = other ∨
        EnteredBetween handed early late second.symbol other

theorem aimed_nil (desk : Desk) : Aimed desk [] where
  since found := by simp at found
  apart _ found := by simp at found

section Aimed

variable {desk after : Desk} {handed sent : List Dispatch}

/-- It does not matter when orders work no more, or are marked. -/
theorem Aimed.of_still
    (aimed : Aimed desk handed)
    (still : ∀ {symbol order},
      after.working.find? symbol = some order →
        ∃ isCancelled,
          desk.working.find? symbol = some { order with isCancelled }) :
    Aimed after handed where
  since found aims working := by
    rcases still working with ⟨isCancelled, worked⟩
    rcases aimed.since found aims worked with
      same | ⟨between, dispatch, later, listed, about, carries⟩
    · exact Or.inl same
    · exact Or.inr
        ⟨between, dispatch, later, listed, about, carries.id, carries.asked⟩
  apart := aimed.apart

/-- An order that trades is what works from then on. -/
theorem Aimed.launch
    (aimed : Aimed desk handed)
    {dispatch : Dispatch}
    {token : Option Reservation.Token}
    (trades : dispatch.order.admission?.isSome = true)
    (working : ∀ symbol, after.working.find? symbol =
      if symbol = dispatch.symbol then
        some ⟨dispatch.id, dispatch.order, token, false⟩
      else desk.working.find? symbol) :
    Aimed after (handed ++ [dispatch]) := by
  -- an order that trades is no cancel, so all cancels are earlier
  have earlier {place : Nat} {cancel : Dispatch} {target : DispatchId}
      (found : (handed ++ [dispatch])[place]? = some cancel)
      (aims : cancel.order = .cancelEntry target) :
      handed[place]? = some cancel := by
    refine (getElem?_concat_eq_some.mp found).resolve_right ?_
    rintro ⟨_, rfl⟩
    simp [aims, Venue.Order.admission?] at trades
  constructor
  · intro place cancel target order found aims works
    have known := earlier found aims
    rw [working] at works
    split at works
    · rename_i about
      cases works
      exact Or.inr
        ⟨handed.length, dispatch, lt_length_of_getElem? known,
          getElem?_concat_eq_some.mpr (Or.inr ⟨rfl, rfl⟩), about.symm,
          rfl, rfl⟩
    · exact (aimed.since known aims works).imp_right (·.concat dispatch)
  · intro early late first second target other before here there about aims
      aimsAt
    exact
      (aimed.apart before (earlier here aims) (earlier there aimsAt) about aims
        aimsAt).imp_right (·.concat dispatch)

/-- A cancel aims at what works. -/
theorem Aimed.cancel
    (aimed : Aimed desk handed)
    {dispatch : Dispatch}
    {order : WorkingOrder}
    (cancellable : desk.cancellable? dispatch.symbol = some order)
    (aim : dispatch.order = .cancelEntry order.dispatch)
    (working : ∀ symbol, after.working.find? symbol =
      if symbol = dispatch.symbol then some { order with isCancelled := true }
      else desk.working.find? symbol) :
    Aimed after (handed ++ [dispatch]) := by
  rcases find?_of_cancellable? cancellable with ⟨worked, _, isEntry⟩
  have marked : Aimed after handed := by
    refine aimed.of_still fun {symbol known} works => ?_
    rw [working] at works
    split at works
    · rename_i here
      cases works
      rw [here]
      exact ⟨order.isCancelled, worked⟩
    · exact ⟨known.isCancelled, works⟩
  constructor
  · intro place cancel target known found aims works
    rcases getElem?_concat_eq_some.mp found with listed | ⟨_, rfl⟩
    · exact (marked.since listed aims works).imp_right (·.concat dispatch)
    · rw [working, if_pos rfl] at works
      cases works
      rw [aim] at aims
      cases aims
      exact Or.inl rfl
  · intro early late first second target other before here there about aims
      aimsAt
    have within {place : Nat} {cancel : Dispatch}
        (found : (handed ++ [dispatch])[place]? = some cancel)
        (few : place < handed.length) : handed[place]? = some cancel :=
      (getElem?_concat_eq_some.mp found).resolve_right fun ⟨same, _⟩ =>
        absurd same (Nat.ne_of_lt few)
    rcases getElem?_concat_eq_some.mp there with listed | ⟨rfl, rfl⟩
    · have few := before.trans (lt_length_of_getElem? listed)
      exact
        (aimed.apart before (within here few) listed about aims
          aimsAt).imp_right (·.concat dispatch)
    · -- the earlier cancel knows of what works, at which the new one aims
      rw [aim] at aimsAt
      cases aimsAt
      rcases aimed.since (within here before) aims (about ▸ worked) with
        same | carried
      · exact Or.inl same.symm
      · rw [about] at carried
        exact Or.inr ((carried.entered isEntry).concat dispatch)

/-- Orders that are handed over one after another go with what works. -/
theorem Aimed.handing
    (aimed : Aimed desk handed)
    (handing : Handing desk after sent) :
    Aimed after (handed ++ sent) := by
  induction handing generalizing handed with
  | once hands =>
    cases hands with
    | nothing working =>
      rw [List.append_nil]
      refine aimed.of_still fun {symbol order} works => ?_
      rw [working] at works
      exact ⟨order.isCancelled, works⟩
    | launch token _ trades _ working => exact aimed.launch trades working
    | cancel cancellable aims _ working =>
      exact aimed.cancel cancellable aims working
  | trans _ _ former latter =>
    rw [← List.append_assoc]
    exact latter (former aimed)

end Aimed

end Desk

namespace Desk

/-- Where identifiers differ, none of them is registered twice. -/
theorem registrations_le_one
    {registered : List Mandate}
    (distinct : (registered.map Mandate.id).Nodup)
    (id : Identifier) :
    registrations registered id ≤ 1 := by
  have counted := List.nodup_iff_count_le_one.mp distinct id
  rw [List.count_eq_countP, List.countP_map] at counted
  exact counted

namespace Draws

variable {registry : Registry} {registered : List Mandate}
variable {handed : List Venue.Dispatch} {id : Identifier}

/-- Whatever is handed over for one mandate is on the symbol of the mandate. -/
theorem symbol_eq
    (draws : Draws Registry.empty registry registered handed)
    (distinct : (registered.map Mandate.id).Nodup)
    {first second : Venue.Dispatch}
    (here : first ∈ handed)
    (there : second ∈ handed)
    (carries : first.action.mandate = some id)
    (carriesToo : second.action.mandate = some id) :
    first.symbol = second.symbol := by
  have drawn {dispatch : Venue.Dispatch}
      (member : dispatch ∈ handed)
      (named : dispatch.action.mandate = some id) :
      ∃ mandate ∈ registered, mandate.id = id ∧
        mandate.symbol = dispatch.symbol := by
    rcases draws.drawn member named with ⟨mandate, active | listed, rest⟩
    · simp [Registry.active?, Registry.get?, Registry.empty] at active
    · exact ⟨mandate, listed, rest⟩
  rcases drawn here carries with ⟨mandate, listed, named, about⟩
  rcases drawn there carriesToo with ⟨known, member, same, aboutToo⟩
  have one : mandate = known :=
    List.inj_on_of_nodup_map distinct listed member (named.trans same.symm)
  rw [← about, ← aboutToo, one]

/-- Before anything is handed over for a mandate, it was not spent. -/
theorem unspent
    (draws : Draws Registry.empty registry registered handed)
    (distinct : (registered.map Mandate.id).Nodup)
    {place late : Nat}
    {known dispatch : Venue.Dispatch}
    (before : place < late)
    (here : handed[place]? = some known)
    (there : handed[late]? = some dispatch)
    (carries : dispatch.action.mandate = some id) :
    known.spends id = false := by
  have few : Registry.empty.uses id + registrations registered id ≤ 1 := by
    rw [Registry.uses_of_inactive rfl, Nat.zero_add]
    exact registrations_le_one distinct id
  rcases List.getElem?_eq_some_iff.mp here with ⟨near, found⟩
  rcases List.getElem?_eq_some_iff.mp there with ⟨far, last⟩
  have apart :=
    List.pairwise_iff_getElem.mp (draws.last id few) place late near far
      before
  rw [found, last] at apart
  cases spends : known.spends id with
  | false => rfl
  | true => exact absurd carries (apart spends)

end Draws

end Desk

/-- In a run all cancels go with what works. -/
theorem Course.Reached.aimed
    {course : Course}
    (reached : course.Reached) :
    Desk.Aimed course.desk course.handed := by
  induction reached with
  | blank store => exact Desk.aimed_nil _
  | recovered ran => exact Desk.aimed_nil _
  | @step course _ earlier step aimed =>
    have same {desk : Desk} (working : desk.working = course.desk.working) :
        Desk.Aimed desk course.handed :=
      aimed.of_still fun {symbol order} works =>
        ⟨order.isCancelled, working ▸ works⟩
    cases step with
    | submit registered => exact same rfl
    | cancelSource source => exact same rfl
    | cycle parameters limits feed now =>
      exact aimed.handing
        (earlier.coherent.handing_runCycle parameters limits feed now)
    | take => exact aimed
    | @refuse dispatch rest =>
      refine aimed.of_still fun {symbol order} works => ?_
      simp only [refusing, spurned] at works
      split at works
      · rename_i target asked
        rcases (Desk.issues_keepEntry course.desk dispatch.symbol
            target).origin works with
          ⟨known, isCancelled, worked, same⟩ | ⟨_, member, _⟩
        · subst same
          exact ⟨known.isCancelled, worked⟩
        · simp at member
      · exact ⟨order.isCancelled, works⟩
    | report report now =>
      exact aimed.of_still fun {symbol order} works =>
        ⟨order.isCancelled,
          ((earlier.coherent.settled report now).still works).1⟩
    | keep => exact same rfl

namespace History

open Venue (Dispatch)

/--
Where no identifier is registered twice, two cancels for the same mandate are
on the same symbol, and the later one aims at the same entry as the earlier one
or at an entry that was handed over in between.  No order that trades for the
mandate goes before a cancel: until then the mandate is kept for a position to
close.
-/
theorem cancels_for_one_mandate
    {history : History}
    (reached : history.Reached)
    (once : (history.registered.map Mandate.id).Nodup)
    {early late : Nat}
    {first second : Dispatch}
    {target other : DispatchId}
    {id : Identifier}
    (before : early < late)
    (here : history.handed[early]? = some first)
    (there : history.handed[late]? = some second)
    (aims : first.order = .cancelEntry target)
    (aimsAt : second.order = .cancelEntry other)
    (carries : first.action.mandate = some id)
    (carriesToo : second.action.mandate = some id) :
    first.symbol = second.symbol ∧
      (target = other ∨
        Desk.EnteredBetween history.handed early late second.symbol other) ∧
      ∀ place known,
        place < late →
        history.handed[place]? = some known →
        known.spends id = false := by
  rcases reached.exists_whole with ⟨whole, shortens⟩
  have course := shortens.unbroken.course
  have distinct : (whole.registered.map Mandate.id).Nodup :=
    once.sublist (shortens.registered.sublist.map _)
  -- what was handed over stands at the same places in the whole run
  have same {place : Nat} (within : place < history.handed.length) :
      whole.handed[place]? = history.handed[place]? := by
    rcases shortens.handed with ⟨more, same⟩
    rw [← same, List.getElem?_append_left within]
  have grown {place : Nat} {dispatch : Dispatch}
      (found : history.handed[place]? = some dispatch) :
      whole.handed[place]? = some dispatch :=
    (same (Desk.lt_length_of_getElem? found)).trans found
  have together : first.symbol = second.symbol :=
    course.draws.symbol_eq distinct (List.mem_of_getElem? (grown here))
      (List.mem_of_getElem? (grown there)) carries carriesToo
  refine ⟨together, ?_, fun place known sooner found => ?_⟩
  · refine (course.aimed.apart before (grown here) (grown there) together
      aims aimsAt).imp_right ?_
    rintro ⟨between, entry, later, earlier, found, rest⟩
    rw [same (earlier.trans (Desk.lt_length_of_getElem? there))] at found
    exact ⟨between, entry, later, earlier, found, rest⟩
  · exact course.draws.unspent distinct sooner (grown found) (grown there)
      carriesToo

namespace Sample

open Desk.Sample

/-- A second wish to enter. -/
def returning : Mandate :=
  wish ⟨4, by decide⟩ .entry

/-- The run in which an exit meets an entry and, once it is gone, another. -/
def enteredTwice : History :=
  (beginning Desk.Sample.beginning).through
    [(moment 1, .submit entry),
      (moment 1, .cycle),
      (moment 1, .submit exit),
      (moment 1, .cycle),
      (moment 1, .report ⟨.issued 1, symbol, .cancelled "asked for"⟩),
      (moment 1, .submit returning),
      (moment 1, .cycle),
      (moment 1, .cycle)]

theorem reached_enteredTwice : enteredTwice.Reached :=
  (Reached.start (.blank _ _ _ _ _)).through _

/-- A cancel that is asked for by the exit of the run. -/
def leavingEntry (serial target : Nat) : Dispatch :=
  ⟨.issued serial, symbol, .cancelEntry (.issued target),
    Action.ofMandate exit, none⟩

/-- Between the cancels for the exit the second entry was handed over. -/
theorem cancels_for_one_mandate_enteredTwice :
    enteredTwice.handed[1]? = some (leavingEntry 2 1) ∧
      enteredTwice.handed[3]? = some (leavingEntry 4 3) ∧
      (leavingEntry 2 1).symbol = (leavingEntry 4 3).symbol ∧
      (DispatchId.issued 1 = .issued 3 ∨
        Desk.EnteredBetween enteredTwice.handed 1 3 symbol (.issued 3)) ∧
      ∀ place known,
        place < 3 →
        enteredTwice.handed[place]? = some known →
        known.spends exit.id = false :=
  ⟨by decide +kernel, by decide +kernel,
    @cancels_for_one_mandate enteredTwice reached_enteredTwice
      (by decide +kernel) 1 3 (leavingEntry 2 1) (leavingEntry 4 3)
      (.issued 1) (.issued 3) exit.id (by decide) (by decide +kernel)
      (by decide +kernel) rfl rfl rfl rfl⟩

/-- One exit cancels two entries, one after the other. -/
theorem exit_cancels_two_entries :
    enteredTwice.Reached ∧
      (enteredTwice.registered.map Mandate.id).Nodup ∧
      leavingEntry 2 1 ∈ enteredTwice.handed ∧
      leavingEntry 4 3 ∈ enteredTwice.handed ∧
      (leavingEntry 2 1).action.mandate = some exit.id ∧
      (leavingEntry 4 3).action.mandate = some exit.id ∧
      (leavingEntry 2 1).order ≠ (leavingEntry 4 3).order :=
  ⟨reached_enteredTwice, by decide +kernel, by decide +kernel,
    by decide +kernel, by decide +kernel, by decide +kernel,
    by decide +kernel⟩

end Sample

end History

end MandateDesk
