import MandateDesk.Proofs.Contest
import MandateDesk.Proofs.Gating

/-!
# What a cycle does

On market data that is fresh a cycle either breaks down before its first
decision, or works: it drops the mandates that outlived their time, runs the
gate over the rest and returns a summary.  `Worked` names the desks in between,
so that a property of cycles is a property of a run of decisions.

Whatever the market data, a cycle leaves behind what `Cycled` lists.  What
every cycle keeps is read off that list, as is here that the desk stays
coherent.
-/

namespace MandateDesk.Desk

/-! ## The stages of a cycle -/

theorem exists_tripOverdue_eq
    (desk : Desk)
    (timeout : Nat)
    (now : Instant) :
    ∃ halt, desk.tripOverdue timeout now = { desk with halt } := by
  unfold tripOverdue
  split
  · exact ⟨desk.halt, rfl⟩
  · exact ⟨_, rfl⟩

/-- The desk that the gate of a cycle finds. -/
def collected
    (desk : Desk)
    (parameters : Parameters)
    (registry : Registry)
    (now : Instant) :
    Desk :=
  { desk.tripOverdue parameters.reservationTimeout now with registry }

/-- What a cycle decides by. -/
def roundOf
    (desk : Desk)
    (parameters : Parameters)
    (limits : Risk.Limits)
    (snapshot : Snapshot)
    (now : Instant) :
    Round where
  cycle := desk.tally.cycles + 1
  version := snapshot.version
  view := ⟨limits, snapshot.account, snapshot.prices⟩
  holder := parameters.holder
  now

/-- What the gate of a cycle works off. -/
def agendaOf
    (desk : Desk)
    (parameters : Parameters)
    (limits : Risk.Limits)
    (snapshot : Snapshot)
    (registry : Registry)
    (now : Instant) :
    Agenda :=
  let found := desk.collected parameters registry now
  agenda (desk.roundOf parameters limits snapshot now) found.book
    (found.arbitrate parameters.aging now)

/-- All that a gate finds changed is the latch, perhaps, and the registry. -/
theorem exists_collected_eq
    (desk : Desk)
    (parameters : Parameters)
    (registry : Registry)
    (now : Instant) :
    ∃ halt,
      desk.collected parameters registry now =
        { desk with halt, registry } := by
  rcases exists_tripOverdue_eq desk parameters.reservationTimeout now with
    ⟨halt, tripped⟩
  refine ⟨halt, ?_⟩
  unfold collected
  rw [tripped]

theorem book_collected
    (desk : Desk)
    (parameters : Parameters)
    (registry : Registry)
    (now : Instant) :
    (desk.collected parameters registry now).book = desk.book := by
  rcases exists_collected_eq desk parameters registry now with ⟨halt, same⟩
  rw [same]

theorem Coherent.collected
    {desk : Desk}
    (coherent : desk.Coherent)
    {registry : Registry}
    (consistent : registry.Consistent)
    (parameters : Parameters)
    (now : Instant) :
    (desk.collected parameters registry now).Coherent := by
  rcases exists_collected_eq desk parameters registry now with ⟨halt, same⟩
  rw [same]
  exact ⟨coherent.keyed, coherent.cell, consistent⟩

/-! ## Cycles that work -/

/-- The summary of a cycle on fresh market data that did its work. -/
def CycleEnd.summary? : CycleEnd → Option CycleSummary
  | .done summary => if summary.stale then none else some summary
  | _ => none

theorem CycleEnd.exists_of_summary?
    {ending : CycleEnd}
    (present : ending.summary?.isSome = true) :
    ∃ summary, ending = .done summary ∧ summary.stale = false := by
  cases ending with
  | done summary =>
    refine ⟨summary, rfl, ?_⟩
    cases stale : summary.stale with
    | true => simp [summary?, stale] at present
    | false => rfl
  | stopped fault => simp [summary?] at present
  | brokeDown => simp [summary?] at present

/-- A cycle that did its work, with the desks in between. -/
inductive Worked (desk : Desk) (parameters : Parameters)
    (limits : Risk.Limits) (snapshot : Snapshot) (now : Instant) :
    Turn → CycleSummary → Prop where
  | intro {registry expired decided decisions sent last resent reading tally}
      (expiry :
        expire desk.registry parameters.mandateLifetime now =
          some (registry, expired))
      (run :
        Decided (desk.roundOf parameters limits snapshot now)
          (desk.agendaOf parameters limits snapshot registry now)
          (desk.agendaOf parameters limits snapshot registry now).symbols
          (desk.collected parameters registry now) decided decisions sent)
      (resending : Resent decided last resent)
      (served : ∀ {symbol position},
        last.book.get? symbol = some position →
          position.state.hasPendingOrder = true →
            (last.working.find? symbol).isSome = true) :
      Worked desk parameters limits snapshot now
        ⟨{ last with reading, tally }, sent ++ resent, none⟩
        ⟨desk.tally.cycles + 1, some snapshot.version, false, expired,
          decisions⟩

/-- On fresh market data a cycle breaks down at once or does its work. -/
theorem runCycle_of_fresh
    {desk : Desk}
    (coherent : desk.Coherent)
    (parameters : Parameters)
    (limits : Risk.Limits)
    {feed : Feed}
    {snapshot : Snapshot}
    {now : Instant}
    (fresh : feed.fresh parameters.oldestSnapshot now = .ok snapshot) :
    (expire desk.registry parameters.mandateLifetime now = none ∧
      desk.runCycle parameters limits feed none now =
        (⟨desk.tripOverdue parameters.reservationTimeout now, [], none⟩,
          .brokeDown)) ∨
    ∃ turn summary,
      Worked desk parameters limits snapshot now turn summary ∧
      desk.runCycle parameters limits feed none now =
        (turn, .done summary) := by
  rcases exists_tripOverdue_eq desk parameters.reservationTimeout now with
    ⟨halt, tripped⟩
  unfold runCycle decideOn
  simp only [fresh, tripped]
  cases expiry : expire desk.registry parameters.mandateLifetime now with
  | none => exact Or.inl ⟨rfl, rfl⟩
  | some left =>
    rcases left with ⟨registry, expired⟩
    right
    have consistent := consistent_expire coherent.registry expiry
    have ready := coherent.collected consistent parameters now
    have asked (symbol : Symbol) :
        Asked (desk.collected parameters registry now) symbol
          ((desk.agendaOf parameters limits snapshot registry
            now).actionOf symbol) :=
      asked_actionOf ready.registry _ parameters.aging now symbol
    rcases exists_gate _ ready asked [] with
      ⟨decided, decisions, sent, last, resent, run, resending, served, ran⟩
    have gated := ran
    simp only [collected, roundOf, tripped, List.nil_append] at gated
    simp only [Turn.on, gated]
    exact ⟨_, _, .intro expiry run resending served, rfl⟩

/-- On market data that is too old a cycle decides nothing. -/
theorem runCycle_of_stale
    (desk : Desk)
    (parameters : Parameters)
    (limits : Risk.Limits)
    {feed : Feed}
    {now : Instant}
    {fault : Fault}
    (old : feed.fresh parameters.oldestSnapshot now = .error fault) :
    ∃ halt tally,
      desk.runCycle parameters limits feed none now =
        (⟨{ desk with halt, tally }, [], none⟩,
          .done ⟨desk.tally.cycles + 1, some feed.version, true, 0, []⟩) := by
  rcases exists_tripOverdue_eq desk parameters.reservationTimeout now with
    ⟨halt, tripped⟩
  unfold runCycle
  simp only [old, tripped, finish, Turn.on]
  exact ⟨halt, _, rfl⟩

/--
A summary that does not speak of old market data is that of a cycle that
worked.
-/
theorem worked_of_done
    {desk : Desk}
    (coherent : desk.Coherent)
    {parameters : Parameters}
    {limits : Risk.Limits}
    {feed : Feed}
    {now : Instant}
    {turn : Turn}
    {summary : CycleSummary}
    (done :
      desk.runCycle parameters limits feed none now = (turn, .done summary))
    (current : summary.stale = false) :
    ∃ snapshot,
      feed.fresh parameters.oldestSnapshot now = .ok snapshot ∧
      Worked desk parameters limits snapshot now turn summary := by
  cases fresh : feed.fresh parameters.oldestSnapshot now with
  | error fault =>
    rcases runCycle_of_stale desk parameters limits fresh with
      ⟨halt, tally, ran⟩
    rw [done] at ran
    cases ran
    contradiction
  | ok snapshot =>
    refine ⟨snapshot, rfl, ?_⟩
    rcases runCycle_of_fresh coherent parameters limits fresh with
      ⟨_, ran⟩ | ⟨turn', summary', worked, ran⟩
    · rw [done] at ran
      cases ran
    · rw [done] at ran
      cases ran
      exact worked

/-! ## What every cycle keeps -/

theorem Worked.coherent
    {desk : Desk}
    {parameters : Parameters}
    {limits : Risk.Limits}
    {snapshot : Snapshot}
    {now : Instant}
    {turn : Turn}
    {summary : CycleSummary}
    (worked : Worked desk parameters limits snapshot now turn summary) :
    turn.desk.Coherent := by
  rcases worked with ⟨expiry, run, resending, served⟩
  exact resending.coherent.of_same rfl rfl rfl rfl

/-- All that a cycle can leave behind. -/
inductive Cycled (desk : Desk) (parameters : Parameters)
    (limits : Risk.Limits) (now : Instant) : Turn → Prop where
  /-- It decided nothing: the market data is too old, or it broke down. -/
  | idle {halt tally} :
      Cycled desk parameters limits now ⟨{ desk with halt, tally }, [], none⟩
  /-- It did its work. -/
  | worked {snapshot turn summary}
      (worked : Worked desk parameters limits snapshot now turn summary) :
      Cycled desk parameters limits now turn

/-- However a cycle ends, it has decided nothing or done its work. -/
theorem Coherent.cycled
    {desk : Desk}
    (coherent : desk.Coherent)
    (parameters : Parameters)
    (limits : Risk.Limits)
    (feed : Feed)
    (now : Instant) :
    Cycled desk parameters limits now
      (desk.runCycle parameters limits feed none now).1 := by
  cases fresh : feed.fresh parameters.oldestSnapshot now with
  | error fault =>
    rcases runCycle_of_stale desk parameters limits fresh with
      ⟨halt, tally, ran⟩
    rw [ran]
    exact .idle
  | ok snapshot =>
    rcases runCycle_of_fresh coherent parameters limits fresh with
      ⟨_, ran⟩ | ⟨turn, summary, worked, ran⟩
    · rcases exists_tripOverdue_eq desk parameters.reservationTimeout now with
        ⟨halt, tripped⟩
      rw [ran, tripped]
      exact .idle
    · rw [ran]
      exact .worked worked

/-- A cycle leaves the desk coherent, however it ends. -/
theorem Coherent.runCycle
    {desk : Desk}
    (coherent : desk.Coherent)
    (parameters : Parameters)
    (limits : Risk.Limits)
    (feed : Feed)
    (now : Instant) :
    (desk.runCycle parameters limits feed none now).1.desk.Coherent := by
  have cycled := coherent.cycled parameters limits feed now
  generalize (desk.runCycle parameters limits feed none now).1 = turn
    at cycled ⊢
  cases cycled with
  | idle => exact coherent.of_same rfl rfl rfl rfl
  | worked worked => exact worked.coherent

end MandateDesk.Desk
