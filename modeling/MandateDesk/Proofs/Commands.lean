import MandateDesk.Proofs.Reachability
import MandateDesk.Proofs.Settling

/-!
# What commands do to the book and to the venue

Most commands leave the book, the working orders and the holdings of the venue
as they are: `Command.isQuiet` says which.  A report does to the desk of a
session what it does to a desk, as long as the session goes on, and nothing
afterwards.
-/

namespace MandateDesk.Session

/-- A command that neither runs a cycle nor brings an answer of the venue. -/
def Command.isQuiet : Command → Bool
  | .cycle => false
  | .report _ => false
  | .fill .. => false
  | .fillPartially .. => false
  | .reject .. => false
  | _ => true

/--
Two sessions with the same positions and orders, and the same holdings.  The
first one goes on if the second one does.
-/
structure Keeps (before after : Session) : Prop where
  book : after.desk.book = before.desk.book
  working : after.desk.working = before.desk.working
  issued : after.desk.issued = before.desk.issued
  holdings : after.venue.holdings = before.venue.holdings
  running : after.phase.isRunning = true → before.phase.isRunning = true

theorem Keeps.refl (session : Session) : Keeps session session :=
  ⟨rfl, rfl, rfl, rfl, id⟩

/-- A quiet command changes no position, no order and no holding. -/
theorem keeps_step
    (session : Session)
    (now : Instant)
    {command : Command}
    (quiet : command.isQuiet = true) :
    Keeps session (session.step now command).session ∧
      (session.step now command).sent = [] := by
  cases command with
  | submit mandate =>
    unfold Session.step Session.submit
    simp only
    split
    · exact ⟨.refl session, rfl⟩
    · exact ⟨⟨rfl, rfl, rfl, rfl, id⟩, rfl⟩
  | cancelSource source => exact ⟨⟨rfl, rfl, rfl, rfl, id⟩, rfl⟩
  | cycle => contradiction
  | report report => contradiction
  | fill dispatch price => contradiction
  | fillPartially dispatch quantity price => contradiction
  | reject dispatch reason => contradiction
  | publish snapshot => exact ⟨⟨rfl, rfl, rfl, rfl, id⟩, rfl⟩
  | refuseNext => exact ⟨⟨rfl, rfl, rfl, rfl, id⟩, rfl⟩
  | closeVenue => exact ⟨⟨rfl, rfl, rfl, rfl, id⟩, rfl⟩
  | breakVenue => exact ⟨⟨rfl, rfl, rfl, rfl, id⟩, rfl⟩
  | failStore isFailing => exact ⟨⟨rfl, rfl, rfl, rfl, id⟩, rfl⟩
  | halt reason => exact ⟨⟨rfl, rfl, rfl, rfl, id⟩, rfl⟩
  | clearHalt => exact ⟨⟨rfl, rfl, rfl, rfl, id⟩, rfl⟩
  | shutDown =>
    unfold Session.step Session.shutDown
    simp only
    split
    · rename_i running
      exact ⟨⟨rfl, rfl, rfl, rfl, fun _ => running⟩, rfl⟩
    · exact ⟨.refl session, rfl⟩

theorem settle_of_ended
    {session : Session}
    (ended : session.phase.isRunning = false)
    (report : Venue.Report)
    (now : Instant) :
    (session.settle report now).1 = session := by
  unfold Session.settle
  simp [ended]

/-- A session that goes on takes a report as its desk does. -/
theorem exists_settle_eq
    {session : Session}
    (running : session.phase.isRunning = true)
    (report : Venue.Report)
    (now : Instant) :
    ∃ halt phase,
      (session.settle report now).1 =
        { session with
          desk := { (session.desk.settle report now).1 with halt }
          phase } := by
  unfold Session.settle
  rw [if_pos running]
  generalize session.desk.settle report now = result
  rcases result with ⟨desk, fault | transition⟩
  · simp only
    split
    · exact ⟨_, _, rfl⟩
    · exact ⟨desk.halt, session.phase, rfl⟩
  · exact ⟨desk.halt, session.phase, rfl⟩

theorem settle_of_unnamed
    {session : Session}
    (coherent : session.desk.Coherent)
    {report : Venue.Report}
    (unnamed : ∀ order,
      session.desk.working.find? report.symbol = some order →
        order.dispatch ≠ report.dispatch)
    (now : Instant) :
    Keeps session (session.settle report now).1 := by
  cases running : session.phase.isRunning with
  | false =>
    rw [settle_of_ended running]
    exact .refl session
  | true =>
    rcases exists_settle_eq running report now with ⟨halt, phase, settled⟩
    have listed := coherent.settled report now
    rcases listed.unnamed unnamed with ⟨book, working⟩
    rw [settled]
    exact ⟨book, working, listed.issued, rfl, fun _ => running⟩

/-- A report changes nothing that concerns another symbol. -/
theorem settle_elsewhere
    {session : Session}
    (coherent : session.desk.Coherent)
    (report : Venue.Report)
    (now : Instant)
    {symbol : Symbol}
    (apart : symbol ≠ report.symbol) :
    (session.settle report now).1.desk.book.get? symbol =
        session.desk.book.get? symbol ∧
      (session.settle report now).1.desk.working.find? symbol =
        session.desk.working.find? symbol := by
  cases running : session.phase.isRunning with
  | false =>
    rw [settle_of_ended running]
    exact ⟨rfl, rfl⟩
  | true =>
    rcases exists_settle_eq running report now with ⟨halt, phase, settled⟩
    rw [settled]
    exact (coherent.settled report now).elsewhere apart

end MandateDesk.Session
