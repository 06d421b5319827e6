import MandateDesk.Desk.Cycle
import MandateDesk.Desk.Settlement
import MandateDesk.Reconciliation

/-!
# Sessions

A session is a desk at work with the feed that it watches and the venue that
it trades at. It starts by reconciling its book with the venue, and ends when
it is shut down or after a fatal fault; it takes neither cycles nor reports
from then on, while mandates and the halt latch can still be worked on.

The orders of a cycle reach the venue in the order in which they were handed
over. What the venue refuses is settled as rejected once the cycle is over;
an entry whose cancel is refused may be asked for again.

A venue that breaks down takes with it the stage that hands orders over. The
orders that wait by then are lost, and the session ends.
-/

namespace MandateDesk

open Desk (CycleEnd CycleSummary Parameters Turn)

namespace Session

/-- Whether a session goes on. -/
inductive Phase where
  /-- It takes cycles and reports. -/
  | running
  /-- It came to an end, or was stopped by a fault. -/
  | ended (result : Except Fault Unit)
  /-- It broke down in the middle of a cycle. -/
  | brokeDown

/-- Whether cycles and reports are taken in a phase. -/
def Phase.isRunning : Phase → Bool
  | running => true
  | _ => false

end Session

/-- A desk at work. -/
structure Session where
  /-- The desk. -/
  desk : Desk
  /-- How it works. -/
  parameters : Parameters
  /-- Its limits. -/
  limits : Risk.Limits
  /-- The market data that it watches. -/
  feed : Feed
  /-- The venue that it trades at. -/
  venue : PaperVenue
  /-- Whether the venue breaks down on the next order. -/
  isBroken : Bool
  /-- Whether it goes on. -/
  phase : Session.Phase

namespace Session

/-- A session at its beginning, with a desk. -/
def initial
    (parameters : Parameters)
    (limits : Risk.Limits)
    (genesis : Snapshot)
    (venue : PaperVenue)
    (desk : Desk) :
    Session where
  desk
  parameters
  limits
  feed := Feed.start genesis
  venue
  isBroken := false
  phase := .running

/-- Starts a session: its book is what the store and the venue agree on. -/
def start
    (parameters : Parameters)
    (limits : Risk.Limits)
    (genesis : Snapshot)
    (venue : PaperVenue)
    (store : Store)
    (now : Instant) :
    Except Fault (Session × Reconciliation.Summary) :=
  match Reconciliation.run store venue Book.empty now with
  | (_, _, .error fault) => .error fault
  | (saved, book, .ok summary) =>
    .ok
      (initial parameters limits genesis venue { Desk.blank saved with book },
        summary)

/-- A session that a fatal fault ends. -/
def stop (session : Session) (fault : Fault) (now : Instant) : Session :=
  { session with
    desk := session.desk.trip (Desk.haltReason fault) now
    phase := .ended (.error fault) }

/-- Settles a report. -/
def settle
    (session : Session)
    (report : Venue.Report)
    (now : Instant) :
    Session × Except Fault (Option Position.Transition) :=
  if session.phase.isRunning then
    match session.desk.settle report now with
    | (desk, .ok transition) => ({ session with desk }, .ok transition)
    | (desk, .error fault) =>
      let next := { session with desk }
      if fault.isFatal then
        (next.stop fault now, .error (.halted (fault.message .plain)))
      else (next, .error fault)
  else (session, .error (.channelClosed .command))

/-- How far the orders of a cycle have come. -/
structure Delivery where
  /-- The session as it stands. -/
  session : Session
  /-- The orders that reached the venue, in order. -/
  sent : List Venue.Dispatch
  /-- Reports on the orders that were refused, in order. -/
  refused : List Venue.Report

/-- Brings one order to the venue. -/
def Delivery.next
    (delivery : Delivery)
    (dispatch : Venue.Dispatch) :
    Delivery :=
  let session := delivery.session
  match session.venue.execute dispatch with
  | (venue, .ok ()) =>
    { delivery with
      session := { session with venue }
      sent := delivery.sent ++ [dispatch] }
  | (venue, .error fault) =>
    match dispatch.order with
    | .cancelEntry target =>
      let desk := session.desk.keepEntry dispatch.symbol target
      { delivery with session := { session with venue, desk } }
    | _ =>
      let report := PaperVenue.reject dispatch (fault.message .plain)
      { delivery with
        session := { session with venue }
        refused := delivery.refused ++ [report] }

/-- Brings orders to the venue and settles those that are refused. -/
def deliver
    (session : Session)
    (outbox : List Venue.Dispatch)
    (now : Instant) :
    Session × List Venue.Dispatch :=
  let delivery := outbox.foldl Delivery.next ⟨session, [], []⟩
  let settled :=
    delivery.refused.foldl (fun known report => (known.settle report now).1)
      delivery.session
  (settled, delivery.sent)

/-- The number of orders that a cycle can hand over, if it is bounded. -/
def room (session : Session) : Option Nat :=
  if session.isBroken then some (max session.parameters.channelCapacity 1)
  else none

/-- Brings the orders of a cycle to a venue that may be broken. -/
def release
    (session : Session)
    (outbox : List Venue.Dispatch)
    (now : Instant) :
    Session × List Venue.Dispatch :=
  if !session.isBroken then session.deliver outbox now
  else if outbox.isEmpty || !session.phase.isRunning then (session, [])
  else (session.stop (.stageStopped .taskFailed) now, [])

/-- Ends a cycle. -/
def conclude
    (session : Session)
    (now : Instant) :
    CycleEnd → Session × Except Fault CycleSummary
  | .done summary => (session, .ok summary)
  | .stopped fault =>
    (session.stop fault now, .error (.halted (fault.message .plain)))
  | .brokeDown =>
    ({ session with phase := .brokeDown }, .error (.channelClosed .reply))

/-- What came of a cycle. -/
structure Completion where
  /-- The session after it. -/
  session : Session
  /-- The orders that were handed over, in order. -/
  handed : List Venue.Dispatch
  /-- Those of them that reached the venue, in order. -/
  sent : List Venue.Dispatch
  /-- Its summary, or the fault that the one who asked for it is told. -/
  result : Except Fault CycleSummary

/-- Runs a cycle and brings its orders to the venue. -/
def runCycle (session : Session) (now : Instant) : Completion :=
  if session.phase.isRunning then
    let (turn, ending) :=
      session.desk.runCycle session.parameters session.limits session.feed
        session.room now
    let decided :=
      { session with desk := turn.desk, feed := session.feed.read }
    let (concluded, result) := decided.conclude now ending
    let (delivered, sent) := concluded.release turn.outbox now
    ⟨delivered, turn.outbox, sent, result⟩
  else ⟨session, [], [], .error (.channelClosed .command)⟩

/-- A desk that decides at intervals runs its first cycle at once. -/
def begin
    (session : Session)
    (now : Instant) :
    Session × List Venue.Dispatch :=
  if session.parameters.cycleInterval = 0 then (session, [])
  else
    let completion := session.runCycle now
    (completion.session, completion.sent)

/-- What is said of a desk that is shut down. -/
def farewell (halt : Halt) : Except Fault Unit :=
  match halt.reason? with
  | none => .ok ()
  | some reason => .error (.halted reason.text)

/-- Shuts a session down. -/
def shutDown (session : Session) : Session × Except Fault Unit :=
  if session.phase.isRunning then
    let result := farewell session.desk.halt
    ({ session with phase := .ended result }, result)
  else (session, .error (.channelClosed .command))

end Session

end MandateDesk
