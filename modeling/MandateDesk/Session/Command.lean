import MandateDesk.Session.Basic

/-!
# Commands

All that can be done to a session. `step` carries out one command; a session
is in a state that can occur if a list of commands leads to it from its start.

The venue answers an order by a fill, a partial fill or a rejection, which is
settled at once.
-/

namespace MandateDesk.Session

open Desk (CycleSummary)

/-- What can be done to a session. -/
inductive Command where
  /-- Registers a mandate. -/
  | submit (mandate : Mandate)
  /-- Cancels the active mandates of a source. -/
  | cancelSource (source : String)
  /-- Runs a cycle. -/
  | cycle
  /-- Takes a report. -/
  | report (report : Venue.Report)
  /-- The venue fills an order. -/
  | fill (dispatch : Venue.Dispatch) (price : Decimal)
  /-- The venue fills a quantity of an order. -/
  | fillPartially (dispatch : Venue.Dispatch) (quantity price : Decimal)
  /-- The venue rejects an order. -/
  | reject (dispatch : Venue.Dispatch) (reason : String)
  /-- New market data is observed. -/
  | publish (snapshot : Snapshot)
  /-- The venue is to refuse the next order. -/
  | refuseNext
  /-- The receiver of the venue's orders goes away. -/
  | closeVenue
  /-- The venue is to break down on the next order. -/
  | breakVenue
  /-- The store fails or works from now on. -/
  | failStore (isFailing : Bool)
  /-- Trips the latch for a reason. -/
  | halt (reason : String)
  /-- Opens the latch. -/
  | clearHalt
  /-- Shuts the session down. -/
  | shutDown

/-- The answer to a command. -/
inductive Reply where
  /-- A mandate was registered. -/
  | registered (id : Identifier)
  /-- Mandates were cancelled. -/
  | cancelled (ids : List Identifier)
  /-- A cycle did its work. -/
  | summary (summary : CycleSummary)
  /-- A report was taken. -/
  | settled (transition : Option Position.Transition)
  /-- Market data was published under a version. -/
  | published (version : Nat)
  /-- The command was carried out. -/
  | done
  /-- The command was not carried out. -/
  | failed (fault : Fault)

/-- What came of a command. -/
structure Response where
  /-- The session after it. -/
  session : Session
  /-- The orders that were handed over, in order. -/
  handed : List Venue.Dispatch
  /-- Those of them that reached the venue, in order. -/
  sent : List Venue.Dispatch
  /-- The answer. -/
  reply : Reply

/-- A reply, or the fault in its place. -/
def Reply.ofResult {α : Type} (reply : α → Reply) : Except Fault α → Reply
  | .ok value => reply value
  | .error fault => .failed fault

/-- The response to a command that hands over no orders. -/
def replying (session : Session) (reply : Reply) : Response :=
  ⟨session, [], [], reply⟩

/-- The response to a change without further effect. -/
def quietly (session : Session) : Response :=
  session.replying .done

/-- Settles a report that the venue made. -/
def hear (session : Session) (report : Venue.Report) (now : Instant) :
    Response :=
  let (next, result) := session.settle report now
  next.replying (Reply.ofResult .settled result)

/-- Registers a mandate. -/
def submit (session : Session) (mandate : Mandate) : Response :=
  match session.desk.registry.register mandate with
  | .error fault => session.replying (.failed fault)
  | .ok registry =>
    replying { session with desk := { session.desk with registry } }
      (.registered mandate.id)

/-- Cancels the active mandates of a source. -/
def cancelSource (session : Session) (source : String) : Response :=
  let (registry, ids) := session.desk.registry.cancelSource source
  replying { session with desk := { session.desk with registry } }
    (.cancelled ids)

/-- Publishes market data. -/
def publish (session : Session) (snapshot : Snapshot) : Response :=
  let feed := session.feed.publish snapshot
  replying { session with feed } (.published feed.version)

/-- Lets the store fail or work. -/
def withStore (session : Session) (isFailing : Bool) : Session :=
  let store := { session.desk.store with isFailing }
  { session with desk := { session.desk with store } }

/-- A session with another venue. -/
def withVenue (session : Session) (venue : PaperVenue) : Session :=
  { session with venue }

/-- A session with another latch. -/
def withHalt (session : Session) (halt : Halt) : Session :=
  { session with desk := { session.desk with halt } }

/-- Carries out one command. -/
def step (session : Session) (now : Instant) : Command → Response
  | .submit mandate => session.submit mandate
  | .cancelSource source => session.cancelSource source
  | .cycle =>
    let completion := session.runCycle now
    ⟨completion.session, completion.handed, completion.sent,
      Reply.ofResult .summary completion.result⟩
  | .report report => session.hear report now
  | .fill dispatch price =>
    let (venue, report) := session.venue.fill dispatch price
    (session.withVenue venue).hear report now
  | .fillPartially dispatch quantity price =>
    let (venue, report) :=
      session.venue.fillPartially dispatch quantity price
    (session.withVenue venue).hear report now
  | .reject dispatch reason =>
    session.hear (PaperVenue.reject dispatch reason) now
  | .publish snapshot => session.publish snapshot
  | .refuseNext => quietly (session.withVenue session.venue.refusingNext)
  | .closeVenue => quietly (session.withVenue session.venue.closed)
  | .breakVenue => quietly { session with isBroken := true }
  | .failStore isFailing => quietly (session.withStore isFailing)
  | .halt reason =>
    quietly (session.withHalt (session.desk.halt.trip (.manual reason) now))
  | .clearHalt => quietly (session.withHalt session.desk.halt.clear)
  | .shutDown =>
    let (next, result) := session.shutDown
    next.replying (Reply.ofResult (fun _ => .done) result)

end MandateDesk.Session
