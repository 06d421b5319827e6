import MandateDesk.Proofs.Commands

/-!
# Histories

A history is a session with all that happened in its run so far: the mandates
that were registered, the orders that were handed over, and those of them that
reached the venue.  Everything that can be asked of a session may happen in it,
again and again and in any order.

As long as the venue does not break down, a history is made of small things
that happen to the desk, one after another: a mandate comes, a cycle hands over
orders, which then wait for the venue, the venue takes or refuses the first of
these, a report is taken.  `Course` is a desk in the midst of that.  What each
small thing keeps holds throughout.
-/

namespace MandateDesk

/-! ## Histories of a session -/

namespace Session

/-- A session at its beginning. -/
inductive Begins : Session → Prop where
  /-- It starts without positions. -/
  | blank (parameters : Desk.Parameters) (limits : Risk.Limits)
      (genesis : Snapshot) (venue : PaperVenue) (store : Store) :
      Begins (initial parameters limits genesis venue (Desk.blank store))
  /-- It starts with the positions that it recovers. -/
  | started {parameters limits genesis venue store now session summary}
      (started :
        start parameters limits genesis venue store now =
          .ok (session, summary)) :
      Begins session

/-- The mandates that a command has registered, by the reply to it. -/
def Command.registered : Command → Reply → List Mandate
  | .submit mandate, .registered _ => [mandate]
  | _, _ => []

end Session

/-- A session with all that happened in its run so far. -/
structure History where
  /-- The session as it stands. -/
  session : Session
  /-- The mandates that were registered, in order. -/
  registered : List Mandate
  /-- The orders that were handed over, in order. -/
  handed : List Venue.Dispatch
  /-- Those of them that reached the venue, in order. -/
  sent : List Venue.Dispatch

namespace History

/-- A session to which nothing happened yet. -/
def beginning (session : Session) : History :=
  ⟨session, [], [], []⟩

/-- The session carries out one more command. -/
def after
    (history : History)
    (now : Instant)
    (command : Session.Command) :
    History :=
  let response := history.session.step now command
  { session := response.session
    registered := history.registered ++ command.registered response.reply
    handed := history.handed ++ response.handed
    sent := history.sent ++ response.sent }

/-- The session carries out commands one after another. -/
def through
    (history : History)
    (commands : List (Instant × Session.Command)) :
    History :=
  commands.foldl (fun known command => known.after command.1 command.2)
    history

/-- All that can happen to a session. -/
inductive Reached : History → Prop where
  | start {session}
      (begins : session.Begins) :
      Reached (beginning session)
  | step {history}
      (reached : Reached history)
      (now : Instant)
      (command : Session.Command) :
      Reached (history.after now command)

/-- All that can happen as long as the venue does not break down. -/
inductive Unbroken : History → Prop where
  | start {session}
      (begins : session.Begins) :
      Unbroken (beginning session)
  | step {history}
      (unbroken : Unbroken history)
      (now : Instant)
      {command : Session.Command}
      (spared : command ≠ .breakVenue) :
      Unbroken (history.after now command)

end History

/-! ## What happens to the desk -/

/-- A desk with orders that wait for the venue, and all that happened. -/
structure Course where
  /-- The desk as it stands. -/
  desk : Desk
  /-- The mandates that were registered, in order. -/
  registered : List Mandate
  /-- The orders that were handed over, in order. -/
  handed : List Venue.Dispatch
  /-- Those of them that reached the venue, in order. -/
  sent : List Venue.Dispatch
  /-- Those of them that wait for the venue, in order. -/
  waiting : List Venue.Dispatch

namespace Course

/-- A course that goes on with a changed desk. -/
def on (course : Course) (desk : Desk) : Course :=
  { course with desk }

/-- A cycle hands its orders over, which wait for the venue from then on. -/
def cycling (course : Course) (turn : Desk.Turn) : Course :=
  { course with
    desk := turn.desk
    handed := course.handed ++ turn.outbox
    waiting := turn.outbox }

/-- The venue takes an order. -/
def taking
    (course : Course)
    (dispatch : Venue.Dispatch)
    (rest : List Venue.Dispatch) :
    Course :=
  { course with
    sent := course.sent ++ [dispatch]
    waiting := rest }

/-- A desk hears that the venue refused an order. -/
def spurned (desk : Desk) (dispatch : Venue.Dispatch) : Desk :=
  match dispatch.order with
  | .cancelEntry target => desk.keepEntry dispatch.symbol target
  | _ => desk

/-- The venue refuses an order. -/
def refusing
    (course : Course)
    (dispatch : Venue.Dispatch)
    (rest : List Venue.Dispatch) :
    Course :=
  { course with
    desk := spurned course.desk dispatch
    waiting := rest }

/-- The small things that happen, one at a time. -/
inductive Step (course : Course) : Course → Prop where
  /-- A mandate is registered. -/
  | submit {registry mandate}
      (registered : course.desk.registry.register mandate = .ok registry) :
      Step course
        { course with
          desk := { course.desk with registry }
          registered := course.registered ++ [mandate] }
  /-- The mandates of a source are cancelled. -/
  | cancelSource (source : String) :
      Step course
        (course.on
          { course.desk with
            registry := (course.desk.registry.cancelSource source).1 })
  /-- A cycle runs once no order waits, by whatever it goes. -/
  | cycle (parameters : Desk.Parameters) (limits : Risk.Limits) (feed : Feed)
      (now : Instant)
      (clear : course.waiting = []) :
      Step course
        (course.cycling
          (course.desk.runCycle parameters limits feed none now).1)
  /-- The venue takes the first order that waits. -/
  | take {dispatch rest}
      (waits : course.waiting = dispatch :: rest) :
      Step course (course.taking dispatch rest)
  /-- The venue refuses the first order that waits. -/
  | refuse {dispatch rest}
      (waits : course.waiting = dispatch :: rest) :
      Step course (course.refusing dispatch rest)
  /-- A report arrives, true or not. -/
  | report (report : Venue.Report) (now : Instant) :
      Step course (course.on (course.desk.settle report now).1)
  /-- The latch or the store changes. -/
  | keep (halt : Halt) (store : Store) :
      Step course (course.on { course.desk with halt, store })

/-- All that can become of a desk that starts without orders and mandates. -/
inductive Reached : Course → Prop where
  | blank (store : Store) : Reached ⟨Desk.blank store, [], [], [], []⟩
  | recovered {store saved venue book now summary}
      (ran :
        Reconciliation.run store venue Book.empty now =
          (saved, book, .ok summary)) :
      Reached ⟨{ Desk.blank saved with book }, [], [], [], []⟩
  | step {course next}
      (reached : Reached course)
      (step : Step course next) :
      Reached next

/-- Whatever happens, the desk stays coherent. -/
theorem Reached.coherent
    {course : Course}
    (reached : Reached course) :
    course.desk.Coherent := by
  induction reached with
  | blank store => exact Desk.coherent_blank store
  | recovered ran => exact Desk.coherent_recovered ran
  | step _ step coherent =>
    cases step with
    | submit registered =>
      exact ⟨coherent.keyed, coherent.cell,
        coherent.registry.register registered⟩
    | cancelSource source =>
      exact ⟨coherent.keyed, coherent.cell,
        coherent.registry.moveWhere .cancelled _⟩
    | cycle parameters limits feed now =>
      exact coherent.runCycle parameters limits feed now
    | take => exact coherent
    | refuse =>
      unfold refusing spurned
      simp only
      split
      · exact coherent.keepEntry _ _
      · exact coherent
    | report report now => exact coherent.settle report now
    | keep => exact coherent.of_same rfl rfl rfl rfl

end Course

/-! ## A history is a course -/

namespace Session

/-- A session takes a report as its desk does, or not at all. -/
theorem course_settle
    {session : Session}
    {registered : List Mandate}
    {handed sent waiting : List Venue.Dispatch}
    (reached :
      Course.Reached ⟨session.desk, registered, handed, sent, waiting⟩)
    (report : Venue.Report)
    (now : Instant) :
    Course.Reached
      ⟨(session.settle report now).1.desk, registered, handed, sent,
        waiting⟩ := by
  cases running : session.phase.isRunning with
  | false =>
    rw [settle_of_ended running]
    exact reached
  | true =>
    rcases exists_settle_eq running report now with ⟨halt, phase, settled⟩
    rw [settled]
    exact (reached.step (.report report now)).step (.keep halt _)

/-- The orders of a cycle are brought to the venue one after another. -/
theorem course_deliver
    {session : Session}
    {registered : List Mandate}
    {handed sent outbox : List Venue.Dispatch}
    (reached :
      Course.Reached ⟨session.desk, registered, handed, sent, outbox⟩)
    (now : Instant) :
    Course.Reached
      ⟨(session.deliver outbox now).1.desk, registered, handed,
        sent ++ (session.deliver outbox now).2, []⟩ := by
  have brought (delivery : Delivery)
      (known :
        Course.Reached
          ⟨delivery.session.desk, registered, handed, sent ++ delivery.sent,
            outbox⟩) :
      Course.Reached
        ⟨(outbox.foldl Delivery.next delivery).session.desk, registered,
          handed, sent ++ (outbox.foldl Delivery.next delivery).sent, []⟩ := by
    clear reached
    induction outbox generalizing delivery with
    | nil => exact known
    | cons dispatch rest hypothesis =>
      refine hypothesis _ ?_
      have taken := known.step (.take rfl)
      have refused := known.step (.refuse rfl)
      unfold Delivery.next
      simp only
      split
      · rw [← List.append_assoc]
        exact taken
      · simp only [Course.refusing, Course.spurned] at refused
        split
        · rename_i target asked
          rw [asked] at refused
          exact refused
        · rename_i apart
          split at refused
          · rename_i target asked
            exact absurd asked (apart target)
          · exact refused
  have settled (reports : List Venue.Report) (other : Session)
      {sent : List Venue.Dispatch}
      (known :
        Course.Reached ⟨other.desk, registered, handed, sent, []⟩) :
      Course.Reached
        ⟨(reports.foldl (fun known report => (known.settle report now).1)
            other).desk,
          registered, handed, sent, []⟩ := by
    induction reports generalizing other with
    | nil => exact known
    | cons report rest hypothesis =>
      exact hypothesis _ (course_settle known report now)
  refine settled _ _ (brought ⟨session, [], []⟩ ?_)
  rw [List.append_nil]
  exact reached

theorem Begins.isSound
    {session : Session}
    (begins : session.Begins) :
    session.IsSound := by
  cases begins with
  | blank parameters limits genesis venue store => exact ⟨rfl, .blank store⟩
  | started started => exact isSound_start started

end Session

namespace History

theorem Reached.through
    {history : History}
    (reached : history.Reached)
    (commands : List (Instant × Session.Command)) :
    (history.through commands).Reached := by
  induction commands generalizing history with
  | nil => exact reached
  | cons command rest hypothesis => exact hypothesis (reached.step _ _)

theorem Unbroken.reached
    {history : History}
    (unbroken : history.Unbroken) :
    history.Reached := by
  induction unbroken with
  | start begins => exact .start begins
  | step _ now _ reached => exact reached.step now _

theorem Unbroken.sound
    {history : History}
    (unbroken : history.Unbroken) :
    history.session.IsSound := by
  induction unbroken with
  | start begins => exact begins.isSound
  | step _ now spared sound => exact sound.step now _ spared

/-- What happened to a session happened to its desk bit by bit. -/
theorem Unbroken.course
    {history : History}
    (unbroken : history.Unbroken) :
    Course.Reached
      ⟨history.session.desk, history.registered, history.handed,
        history.sent, []⟩ := by
  induction unbroken with
  | start begins =>
    cases begins with
    | blank parameters limits genesis venue store => exact .blank store
    | started started =>
      unfold Session.start at started
      split at started
      · contradiction
      · rename_i saved book recovered ran
        cases started
        exact .recovered ran
  | @step history earlier now command spared reached =>
    have sound := earlier.sound
    rcases history with ⟨session, registered, handed, sent⟩
    have still (desk : Desk) (changed :
          Course.Reached ⟨desk, registered, handed, sent, []⟩) :
        Course.Reached
          ⟨desk, registered ++ [], handed ++ [], sent ++ [], []⟩ := by
      simpa only [List.append_nil] using changed
    have kept (halt : Halt) (store : Store) :
        Course.Reached
          ⟨{ session.desk with halt, store }, registered, handed, sent, []⟩ :=
      reached.step (.keep halt store)
    cases command with
    | submit mandate =>
      simp only [after, Session.step, Session.submit]
      split
      · exact still _ reached
      · rename_i registry registers
        have taken := reached.step (.submit registers)
        simpa only [Session.replying, Session.Command.registered,
          List.append_nil] using taken
    | cancelSource source => exact still _ (reached.step (.cancelSource source))
    | cycle =>
      cases running : session.phase.isRunning with
      | false =>
        simp only [after, Session.step, Session.runCycle, running]
        exact still _ reached
      | true =>
        rcases sound.exists_decided running now with
          ⟨turn, decided, halt, result, ran, ready, desk, venue, same⟩
        have cycled :=
          (reached.step
            (.cycle session.parameters session.limits session.feed now
              rfl)).step (.keep halt turn.desk.store)
        rw [ran] at cycled
        simp only [after, Session.step, same]
        have delivered :=
          @Session.course_deliver decided registered (handed ++ turn.outbox)
            sent turn.outbox (by rw [desk]; exact cycled) now
        have silent (reply : Session.Reply) :
            Session.Command.registered .cycle reply = [] := by
          cases reply <;> rfl
        rw [silent, List.append_nil]
        exact delivered
    | report report =>
      exact still _ (Session.course_settle reached report now)
    | fill dispatch price =>
      exact still _
        (@Session.course_settle
          (session.withVenue (session.venue.fill dispatch price).1) _ _ _ _
          reached _ now)
    | fillPartially dispatch quantity price =>
      exact still _
        (@Session.course_settle
          (session.withVenue
            (session.venue.fillPartially dispatch quantity price).1) _ _ _ _
          reached _ now)
    | reject dispatch reason =>
      exact still _ (Session.course_settle reached _ now)
    | publish snapshot => exact still _ reached
    | refuseNext => exact still _ reached
    | closeVenue => exact still _ reached
    | breakVenue => contradiction
    | failStore isFailing => exact still _ (kept _ _)
    | halt reason => exact still _ (kept _ _)
    | clearHalt => exact still _ (kept _ _)
    | shutDown =>
      simp only [after, Session.step, Session.shutDown]
      split
      · exact still _ reached
      · exact still _ reached

end History

end MandateDesk
