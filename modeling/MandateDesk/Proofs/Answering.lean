import MandateDesk.Proofs.Changes

/-!
# Reports are taken once

A report that is turned down changes nothing but the count of reports.  A
report that is taken ends the order that it names, and the name is never given
again: so whatever happens from then on, every other report with that name is
turned down.

`Occurs` says which desks can occur.  Next to all that `Step` lists there are
the cycles that end for want of room for their orders, as they do once a venue
has broken down; every desk of a session is among these.
-/

namespace MandateDesk

namespace Desk

/-! ## All that can happen -/

/-- One thing that happens to a desk, whether its venue stands or not. -/
inductive Happens (parameters : Parameters) (limits : Risk.Limits) :
    Desk → Desk → Prop where
  /-- It happens at a venue that stands, too. -/
  | step {before after}
      (step : Step parameters limits before after) :
      Happens parameters limits before after
  /-- A cycle runs in which only so many orders can be handed over. -/
  | bounded (desk : Desk) (feed : Feed) (room : Nat) (now : Instant) :
      Happens parameters limits desk
        (desk.runCycle parameters limits feed (some room) now).1.desk

/-- Any number of things, one after another. -/
abbrev Leads (parameters : Parameters) (limits : Risk.Limits) :
    Desk → Desk → Prop :=
  Relation.ReflTransGen (Happens parameters limits)

/-- A desk that can occur, whether its venue stands or not. -/
inductive Occurs (parameters : Parameters) (limits : Risk.Limits) :
    Desk → Prop where
  /-- It occurs at a venue that stands, too. -/
  | reached {desk}
      (reached : Reachable parameters limits desk) :
      Occurs parameters limits desk
  | onward {before after}
      (occurs : Occurs parameters limits before)
      (happens : Happens parameters limits before after) :
      Occurs parameters limits after

section Happens

variable {parameters : Parameters} {limits : Risk.Limits}
variable {desk after : Desk}

theorem Occurs.leads
    (occurs : Occurs parameters limits desk)
    (leads : Leads parameters limits desk after) :
    Occurs parameters limits after := by
  induction leads with
  | refl => exact occurs
  | tail _ happens hypothesis => exact hypothesis.onward happens

/-- What happens is made of changes, except for a change of the store. -/
theorem Happens.exists_becomes
    (happens : Happens parameters limits desk after)
    (inPlace : desk.InPlace) :
    ∃ between, desk.Becomes between ∧
      after.book = between.book ∧
      after.working = between.working ∧
      after.issued = between.issued := by
  have made {known : Desk} (becomes : desk.Becomes known) :
      ∃ between, desk.Becomes between ∧ known.book = between.book ∧
        known.working = between.working ∧ known.issued = between.issued :=
    ⟨known, becomes, rfl, rfl, rfl⟩
  cases happens with
  | bounded feed room now =>
    exact made
      (inPlace.becomes_runCycle parameters limits feed (some room) now)
  | step step =>
    cases step with
    | submit => exact ⟨desk, .refl, rfl, rfl, rfl⟩
    | cancelSource => exact ⟨desk, .refl, rfl, rfl, rfl⟩
    | cycle feed now =>
      exact made (inPlace.becomes_runCycle parameters limits feed none now)
    | report report now => exact made (inPlace.becomes_settle report now)
    | keepEntry symbol target => exact made (becomes_keepEntry _ _ _)
    | halt => exact ⟨desk, .refl, rfl, rfl, rfl⟩
    | clearHalt => exact ⟨desk, .refl, rfl, rfl, rfl⟩
    | keep => exact ⟨desk, .refl, rfl, rfl, rfl⟩

end Happens

/-! ## Names of orders -/

section Names

variable {desk after : Desk}

theorem Change.issued_le
    (change : Change desk after) :
    desk.issued ≤ after.issued := by
  cases change with
  | aside _ _ issued => exact Nat.le_of_eq issued.symm
  | @moved symbol _ _ next =>
    have same :=
      issued_persist { desk with book := desk.book.moved symbol next } symbol
    exact Nat.le_of_eq same.symm
  | launched => exact Nat.le_succ _
  | marked => exact Nat.le_refl _
  | forgotten => exact Nat.le_refl _
  | numbered => exact Nat.le_succ _

/--
What works after a change has worked under its name before, or it is the one
order that the change launched, under the next number.
-/
theorem Change.exists_launched
    (change : Change desk after) :
    ∃ launched : Option Symbol, ∀ {symbol order},
      after.working.find? symbol = some order →
        (∃ known, desk.working.find? symbol = some known ∧
          known.dispatch = order.dispatch) ∨
        launched = some symbol ∧ order.dispatch = desk.nextDispatch ∧
          after.issued = desk.issued + 1 := by
  cases change with
  | aside _ same =>
    refine ⟨none, fun working => Or.inl ?_⟩
    rw [same] at working
    exact ⟨_, working, rfl⟩
  | moved =>
    refine ⟨none, fun working => Or.inl ?_⟩
    rw [working_persist] at working
    exact ⟨_, working, rfl⟩
  | @launched about =>
    refine ⟨some about, fun working => ?_⟩
    rw [find?_working_launched] at working
    split at working
    · rename_i here
      cases working
      exact Or.inr ⟨by rw [here], rfl, rfl⟩
    · exact Or.inl ⟨_, working, rfl⟩
  | marked known =>
    refine ⟨none, fun working => Or.inl ?_⟩
    rw [find?_working_start] at working
    split at working
    · rename_i here
      cases working
      exact ⟨_, (congrArg _ here).trans known, rfl⟩
    · exact ⟨_, working, rfl⟩
  | forgotten =>
    refine ⟨none, fun working => Or.inl ?_⟩
    rw [find?_working_forget] at working
    split at working
    · contradiction
    · exact ⟨_, working, rfl⟩
  | numbered => exact ⟨none, fun working => Or.inl ⟨_, working, rfl⟩⟩

/-- What works is named by numbers that were given, each name once. -/
structure Named (desk : Desk) : Prop where
  given : ∀ {symbol order},
    desk.working.find? symbol = some order →
      ∃ serial, order.dispatch = .issued serial ∧ serial ≤ desk.issued
  unique : ∀ {symbol other order another},
    desk.working.find? symbol = some order →
      desk.working.find? other = some another →
        order.dispatch = another.dispatch → symbol = other

theorem named_of_idle
    (idle : ∀ symbol, desk.working.find? symbol = none) :
    desk.Named := by
  constructor
  · intro symbol order working
    rw [idle] at working
    contradiction
  · intro symbol other order another working
    rw [idle] at working
    contradiction

/-- The next number is not the name of anything that works. -/
theorem Named.dispatch_ne
    (named : desk.Named)
    {symbol : Symbol}
    {order : WorkingOrder}
    (working : desk.working.find? symbol = some order) :
    order.dispatch ≠ desk.nextDispatch := by
  rcases named.given working with ⟨serial, given, within⟩
  rw [given]
  intro same
  have next := DispatchId.issued.inj same
  omega

theorem Change.named
    (change : Change desk after)
    (named : desk.Named) :
    after.Named := by
  rcases change.exists_launched with ⟨launched, origin⟩
  constructor
  · intro symbol order working
    rcases origin working with ⟨known, worked, same⟩ | ⟨_, next, issued⟩
    · rcases named.given worked with ⟨serial, given, within⟩
      exact ⟨serial, same ▸ given,
        Nat.le_trans within change.issued_le⟩
    · exact ⟨_, next, Nat.le_of_eq issued.symm⟩
  · intro symbol other order another working works same
    rcases origin working with ⟨known, worked, own⟩ | ⟨here, next, _⟩
    · rcases origin works with ⟨kept, still, its⟩ | ⟨_, next, _⟩
      · exact named.unique worked still (own.trans (same.trans its.symm))
      · exact absurd (own.trans (same.trans next)) (named.dispatch_ne worked)
    · rcases origin works with ⟨kept, still, its⟩ | ⟨there, _, _⟩
      · exact absurd (its.trans (same.symm.trans next))
          (named.dispatch_ne still)
      · exact Option.some.inj (here.symm.trans there)

theorem Becomes.named
    (becomes : Becomes desk after)
    (named : desk.Named) :
    after.Named := by
  induction becomes with
  | refl => exact named
  | tail _ change hypothesis => exact change.named hypothesis

/-- A name that was given, and under which nothing works any more. -/
structure Retired (desk : Desk) (id : DispatchId) : Prop where
  given : ∃ serial, id = .issued serial ∧ serial ≤ desk.issued
  idle : ∀ {symbol order},
    desk.working.find? symbol = some order → order.dispatch ≠ id

/-- A name that is retired stays so. -/
theorem Change.retired
    (change : Change desk after)
    {id : DispatchId}
    (retired : desk.Retired id) :
    after.Retired id := by
  rcases retired.given with ⟨serial, named, within⟩
  rcases change.exists_launched with ⟨launched, origin⟩
  refine ⟨⟨serial, named, Nat.le_trans within change.issued_le⟩, ?_⟩
  intro symbol order working same
  rcases origin working with ⟨known, worked, kept⟩ | ⟨_, next, _⟩
  · exact retired.idle worked (kept.trans same)
  · have fresh := DispatchId.issued.inj (next.symm.trans (same.trans named))
    omega

theorem Becomes.retired
    (becomes : Becomes desk after)
    {id : DispatchId}
    (retired : desk.Retired id) :
    after.Retired id := by
  induction becomes with
  | refl => exact retired
  | tail _ change hypothesis => exact change.retired hypothesis

end Names

section Runs

variable {parameters : Parameters} {limits : Risk.Limits}
variable {desk after : Desk}

theorem Happens.inPlace
    (happens : Happens parameters limits desk after)
    (inPlace : desk.InPlace) :
    after.InPlace := by
  rcases happens.exists_becomes inPlace with
    ⟨between, becomes, book, working, _⟩
  have kept := becomes.inPlace inPlace
  constructor
  · rw [book]
    exact kept.keyed
  · rw [book, working]
    exact kept.seen

theorem Happens.named
    (happens : Happens parameters limits desk after)
    (inPlace : desk.InPlace)
    (named : desk.Named) :
    after.Named := by
  rcases happens.exists_becomes inPlace with
    ⟨between, becomes, _, working, issued⟩
  have kept := becomes.named named
  constructor
  · rw [working, issued]
    exact kept.given
  · rw [working]
    exact kept.unique

theorem Happens.retired
    (happens : Happens parameters limits desk after)
    (inPlace : desk.InPlace)
    {id : DispatchId}
    (retired : desk.Retired id) :
    after.Retired id := by
  rcases happens.exists_becomes inPlace with
    ⟨between, becomes, _, working, issued⟩
  have kept := becomes.retired retired
  constructor
  · rw [issued]
    exact kept.given
  · rw [working]
    exact kept.idle

theorem Reachable.named
    (reached : Reachable parameters limits desk) :
    desk.Named := by
  induction reached with
  | blank store => exact named_of_idle fun _ => rfl
  | recovered ran => exact named_of_idle fun _ => rfl
  | step earlier step hypothesis =>
    exact Happens.named (.step step) earlier.coherent.inPlace hypothesis

theorem Occurs.inPlace
    (occurs : Occurs parameters limits desk) :
    desk.InPlace := by
  induction occurs with
  | reached reached => exact reached.coherent.inPlace
  | onward _ happens hypothesis => exact happens.inPlace hypothesis

theorem Occurs.named
    (occurs : Occurs parameters limits desk) :
    desk.Named := by
  induction occurs with
  | reached reached => exact reached.named
  | onward occurs happens hypothesis =>
    exact happens.named occurs.inPlace hypothesis

theorem Occurs.retired
    (occurs : Occurs parameters limits desk)
    (leads : Leads parameters limits desk after)
    {id : DispatchId}
    (retired : desk.Retired id) :
    after.Retired id := by
  induction leads with
  | refl => exact retired
  | tail earlier happens hypothesis =>
    exact happens.retired (occurs.leads earlier).inPlace hypothesis

end Runs

/-! ## Reports -/

/-- The name of an order that a report has ended is retired. -/
theorem retired_of_settle
    {desk : Desk}
    (inPlace : desk.InPlace)
    (named : desk.Named)
    {report : Venue.Report}
    {now : Instant}
    {answer : Option Position.Transition}
    (taken : (desk.settle report now).2 = .ok answer) :
    (desk.settle report now).1.Retired report.dispatch := by
  have settled := inPlace.settled report now
  rw [taken] at settled
  generalize (desk.settle report now).1 = after at settled
  -- the order that is named works on no other symbol under that name
  have ended {order : WorkingOrder} {position : Position}
      (names : Names desk report order position)
      (gone : ∀ other, after.working.find? other =
        if other = report.symbol then none else desk.working.find? other) :
      after.Retired report.dispatch := by
    rcases named.given names.working with ⟨serial, given, within⟩
    refine ⟨⟨serial, names.named.symm.trans given, ?_⟩, ?_⟩
    · rw [settled.issued]
      exact within
    · intro symbol other working same
      rw [gone] at working
      split at working
      · contradiction
      · rename_i apart
        exact apart
          (named.unique working names.working
            (same.trans names.named.symm))
  cases settled with
  | unworked names => exact ended names (find?_working_forget _ _)
  | answered names _ _ _ gone => exact ended names gone

/-- A report with a retired name is turned down. -/
theorem Retired.settle_eq
    {desk : Desk}
    {report : Venue.Report}
    (retired : desk.Retired report.dispatch)
    (now : Instant) :
    desk.settle report now =
      ({ desk with tally := desk.tally.withReport },
        .error (.execution (.notWorking report.dispatch report.symbol))) := by
  have unheard : desk.isWorking report.symbol report.dispatch = false := by
    unfold isWorking
    split
    · rfl
    · rename_i order working
      exact decide_eq_false (retired.idle working)
  unfold Desk.settle
  simp [unheard]

/--
A report that is turned down leaves all as it was and is counted.  A report
that is taken ends the order that it names; from then on every report with its
name is turned down, at any time and whatever has happened in between.
-/
theorem reports_are_taken_once
    {parameters : Parameters}
    {limits : Risk.Limits}
    {desk : Desk}
    (occurs : Occurs parameters limits desk)
    (report : Venue.Report)
    (now : Instant) :
    (∀ fault, (desk.settle report now).2 = .error fault →
      (desk.settle report now).1 =
        { desk with tally := desk.tally.withReport }) ∧
    ∀ answer, (desk.settle report now).2 = .ok answer →
      (desk.settle report now).1.working.find? report.symbol = none ∧
      ∀ later, Leads parameters limits (desk.settle report now).1 later →
        ∀ (again : Venue.Report) (moment : Instant),
          again.dispatch = report.dispatch →
            later.settle again moment =
              ({ later with tally := later.tally.withReport },
                .error
                  (.execution
                    (.notWorking again.dispatch again.symbol))) := by
  have settled := occurs.inPlace.settled report now
  constructor
  · intro fault refused
    rw [refused] at settled
    generalize (desk.settle report now).1 = after at settled
    cases settled <;> rfl
  · intro answer taken
    have retired := retired_of_settle occurs.inPlace occurs.named taken
    constructor
    · rw [taken] at settled
      generalize (desk.settle report now).1 = after at settled
      cases settled with
      | unworked => exact (find?_working_forget ..).trans (if_pos rfl)
      | answered _ _ _ _ gone => exact (gone _).trans (if_pos rfl)
    · intro later leads again moment same
      have next : Occurs parameters limits (desk.settle report now).1 :=
        occurs.onward (.step (.report desk report now))
      exact (same ▸ next.retired leads retired).settle_eq moment

namespace Sample

/-- The report that the entry was filled. -/
def filled : Venue.Report :=
  ⟨.issued 1, symbol, .filled one hundred⟩

/-- The fill is taken once, and not again once the exit was sent. -/
theorem reports_are_taken_once_entering :
    (∃ answer, (entering.settle filled (moment 2)).2 = .ok answer) ∧
      let left :=
        (leaving.runCycle .standard .standard feed none (moment 1)).1.desk
      left.settle filled (moment 3) =
        ({ left with tally := left.tally.withReport },
          .error (.execution (.notWorking (.issued 1) symbol))) := by
  have accepted : (entering.settle filled (moment 2)).2.isOk = true := by
    decide +kernel
  cases taken : (entering.settle filled (moment 2)).2 with
  | error fault =>
    rw [taken] at accepted
    contradiction
  | ok answer =>
    refine ⟨⟨answer, rfl⟩, ?_⟩
    have once :=
      reports_are_taken_once (.reached reachable_entering) filled (moment 2)
    refine (once.2 answer taken).2 _ ?_ filled (moment 3) rfl
    exact .tail (.single (.step (.submit registered_exit)))
      (.step (.cycle leaving feed (moment 1)))

end Sample

end Desk

/-! ## The desks of a session -/

namespace Session

/-- One session has become another one, by the same rules. -/
structure Continues (before after : Session) : Prop where
  parameters : after.parameters = before.parameters
  limits : after.limits = before.limits
  leads : Desk.Leads before.parameters before.limits before.desk after.desk

theorem Continues.refl (session : Session) : session.Continues session :=
  ⟨rfl, rfl, .refl⟩

theorem Continues.trans
    {first second third : Session}
    (before : first.Continues second)
    (after : second.Continues third) :
    first.Continues third := by
  refine ⟨after.parameters.trans before.parameters,
    after.limits.trans before.limits, before.leads.trans ?_⟩
  rw [← before.parameters, ← before.limits]
  exact after.leads

section Continues

variable {session next : Session}

theorem continues_of_happens
    (parameters : next.parameters = session.parameters)
    (limits : next.limits = session.limits)
    (happens :
      Desk.Happens session.parameters session.limits session.desk
        next.desk) :
    session.Continues next :=
  ⟨parameters, limits, .single happens⟩

theorem continues_of_same
    (parameters : next.parameters = session.parameters)
    (limits : next.limits = session.limits)
    (desk : next.desk = session.desk) :
    session.Continues next :=
  ⟨parameters, limits, desk ▸ .refl⟩

theorem continues_stop
    (session : Session)
    (fault : Fault)
    (now : Instant) :
    session.Continues (session.stop fault now) :=
  continues_of_happens rfl rfl (.step (.halt _ _ now))

theorem continues_settle
    (session : Session)
    (report : Venue.Report)
    (now : Instant) :
    session.Continues (session.settle report now).1 := by
  have taken :
      session.Continues
        { session with desk := (session.desk.settle report now).1 } :=
    continues_of_happens rfl rfl (.step (.report session.desk report now))
  unfold Session.settle
  split
  · generalize session.desk.settle report now = result at taken
    rcases result with ⟨desk, fault | transition⟩
    · simp only
      split
      · exact taken.trans (continues_stop _ fault now)
      · exact taken
    · exact taken
  · exact .refl session

theorem continues_delivering
    (delivery : Delivery)
    (dispatch : Venue.Dispatch) :
    delivery.session.Continues (delivery.next dispatch).session := by
  unfold Delivery.next
  simp only
  split
  · exact continues_of_same rfl rfl rfl
  · split
    · exact continues_of_happens rfl rfl
        (.step (.keepEntry delivery.session.desk dispatch.symbol _))
    · exact continues_of_same rfl rfl rfl

theorem continues_release
    (session : Session)
    (outbox : List Venue.Dispatch)
    (now : Instant) :
    session.Continues (session.release outbox now).1 := by
  unfold release
  split
  · exact deliver_preserves
      (fun dispatch before => before.trans (continues_delivering _ dispatch))
      (fun report now before =>
        before.trans (continues_settle _ report now))
      (.refl session) outbox now
  · split
    · exact .refl session
    · exact continues_stop session _ now

theorem continues_runCycle
    (session : Session)
    (now : Instant) :
    session.Continues (session.runCycle now).session := by
  have cycled :
      Desk.Happens session.parameters session.limits session.desk
        (session.desk.runCycle session.parameters session.limits session.feed
          session.room now).1.desk := by
    cases session.room with
    | none => exact .step (.cycle session.desk session.feed now)
    | some room => exact .bounded session.desk session.feed room now
  unfold Session.runCycle
  split
  · generalize session.desk.runCycle _ _ _ _ now = result at cycled
    rcases result with ⟨turn, ending⟩
    have decided :
        session.Continues
          { session with desk := turn.desk, feed := session.feed.read } :=
      continues_of_happens rfl rfl cycled
    refine Continues.trans ?_ (continues_release _ turn.outbox now)
    cases ending with
    | done summary => exact decided
    | stopped fault => exact decided.trans (continues_stop _ fault now)
    | brokeDown => exact decided.trans (continues_of_same rfl rfl rfl)
  · exact .refl session

/-- Whatever a session is asked to do, its desk goes on. -/
theorem continues_step
    (session : Session)
    (now : Instant)
    (command : Command) :
    session.Continues (session.step now command).session := by
  have heard (venue : PaperVenue) (report : Venue.Report) :
      session.Continues
        ((session.withVenue venue).hear report now).session :=
    @Continues.trans session (session.withVenue venue) _
      (continues_of_same rfl rfl rfl) (continues_settle _ report now)
  cases command with
  | submit mandate =>
    show session.Continues (session.submit mandate).session
    unfold submit
    split
    · exact .refl session
    · rename_i registry registered
      exact continues_of_happens rfl rfl (.step (.submit registered))
  | cancelSource source =>
    exact continues_of_happens rfl rfl
      (.step (.cancelSource session.desk source))
  | cycle => exact continues_runCycle session now
  | report report => exact continues_settle session report now
  | fill dispatch price => exact heard _ _
  | fillPartially dispatch quantity price => exact heard _ _
  | reject dispatch reason => exact continues_settle session _ now
  | publish snapshot => exact continues_of_same rfl rfl rfl
  | refuseNext => exact continues_of_same rfl rfl rfl
  | closeVenue => exact continues_of_same rfl rfl rfl
  | breakVenue => exact continues_of_same rfl rfl rfl
  | failStore isFailing =>
    exact continues_of_happens rfl rfl (.step (.keep session.desk _ _))
  | halt reason =>
    exact continues_of_happens rfl rfl
      (.step (.halt session.desk (.manual reason) now))
  | clearHalt =>
    exact continues_of_happens rfl rfl (.step (.clearHalt session.desk))
  | shutDown =>
    show session.Continues session.shutDown.1
    unfold shutDown
    split
    · exact continues_of_same rfl rfl rfl
    · exact .refl session

end Continues

end Session

/-- Every desk of a session is one that can occur. -/
theorem History.Reached.occurs
    {history : History}
    (reached : history.Reached) :
    Desk.Occurs history.session.parameters history.session.limits
      history.session.desk := by
  induction reached with
  | start begins => exact .reached begins.isSound.reached
  | @step history _ now command hypothesis =>
    have goes := Session.continues_step history.session now command
    show Desk.Occurs (history.session.step now command).session.parameters
      (history.session.step now command).session.limits _
    rw [goes.parameters, goes.limits]
    exact hypothesis.leads goes.leads

end MandateDesk
