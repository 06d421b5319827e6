import MandateDesk.Proofs.Correspondence
import MandateDesk.Proofs.Differences
import MandateDesk.Proofs.Settling

/-!
# A desk that never breaks itself

A session ends by itself only after a fatal fault.  There is none: an event
that a position takes leads to a position that has its shape, and all that a
decision tries succeeds.  So a session goes on as long as nobody takes its
stages away and the calendar reaches back over the life of a mandate; its
cycles return summaries, and its reports are settled or turned down.

The shape of a position that is being reduced does not speak of its entry
price, but that of the open position that is left does.  That the price is
there is an invariant of its own, `Position.IsPriced`.
-/

namespace MandateDesk

/-! ## Positions that take an event have their shape -/

namespace Position

/-- What is held was entered at a price. -/
def IsPriced (position : Position) : Prop :=
  position.state.hasExposure = true → position.entryPrice.isSome = true

theorem isPriced_flat
    (symbol : Symbol)
    (now : Instant) :
    (flat symbol now).IsPriced := by
  intro exposed
  simp [flat, State.hasExposure] at exposed

theorem Moves.isPriced
    {position next : Position}
    {event : Event}
    {now : Instant}
    (moves : position.Moves now event next)
    (priced : position.IsPriced) :
    next.IsPriced := by
  cases moves with
  | enter =>
    intro exposed
    simp [entering, State.hasExposure] at exposed
  | fillEntry => exact fun _ => rfl
  | failEntry => exact isPriced_flat _ now
  | startReduce state => exact fun _ => priced (by rw [state]; rfl)
  | startClose state => exact fun _ => priced (by rw [state]; rfl)
  | fillReduce state => exact fun _ => priced (by rw [state]; rfl)
  | fillAllReduced => exact isPriced_flat _ now
  | fillClose => exact isPriced_flat _ now

/--
A move leads to a position of its shape, if a part is reduced only of what was
entered at a price.
-/
theorem Moves.wellFormed_of_priced
    {position next : Position}
    {event : Event}
    {now : Instant}
    (moves : position.Moves now event next)
    (shaped : position.WellFormed)
    (priced : position.state = .reducing → next.state = .opened →
      position.entryPrice.isSome = true) :
    next.WellFormed := by
  cases moves with
  | enter state positive =>
    exact wellFormed_of_apply (apply_entryAdmitted state _ positive now)
  | fillEntry state positive =>
    have figure := (Decimal.zero_lt_iff _).mp positive
    have directed := isSome_direction_of_entering shaped state
    refine OpenShape.wellFormed ?_ rfl
    constructor
    · exact figure.1
    · simpa [entered, Decimal.isZero] using figure.2
    · exact directed
    · rfl
    · rfl
    · rfl
  | failEntry => exact flat_wellFormed _ now
  | startReduce state positive within =>
    exact wellFormed_of_apply
      (apply_reduceAdmitted shaped state positive within now)
  | startClose state =>
    exact wellFormed_of_apply (apply_exitAdmitted shaped state now)
  | fillReduce state unsigned within left =>
    have shape := leavingShape shaped (Or.inl state)
    refine OpenShape.wellFormed ?_ rfl
    constructor
    · exact Decimal.negative_saturatingSub shape.unsigned unsigned within
    · exact left
    · exact shape.directed
    · exact priced state rfl
    · rfl
    · rfl
  | fillAllReduced => exact flat_wellFormed _ now
  | fillClose => exact flat_wellFormed _ now

/-- A position that has its shape and its price moves to one that has both. -/
theorem Moves.wellFormed
    {position next : Position}
    {event : Event}
    {now : Instant}
    (moves : position.Moves now event next)
    (shaped : position.WellFormed)
    (priced : position.IsPriced) :
    next.WellFormed :=
  moves.wellFormed_of_priced shaped fun state _ =>
    priced (by rw [state]; rfl)

/-- A position turns an event down without losing its shape. -/
theorem isFatal_of_apply
    {position : Position}
    (shaped : position.WellFormed)
    (priced : position.IsPriced)
    {event : Event}
    {now : Instant}
    {fault : Fault}
    (refused : position.apply event now = .error fault) :
    fault.isFatal = false := by
  unfold apply at refused
  cases followed : position.successor event now with
  | error refusal =>
    simp only [followed, Except.error.injEq] at refused
    rw [← refused]
    rfl
  | ok next =>
    have follows :=
      (moves_of_successor followed).wellFormed shaped priced
    simp only [followed, (check_eq_ok_iff next).mpr follows] at refused
    contradiction

end Position

/-! ## Desks that know their prices -/

namespace Desk

/-- All that is held according to the book was entered at a price. -/
def IsPriced (desk : Desk) : Prop :=
  ∀ symbol position,
    desk.book.get? symbol = some position → position.IsPriced

theorem IsPriced.of_book
    {desk after : Desk}
    (priced : desk.IsPriced)
    (book : after.book = desk.book) :
    after.IsPriced := by
  intro symbol position found
  rw [book] at found
  exact priced symbol position found

theorem IsPriced.moved
    {desk after : Desk}
    (priced : desk.IsPriced)
    {symbol : Symbol}
    {event : Position.Event}
    {now : Instant}
    {next : Position}
    (applied :
      (desk.book.positionOf symbol now).apply event now = .ok next)
    (book : after.book = desk.book.moved symbol next) :
    after.IsPriced := by
  have started : (desk.book.positionOf symbol now).IsPriced := by
    unfold Book.positionOf
    cases found : desk.book.get? symbol with
    | none => exact Position.isPriced_flat symbol now
    | some position => exact priced symbol position found
  intro other position found
  rw [book, Book.get?_moved] at found
  split at found
  · cases found
    exact (Position.moves_of_apply applied).isPriced started
  · exact priced other position found

theorem IsPriced.decided
    {round : Round}
    {agenda : Agenda}
    {symbols : List Symbol}
    {desk last : Desk}
    {decisions : List Decision}
    {sent : List Venue.Dispatch}
    (priced : desk.IsPriced)
    (run : Decided round agenda symbols desk last decisions sent) :
    last.IsPriced := by
  induction run with
  | nil => exact priced
  | @cons symbol rest desk after outcome _ _ _ _ new coherent asked ruling _
      hypothesis =>
    have left : after.IsPriced := by
      cases ruling.effect coherent with
      | nothing _ book => exact priced.of_book book
      | cancelled _ _ book => exact priced.of_book book
      | admitted _ _ applied book => exact priced.moved applied book
    exact hypothesis (left.of_book rfl)

theorem IsPriced.runCycle
    {desk : Desk}
    (priced : desk.IsPriced)
    (coherent : desk.Coherent)
    (parameters : Parameters)
    (limits : Risk.Limits)
    (feed : Feed)
    (now : Instant) :
    (desk.runCycle parameters limits feed none now).1.desk.IsPriced := by
  have cycled := coherent.cycled parameters limits feed now
  generalize (desk.runCycle parameters limits feed none now).1 = turn
    at cycled ⊢
  cases cycled with
  | idle => exact priced.of_book rfl
  | worked worked =>
    rcases worked with ⟨expiry, run, resending, served⟩
    rename_i registry expired decided decisions sent last resent reading tally
    have found : (desk.collected parameters registry now).IsPriced :=
      priced.of_book (book_collected desk parameters registry now)
    exact (found.decided run).of_book resending.book

theorem IsPriced.settle
    {desk : Desk}
    (priced : desk.IsPriced)
    (coherent : desk.Coherent)
    (report : Venue.Report)
    (now : Instant) :
    (desk.settle report now).1.IsPriced := by
  have settled := coherent.settled report now
  generalize desk.settle report now = result at settled ⊢
  rcases result with ⟨after, answer⟩
  cases settled with
  | unheard => exact priced.of_book rfl
  | unworked => exact priced.of_book rfl
  | refused => exact priced.of_book rfl
  | answered names meant applied book =>
    rw [← Book.positionOf_of_get? names.found now] at applied
    exact priced.moved applied book

theorem isPriced_keepEntry
    {desk : Desk}
    (priced : desk.IsPriced)
    (symbol : Symbol)
    (target : DispatchId) :
    (desk.keepEntry symbol target).IsPriced := by
  unfold keepEntry
  split
  · exact priced
  · split
    · exact priced.of_book rfl
    · exact priced

/-- Whatever happens to a desk, it knows the price of all that is held. -/
theorem Reachable.isPriced
    {parameters : Parameters}
    {limits : Risk.Limits}
    {desk : Desk}
    (reached : Reachable parameters limits desk) :
    desk.IsPriced := by
  induction reached with
  | blank store =>
    intro symbol position found
    simp [Desk.blank, Book.get?, Book.empty] at found
  | recovered ran =>
    intro symbol position found exposed
    rcases Reconciliation.recovered ran found with ⟨_, shaped, state | state⟩
    · simp [state, Position.State.hasExposure] at exposed
    · exact (Position.openShape shaped state).priced
  | step reached step priced =>
    cases step with
    | submit => exact priced.of_book rfl
    | cancelSource => exact priced.of_book rfl
    | cycle feed now => exact priced.runCycle reached.coherent _ _ feed now
    | report report now => exact priced.settle reached.coherent report now
    | keepEntry symbol target => exact isPriced_keepEntry priced symbol target
    | halt => exact priced.of_book rfl
    | clearHalt => exact priced.of_book rfl
    | keep => exact priced.of_book rfl

/-! ## Neither reports nor decisions fail -/

/-- Taking a report is never a fatal fault. -/
theorem Reachable.isFatal_of_settle
    {parameters : Parameters}
    {limits : Risk.Limits}
    {desk : Desk}
    (reached : Reachable parameters limits desk)
    {report : Venue.Report}
    {now : Instant}
    {fault : Fault}
    (refused : (desk.settle report now).2 = .error fault) :
    fault.isFatal = false := by
  have settled := reached.coherent.settled report now
  rw [refused] at settled
  generalize (desk.settle report now).1 = after at settled
  cases settled with
  | unheard => rfl
  | refused names meant refused =>
    have cell := reached.coherent.cell report.symbol
    rw [names.found] at cell
    exact Position.isFatal_of_apply cell.wellFormed
      (reached.isPriced _ _ names.found) refused

/-- An action could not be applied, or found its reservation taken. -/
def Outcome.isFailure : Outcome → Bool
  | .failed _ => true
  | .conflict _ => true
  | _ => false

theorem Ruling.isFailure_eq_false
    {round : Round}
    {desk after : Desk}
    {action : Action}
    {verdict : Risk.Verdict}
    {outcome : Outcome}
    {sent : List Venue.Dispatch}
    (ruling : Ruling round desk action verdict after outcome sent) :
    outcome.isFailure = false := by
  cases ruling with
  | idle reason => cases reason <;> rfl
  | refused => rfl
  | cancelled leaving => cases leaving <;> rfl
  | entered => rfl
  | reduced => rfl
  | exited leaving => cases leaving <;> rfl

theorem Decided.isFailure_eq_false
    {round : Round}
    {agenda : Agenda}
    {symbols : List Symbol}
    {desk last : Desk}
    {decisions : List Decision}
    {sent : List Venue.Dispatch}
    (run : Decided round agenda symbols desk last decisions sent) :
    ∀ decision ∈ decisions, decision.outcome.isFailure = false := by
  induction run with
  | nil => simp
  | cons _ _ _ ruling _ hypothesis =>
    intro decision member
    rcases List.mem_cons.mp member with here | later
    · rw [here]
      exact ruling.isFailure_eq_false
    · exact hypothesis decision later

/-- A summary of a cycle in which no decision failed. -/
def CycleSummary.IsClean (summary : CycleSummary) : Prop :=
  ∀ decision ∈ summary.decisions, decision.outcome.isFailure = false

/-- The calendar reaches back from a time over the life of a mandate. -/
def Parameters.Reaches (parameters : Parameters) (now : Instant) : Prop :=
  parameters.mandateLifetime = 0 ∨
    (now.before? (Text.asSigned64 parameters.mandateLifetime)).isSome = true

/-- A cycle within the calendar is done, and none of its decisions fails. -/
theorem Coherent.exists_done
    {desk : Desk}
    (coherent : desk.Coherent)
    {parameters : Parameters}
    (limits : Risk.Limits)
    (feed : Feed)
    {now : Instant}
    (reaches : parameters.Reaches now) :
    ∃ turn summary,
      desk.runCycle parameters limits feed none now =
        (turn, .done summary) ∧
      summary.IsClean := by
  cases fresh : feed.fresh parameters.oldestSnapshot now with
  | error fault =>
    rcases runCycle_of_stale desk parameters limits fresh with
      ⟨halt, tally, ran⟩
    exact ⟨_, _, ran, fun decision member => by simp at member⟩
  | ok snapshot =>
    rcases runCycle_of_fresh coherent parameters limits fresh with
      ⟨expiry, _⟩ | ⟨turn, summary, worked, ran⟩
    · have present := (isSome_expire_iff desk.registry _ now).mpr reaches
      rw [expiry] at present
      contradiction
    · refine ⟨turn, summary, ran, ?_⟩
      rcases worked with ⟨expiry, run, resending, served⟩
      exact run.isFailure_eq_false

end Desk

/-! ## Sessions that go on -/

namespace Session

open Desk (CycleSummary)

/-- A session that takes cycles and reports. -/
structure IsLive (session : Session) : Prop where
  sound : session.IsSound
  running : session.phase = .running

theorem IsLive.isRunning
    {session : Session}
    (live : session.IsLive) :
    session.phase.isRunning = true := by
  rw [live.running]
  rfl

theorem IsSound.isLive
    {session : Session}
    (sound : session.IsSound)
    (running : session.phase.isRunning = true) :
    session.IsLive := by
  refine ⟨sound, ?_⟩
  cases phase : session.phase with
  | running => rfl
  | ended | brokeDown => simp [phase, Phase.isRunning] at running

/-- A report is settled or turned down, and the session goes on. -/
theorem IsLive.settle
    {session : Session}
    (live : session.IsLive)
    (report : Venue.Report)
    (now : Instant) :
    (session.settle report now).1.IsLive ∧
      ∀ fault, (session.settle report now).2 = .error fault →
        fault.isFatal = false := by
  have sound := live.sound.settle report now
  have harmless := fun fault =>
    @Desk.Reachable.isFatal_of_settle _ _ _ live.sound.reached report now fault
  unfold Session.settle at sound ⊢
  rw [if_pos live.isRunning] at sound ⊢
  generalize session.desk.settle report now = result at sound harmless ⊢
  rcases result with ⟨desk, fault | transition⟩
  · have spared := harmless fault rfl
    simp only [spared] at sound ⊢
    refine ⟨⟨sound, live.running⟩, ?_⟩
    rintro _ ⟨⟩
    exact spared
  · refine ⟨⟨sound, live.running⟩, ?_⟩
    rintro _ ⟨⟩

theorem IsLive.delivering
    {delivery : Delivery}
    (live : delivery.session.IsLive)
    (dispatch : Venue.Dispatch) :
    (delivery.next dispatch).session.IsLive := by
  refine ⟨live.sound.delivering dispatch, ?_⟩
  unfold Delivery.next
  simp only
  split
  · exact live.running
  · split <;> exact live.running

theorem IsLive.deliver
    {session : Session}
    (live : session.IsLive)
    (outbox : List Venue.Dispatch)
    (now : Instant) :
    (session.deliver outbox now).1.IsLive :=
  deliver_preserves (fun dispatch known => known.delivering dispatch)
    (fun report now known => (known.settle report now).1) live outbox now

theorem IsLive.runCycle
    {session : Session}
    (live : session.IsLive)
    {now : Instant}
    (reaches : session.parameters.Reaches now) :
    (session.runCycle now).session.IsLive ∧
      ∃ summary, (session.runCycle now).result = .ok summary ∧
        summary.IsClean := by
  rcases live.sound.reached.coherent.exists_done session.limits session.feed
      reaches with
    ⟨turn, summary, ran, clean⟩
  have decided :
      IsLive
        { session with desk := turn.desk, feed := session.feed.read } := by
    refine ⟨live.sound.stepping rfl rfl rfl ?_, live.running⟩
    have step :=
      @Desk.Step.cycle session.parameters session.limits session.desk
        session.feed now
    rw [ran] at step
    exact step
  unfold Session.runCycle
  rw [if_pos live.isRunning]
  simp only [live.sound.room_eq_none, ran, Session.conclude, release,
    decided.sound.standing, Bool.not_false, if_true]
  exact ⟨decided.deliver turn.outbox now, summary, rfl, clean⟩

theorem isFatal_of_register
    {registry : Registry}
    {mandate : Mandate}
    {fault : Fault}
    (refused : registry.register mandate = .error fault) :
    fault.isFatal = false := by
  unfold Registry.register Mandate.validate at refused
  split at refused
  · rename_i known defective
    split at defective
    · cases defective
      cases refused
      rfl
    · contradiction
  · split at refused
    · cases refused
      rfl
    · contradiction

/-! ## Commands that leave a session its stages -/

/-- A command takes no stage away. -/
def Command.keepsStages : Command → Bool
  | .breakVenue => false
  | .shutDown => false
  | _ => true

/-- A command at a time that its cycle, if it is one, can reckon from. -/
def Command.IsTimely
    (parameters : Desk.Parameters)
    (now : Instant) :
    Command → Prop
  | .cycle => parameters.Reaches now
  | _ => True

/-- A session goes on, and answers with no fatal fault. -/
theorem IsLive.step
    {session : Session}
    (live : session.IsLive)
    {now : Instant}
    {command : Command}
    (keeps : command.keepsStages = true)
    (timely : command.IsTimely session.parameters now) :
    (session.step now command).session.IsLive ∧
      ∀ fault, (session.step now command).reply = .failed fault →
        fault.isFatal = false := by
  have sound :=
    live.sound.step now command (by rintro rfl; contradiction)
  have heard {known : Session} (known_live : known.IsLive)
      (report : Venue.Report) :
      (known.hear report now).session.IsLive ∧
        ∀ fault, (known.hear report now).reply = .failed fault →
          fault.isFatal = false := by
    rcases known_live.settle report now with ⟨goes, harmless⟩
    refine ⟨goes, fun fault failed => harmless fault ?_⟩
    simp only [hear, replying] at failed
    cases answer : (known.settle report now).2 with
    | error cause =>
      rw [answer] at failed
      cases failed
      rfl
    | ok transition =>
      rw [answer] at failed
      cases failed
  have moved (venue : PaperVenue) : (session.withVenue venue).IsLive :=
    ⟨live.sound.beside rfl rfl rfl rfl, live.running⟩
  cases command with
  | submit mandate =>
    unfold Session.step Session.submit at sound ⊢
    simp only at sound ⊢
    split at sound
    · rename_i fault refused
      refine ⟨live, ?_⟩
      rintro _ ⟨⟩
      exact isFatal_of_register refused
    · refine ⟨⟨sound, live.running⟩, ?_⟩
      rintro _ ⟨⟩
  | cancelSource source =>
    refine ⟨⟨sound, live.running⟩, ?_⟩
    rintro _ ⟨⟩
  | cycle =>
    rcases live.runCycle timely with ⟨goes, summary, done, _⟩
    refine ⟨goes, fun fault failed => ?_⟩
    simp only [Session.step, done] at failed
    cases failed
  | report report => exact heard live report
  | fill dispatch price => exact heard (moved _) _
  | fillPartially dispatch quantity price => exact heard (moved _) _
  | reject dispatch reason => exact heard live _
  | publish snapshot =>
    refine ⟨⟨sound, live.running⟩, ?_⟩
    rintro _ ⟨⟩
  | refuseNext =>
    refine ⟨⟨sound, live.running⟩, ?_⟩
    rintro _ ⟨⟩
  | closeVenue =>
    refine ⟨⟨sound, live.running⟩, ?_⟩
    rintro _ ⟨⟩
  | breakVenue => contradiction
  | failStore isFailing =>
    refine ⟨⟨sound, live.running⟩, ?_⟩
    rintro _ ⟨⟩
  | halt reason =>
    refine ⟨⟨sound, live.running⟩, ?_⟩
    rintro _ ⟨⟩
  | clearHalt =>
    refine ⟨⟨sound, live.running⟩, ?_⟩
    rintro _ ⟨⟩
  | shutDown => contradiction

/-- A session that nobody takes the stages away from. -/
inductive Undisturbed : Session → Prop where
  /-- It starts without positions. -/
  | blank (parameters : Desk.Parameters) (limits : Risk.Limits)
      (genesis : Snapshot) (venue : PaperVenue) (store : Store) :
      Undisturbed
        (initial parameters limits genesis venue (Desk.blank store))
  /-- It starts with the positions that it recovers. -/
  | started {parameters limits genesis venue store now session summary}
      (started :
        start parameters limits genesis venue store now =
          .ok (session, summary)) :
      Undisturbed session
  | step {session now command}
      (undisturbed : Undisturbed session)
      (keeps : command.keepsStages = true)
      (timely : command.IsTimely session.parameters now) :
      Undisturbed (session.step now command).session

theorem running_of_start
    {parameters : Desk.Parameters}
    {limits : Risk.Limits}
    {genesis : Snapshot}
    {venue : PaperVenue}
    {store : Store}
    {now : Instant}
    {session : Session}
    {summary : Reconciliation.Summary}
    (started :
      start parameters limits genesis venue store now =
        .ok (session, summary)) :
    session.phase = .running := by
  unfold start at started
  split at started
  · contradiction
  · cases started
    rfl

theorem Undisturbed.isLive
    {session : Session}
    (undisturbed : Undisturbed session) :
    session.IsLive := by
  induction undisturbed with
  | blank parameters limits genesis venue store =>
    exact ⟨⟨rfl, .blank store⟩, rfl⟩
  | started started => exact ⟨isSound_start started, running_of_start started⟩
  | step _ keeps timely live => exact (live.step keeps timely).1

/--
A session that nobody takes the stages away from never breaks itself.  A cycle
within the calendar returns a summary in which no decision failed, and no
command is answered by a fatal fault: in particular no report is, whatever it
says.
-/
theorem never_breaks_itself
    {session : Session}
    (undisturbed : Undisturbed session)
    (now : Instant) :
    (session.parameters.Reaches now →
      ∃ summary,
        (session.step now .cycle).reply = .summary summary ∧
        ∀ decision ∈ summary.decisions,
          decision.outcome.isFailure = false) ∧
    ∀ command fault,
      command.keepsStages = true →
      command.IsTimely session.parameters now →
      (session.step now command).reply = .failed fault →
      fault.isFatal = false := by
  have live := undisturbed.isLive
  constructor
  · intro reaches
    rcases live.runCycle reaches with ⟨_, summary, done, clean⟩
    refine ⟨summary, ?_, clean⟩
    show Reply.ofResult .summary (session.runCycle now).result = _
    rw [done]
    rfl
  · intro command fault keeps timely failed
    exact (live.step keeps timely).2 fault failed

end Session

namespace Desk.Sample

/-- A session without positions, at a venue that holds nothing. -/
def beginning : Session :=
  .initial .standard .standard snapshot (PaperVenue.holding [])
    (blank (Store.working default))

/-- The session once the entry was wished for. -/
def begun : Session :=
  (beginning.step (moment 1) (.submit entry)).session

theorem undisturbed_begun : begun.Undisturbed :=
  .step (.blank _ _ _ _ _) rfl trivial

/-- The cycle that enters returns a summary, and its decision succeeds. -/
theorem never_breaks_itself_begun :
    ∃ summary,
      (begun.step (moment 1) .cycle).reply = .summary summary ∧
      ∀ decision ∈ summary.decisions,
        decision.outcome.isFailure = false :=
  (Session.never_breaks_itself undisturbed_begun (moment 1)).1
    (Or.inr (by decide +kernel))

end Desk.Sample

end MandateDesk
