import MandateDesk.Proofs.Histories

/-!
# Venues that break down

A venue that breaks down takes the stage with it that brings orders.  From then
on a cycle has room for so many orders only, and the session ends after the
first cycle that hands any over.  So a breakdown cuts a run short, and nothing
else: up to its last cycle the run goes as it would have gone at a venue that
stands, and what that cycle hands over is the beginning of what it would have
handed over.

What is true of all that is handed over as long as the venue stands is
therefore true of all that is ever handed over.
-/

namespace MandateDesk

namespace Desk

open Reservation (Token)

/-! ## Cycles with little room -/

/-- The fault of a cycle that finds no room for an order. -/
def crowded : Fault :=
  .stageStopped .dispatchUnreachable

/--
A bounded turn goes along with a free one, or it runs out of room on the way
and is cut off.
-/
inductive Follows {α : Type} (stop : α) (outbox : List Venue.Dispatch)
    (room : Nat) : Turn × α → Turn × α → Prop where
  | along {desk sent left answer}
      (fits : sent.length + left = room) :
      Follows stop outbox room
        (⟨desk, outbox ++ sent, none⟩, answer)
        (⟨desk, outbox ++ sent, some left⟩, answer)
  | cut {desk stuck sent more answer}
      (full : sent.length = room) :
      Follows stop outbox room
        (⟨desk, outbox ++ (sent ++ more), none⟩, answer)
        (⟨stuck, outbox ++ sent, some 0⟩, stop)

/-- A turn goes on with what it came to, unless a fault has stopped it. -/
def Turn.andThen
    {α β : Type}
    (result : Turn × Except Fault α)
    (next : Turn → α → Turn × Except Fault β) :
    Turn × Except Fault β :=
  match result with
  | (turn, .error fault) => (turn, .error fault)
  | (turn, .ok value) => next turn value

theorem decideSymbol_eq
    (round : Round)
    (agenda : Agenda)
    (symbol : Symbol)
    (turn : Turn) :
    decideSymbol round agenda symbol turn =
      Turn.andThen
        (carryOutVerdict round (agenda.actionOf symbol) turn
          (judge round agenda turn.desk.book symbol))
        fun next outcome =>
          (next.on
              (next.desk.record
                (decisionOn round agenda turn.desk symbol outcome)),
            .ok (decisionOn round agenda turn.desk symbol outcome)) := by
  simp only [decideSymbol, Turn.andThen]
  rcases carryOutVerdict round _ turn _ with ⟨next, fault | outcome⟩
  · rfl
  · rfl

theorem decideAll_cons
    (round : Round)
    (agenda : Agenda)
    (symbol : Symbol)
    (rest : List Symbol)
    (turn : Turn) :
    decideAll round agenda (symbol :: rest) turn =
      Turn.andThen (decideSymbol round agenda symbol turn)
        fun next decision =>
          Turn.andThen (decideAll round agenda rest next)
            fun last decisions => (last, .ok (decision :: decisions)) := by
  simp only [decideAll, Turn.andThen]
  rcases decideSymbol round agenda symbol turn with ⟨next, fault | decision⟩
  · rfl
  · simp only
    rcases decideAll round agenda rest next with ⟨last, fault | decisions⟩
    · rfl
    · rfl

theorem resendAll_cons
    (position : Position)
    (rest : List Position)
    (turn : Turn) :
    resendAll (position :: rest) turn =
      Turn.andThen (resendOne position turn)
        fun next _ => resendAll rest next := by
  simp only [resendAll, Turn.andThen]
  rcases resendOne position turn with ⟨next, fault | done⟩
  · rfl
  · rfl

theorem gate_eq
    (round : Round)
    (actions : OrderedMap Symbol Action)
    (turn : Turn) :
    gate round actions turn =
      Turn.andThen
        (decideAll round (agenda round turn.desk.book actions)
          (agenda round turn.desk.book actions).symbols turn)
        fun decided decisions =>
          Turn.andThen
            (resendAll decided.desk.book.positions.values decided)
            fun resent _ =>
              (resent.on
                  { resent.desk with
                    reading := some (takeReading round resent.desk.book) },
                .ok decisions) := by
  simp only [gate, Turn.andThen]
  rcases decideAll round _ _ turn with ⟨decided, fault | decisions⟩
  · rfl
  · simp only
    rcases resendAll _ decided with ⟨resent, fault | done⟩
    · rfl
    · rfl

namespace Follows

variable {α β : Type} {stop : α} {outbox : List Venue.Dispatch} {room : Nat}

/-- Nothing is handed over. -/
theorem still
    (stop : α)
    (outbox : List Venue.Dispatch)
    (room : Nat)
    (desk : Desk)
    (answer : α) :
    Follows stop outbox room (⟨desk, outbox, none⟩, answer)
      (⟨desk, outbox, some room⟩, answer) := by
  have along :=
    @along α stop outbox room desk [] room answer (Nat.zero_add room)
  rw [List.append_nil] at along
  exact along

theorem map
    {free bound : Turn × α}
    (follows : Follows stop outbox room free bound)
    (answer : α → β)
    {left : β}
    (stops : answer stop = left) :
    Follows left outbox room (free.1, answer free.2)
      (bound.1, answer bound.2) := by
  cases follows with
  | along fits => exact .along fits
  | cut full =>
    subst stops
    exact .cut full

/-- A turn that goes along so far goes on as its rest does. -/
theorem onward
    {sent : List Venue.Dispatch}
    {left : Nat}
    (fits : sent.length + left = room)
    {free bound : Turn × α}
    (follows : Follows stop (outbox ++ sent) left free bound) :
    Follows stop outbox room free bound := by
  cases follows with
  | along fitted =>
    rw [List.append_assoc]
    exact .along (by rw [List.length_append]; omega)
  | cut full =>
    rw [List.append_assoc, List.append_assoc, ← List.append_assoc sent]
    exact .cut (by rw [List.length_append]; omega)

/-- A turn that is cut off stays so, whatever the free one does next. -/
theorem cutOff
    {sent more : List Venue.Dispatch}
    (full : sent.length = room)
    (stuck : Desk)
    {free bound : Turn × α}
    (goes : Follows stop (outbox ++ (sent ++ more)) 0 free bound) :
    Follows stop outbox room free (⟨stuck, outbox ++ sent, some 0⟩, stop) := by
  cases goes with
  | along =>
    rw [List.append_assoc, List.append_assoc]
    exact .cut full
  | cut =>
    rw [List.append_assoc, List.append_assoc]
    exact .cut full

/-- Turns that follow each other go on so, if they do in their next step. -/
theorem andThen
    {free bound : Turn × Except Fault α}
    (follows : Follows (Except.error crowded) outbox room free bound)
    {next : Turn → α → Turn × Except Fault β}
    (goes : ∀ value outbox room desk,
      Follows (Except.error crowded) outbox room
        (next ⟨desk, outbox, none⟩ value)
        (next ⟨desk, outbox, some room⟩ value)) :
    Follows (Except.error crowded) outbox room (Turn.andThen free next)
      (Turn.andThen bound next) := by
  cases follows with
  | @along desk sent left answer fits =>
    cases answer with
    | error fault => exact .along fits
    | ok value => exact onward fits (goes value _ left desk)
  | @cut desk stuck sent more answer full =>
    cases answer with
    | error fault => exact .cut full
    | ok value => exact cutOff full stuck (goes value _ 0 desk)

end Follows

section Bounded

variable (outbox : List Venue.Dispatch) (room : Nat)

theorem dispatch_follows
    (desk : Desk)
    (action : Action)
    (order : Venue.Order)
    (token : Option Token) :
    Follows (Except.error crowded) outbox room
      (Turn.dispatch ⟨desk, outbox, none⟩ action order token)
      (Turn.dispatch ⟨desk, outbox, some room⟩ action order token) := by
  cases room with
  | zero =>
    have cut :=
      @Follows.cut (Except Fault DispatchId) (.error crowded) outbox 0
        (desk.launched action.symbol order token)
        (withdraw
          { desk.start action.symbol
              ⟨desk.nextDispatch, order, token, false⟩ with
            issued := desk.issued + 1 }
          action.symbol)
        [] [desk.issue action order (token.map Reservation.Token.receipt)]
        (.ok desk.nextDispatch) rfl
    rw [List.append_nil] at cut
    exact cut
  | succ left =>
    exact .along (by rw [List.length_singleton]; omega)

theorem requestCancel_follows
    (desk : Desk)
    (action : Action) :
    Follows (Except.error crowded) outbox room
      (Turn.requestCancel ⟨desk, outbox, none⟩ action)
      (Turn.requestCancel ⟨desk, outbox, some room⟩ action) := by
  unfold Turn.requestCancel
  simp only
  split
  · exact .still ..
  · rename_i order working
    cases room with
    | zero =>
      have cut :=
        @Follows.cut (Except Fault (Option DispatchId)) (.error crowded)
          outbox 0 (desk.cancelling action.symbol order)
          (desk.cancelling action.symbol order) []
          [desk.issue action (.cancelEntry order.dispatch) none]
          (.ok (some desk.nextDispatch)) rfl
      rw [List.append_nil] at cut
      exact cut
    | succ left => exact .along (by rw [List.length_singleton]; omega)

theorem carryOut_follows
    (round : Round)
    (action : Action)
    (event : Position.Event)
    (order : Desk → Venue.Order)
    (desk : Desk) :
    Follows (Except.error crowded) outbox room
      (carryOut round action event order ⟨desk, outbox, none⟩)
      (carryOut round action event order ⟨desk, outbox, some room⟩) := by
  unfold carryOut
  simp only
  split
  · exact .still ..
  · exact dispatch_follows outbox room _ action _ none

theorem enterWith_follows
    (round : Round)
    (action : Action)
    (direction : Direction)
    (token : Token)
    (desk : Desk) :
    Follows (Except.error crowded) outbox room
      (enterWith round action direction token ⟨desk, outbox, none⟩)
      (enterWith round action direction token ⟨desk, outbox, some room⟩) := by
  unfold enterWith
  simp only
  split
  · exact .still ..
  · exact (dispatch_follows outbox room _ action _ _).map _ rfl

theorem admitEntry_follows
    (round : Round)
    (action : Action)
    (desk : Desk) :
    Follows (Except.error crowded) outbox room
      (admitEntry round action ⟨desk, outbox, none⟩)
      (admitEntry round action ⟨desk, outbox, some room⟩) := by
  unfold admitEntry
  simp only
  split
  · exact .still ..
  split
  · exact .still ..
  split
  · exact .still ..
  · exact enterWith_follows outbox room ..

theorem admitAction_follows
    (round : Round)
    (action : Action)
    (desk : Desk) :
    Follows (Except.error crowded) outbox room
      (admitAction round action ⟨desk, outbox, none⟩)
      (admitAction round action ⟨desk, outbox, some room⟩) := by
  unfold admitAction
  cases action.kind with
  | entry => exact admitEntry_follows outbox room round action desk
  | reduce =>
    simp only [admitReduce]
    split
    · exact .still ..
    · exact (carryOut_follows outbox room ..).map _ rfl
  | exit =>
    simp only [admitExit]
    split
    · exact (requestCancel_follows outbox room ..).map _ rfl
    · exact (carryOut_follows outbox room ..).map _ rfl
    · exact .still ..
  | hold => exact .still ..
  | noAction => exact .still ..

theorem carryOutVerdict_follows
    (round : Round)
    (action : Action)
    (verdict : Risk.Verdict)
    (desk : Desk) :
    Follows (Except.error crowded) outbox room
      (carryOutVerdict round action ⟨desk, outbox, none⟩ verdict)
      (carryOutVerdict round action ⟨desk, outbox, some room⟩ verdict) := by
  cases verdict with
  | accept => exact admitAction_follows outbox room round action desk
  | reject => exact .still ..
  | forceExit symbol distance =>
    simp only [carryOutVerdict, forceExit]
    split
    · exact (carryOut_follows outbox room ..).map _ rfl
    · exact (requestCancel_follows outbox room ..).map _ rfl
    · exact .still ..
    · exact .still ..

theorem decideSymbol_follows
    (round : Round)
    (agenda : Agenda)
    (symbol : Symbol)
    (desk : Desk) :
    Follows (Except.error crowded) outbox room
      (decideSymbol round agenda symbol ⟨desk, outbox, none⟩)
      (decideSymbol round agenda symbol ⟨desk, outbox, some room⟩) := by
  have goes :=
    carryOutVerdict_follows outbox room round (agenda.actionOf symbol)
      (judge round agenda desk.book symbol) desk
  rw [decideSymbol_eq, decideSymbol_eq]
  exact goes.andThen fun _ outbox room _ =>
    .still (Except.error crowded) outbox room _ _

theorem decideAll_follows
    (round : Round)
    (agenda : Agenda)
    (symbols : List Symbol)
    (desk : Desk) :
    Follows (Except.error crowded) outbox room
      (decideAll round agenda symbols ⟨desk, outbox, none⟩)
      (decideAll round agenda symbols ⟨desk, outbox, some room⟩) := by
  induction symbols generalizing desk outbox room with
  | nil => exact .still ..
  | cons symbol rest hypothesis =>
    have goes := decideSymbol_follows outbox room round agenda symbol desk
    rw [decideAll_cons, decideAll_cons]
    exact goes.andThen fun _ outbox room next =>
      (hypothesis outbox room next).andThen fun _ _ _ _ => .still ..

theorem resendOne_follows
    (position : Position)
    (desk : Desk) :
    Follows (Except.error crowded) outbox room
      (resendOne position ⟨desk, outbox, none⟩)
      (resendOne position ⟨desk, outbox, some room⟩) := by
  unfold resendOne
  simp only
  split
  · exact .still ..
  split
  · exact .still ..
  · rename_i kind order pending
    have dispatched :=
      dispatch_follows outbox room desk (resentAction position kind) order
        none
    generalize Turn.dispatch ⟨desk, outbox, none⟩ _ _ _ = free
      at dispatched ⊢
    generalize Turn.dispatch ⟨desk, outbox, some room⟩ _ _ _ = bound
      at dispatched ⊢
    cases dispatched with
    | @along _ _ _ answer fits => cases answer <;> exact .along fits
    | @cut _ _ _ _ answer full => cases answer <;> exact .cut full

theorem resendAll_follows
    (positions : List Position)
    (desk : Desk) :
    Follows (Except.error crowded) outbox room
      (resendAll positions ⟨desk, outbox, none⟩)
      (resendAll positions ⟨desk, outbox, some room⟩) := by
  induction positions generalizing desk outbox room with
  | nil => exact .still ..
  | cons position rest hypothesis =>
    have goes := resendOne_follows outbox room position desk
    rw [resendAll_cons, resendAll_cons]
    exact goes.andThen fun _ => hypothesis

theorem gate_follows
    (round : Round)
    (actions : OrderedMap Symbol Action)
    (desk : Desk) :
    Follows (Except.error crowded) outbox room
      (gate round actions ⟨desk, outbox, none⟩)
      (gate round actions ⟨desk, outbox, some room⟩) := by
  have goes :=
    decideAll_follows outbox room round (agenda round desk.book actions)
      (agenda round desk.book actions).symbols desk
  rw [gate_eq, gate_eq]
  exact goes.andThen fun _ outbox room decided =>
    (resendAll_follows outbox room decided.book.positions.values
      decided).andThen fun _ _ _ _ => .still ..

end Bounded

/-- A cycle with little room follows the cycle that it would have been. -/
theorem runCycle_follows
    (desk : Desk)
    (parameters : Parameters)
    (limits : Risk.Limits)
    (feed : Feed)
    (room : Nat)
    (now : Instant) :
    Follows (CycleEnd.stopped crowded) [] room
      (desk.runCycle parameters limits feed none now)
      (desk.runCycle parameters limits feed (some room) now) := by
  unfold runCycle
  simp only
  split
  · rename_i snapshot fresh
    unfold decideOn
    simp only
    split
    · exact .still ..
    · rename_i registry expired expiry
      have gated :=
        gate_follows [] room
          (roundOf (desk.tripOverdue parameters.reservationTimeout now)
            parameters limits snapshot now)
          (arbitrate (desk.collected parameters registry now)
            parameters.aging now)
          (desk.collected parameters registry now)
      unfold roundOf collected at gated
      simp only [Turn.on]
      generalize gate _ _ ⟨_, _, none⟩ = free at gated ⊢
      generalize gate _ _ ⟨_, _, some room⟩ = bound at gated ⊢
      cases gated with
      | @along _ _ _ answer fits => cases answer <;> exact .along fits
      | @cut _ _ _ _ answer full => cases answer <;> exact .cut full
  · exact .still ..

/-- A cycle that is done goes as one that could hand over any number. -/
theorem exists_runCycle_of_done
    {desk : Desk}
    {parameters : Parameters}
    {limits : Risk.Limits}
    {feed : Feed}
    {room : Option Nat}
    {now : Instant}
    {turn : Turn}
    {summary : CycleSummary}
    (done :
      desk.runCycle parameters limits feed room now =
        (turn, .done summary)) :
    ∃ free,
      desk.runCycle parameters limits feed none now =
        (free, .done summary) ∧
      free.desk = turn.desk ∧ free.outbox = turn.outbox := by
  cases room with
  | none => exact ⟨turn, done, rfl, rfl⟩
  | some room =>
    have follows := runCycle_follows desk parameters limits feed room now
    rw [done] at follows
    generalize desk.runCycle parameters limits feed none now = free
      at follows
    cases follows with
    | along => exact ⟨_, rfl, rfl, rfl⟩

end Desk

/-! ## Runs that are cut short -/

namespace Session

/-- The session at a venue that stands. -/
def mended (session : Session) : Session :=
  { session with isBroken := false }

theorem mended_of_standing
    {session : Session}
    (standing : session.isBroken = false) :
    session.mended = session := by
  rcases session with ⟨desk, parameters, limits, feed, venue, isBroken, phase⟩
  cases standing
  rfl

theorem settle_mended
    (session : Session)
    (report : Venue.Report)
    (now : Instant) :
    (session.mended.settle report now).1 =
      (session.settle report now).1.mended := by
  by_cases running : session.phase.isRunning = true
  · have goes : session.mended.phase.isRunning = true := running
    have same :
        session.mended.desk.settle report now =
          session.desk.settle report now :=
      rfl
    unfold settle
    rw [if_pos running, if_pos goes, same]
    rcases session.desk.settle report now with ⟨desk, fault | transition⟩
    · by_cases fatal : fault.isFatal = true
      · simp only [if_pos fatal]
        rfl
      · simp only [if_neg fatal]
        rfl
    · rfl
  · have ended : session.phase.isRunning = false := by simpa using running
    rw [settle_of_ended ended, @settle_of_ended session.mended ended]

/-- A venue that is broken stays so. -/
theorem isBroken_step
    {session : Session}
    (broken : session.isBroken = true)
    (now : Instant)
    (command : Command) :
    (session.step now command).session.isBroken = true := by
  have settled (known : Session) (report : Venue.Report)
      (stuck : known.isBroken = true) :
      (known.settle report now).1.isBroken = true := by
    cases running : known.phase.isRunning with
    | false =>
      rw [settle_of_ended running]
      exact stuck
    | true =>
      rcases exists_settle_eq running report now with ⟨halt, phase, same⟩
      rw [same]
      exact stuck
  cases command with
  | submit mandate =>
    unfold Session.step Session.submit
    simp only
    split <;> exact broken
  | cycle =>
    unfold Session.step Session.runCycle
    simp only
    split
    · rcases session.desk.runCycle session.parameters session.limits
        session.feed session.room now with ⟨turn, summary | fault | _⟩
      all_goals
        simp only [conclude, release, broken, stop, Bool.not_true,
          Bool.false_eq_true, if_false]
        split <;> rfl
    · exact broken
  | report report => exact settled session report broken
  | fill dispatch price => exact settled (session.withVenue _) _ broken
  | fillPartially dispatch quantity price =>
    exact settled (session.withVenue _) _ broken
  | reject dispatch reason => exact settled session _ broken
  | shutDown =>
    unfold Session.step Session.shutDown
    simp only
    split <;> exact broken
  | breakVenue => rfl
  | cancelSource source => exact broken
  | publish snapshot => exact broken
  | refuseNext => exact broken
  | closeVenue => exact broken
  | failStore isFailing => exact broken
  | halt reason => exact broken
  | clearHalt => exact broken

/-- A session that has ended hands nothing over, and does not go on. -/
theorem handed_of_ended
    {session : Session}
    (ended : session.phase.isRunning = false)
    (now : Instant)
    (command : Command) :
    (session.step now command).handed = [] ∧
      (session.step now command).session.phase.isRunning = false := by
  have heard (venue : PaperVenue) (report : Venue.Report) :
      ((session.withVenue venue).hear report now).session.phase.isRunning =
        false := by
    show ((session.withVenue venue).settle report now).1.phase.isRunning = _
    rw [@settle_of_ended (session.withVenue venue) ended]
    exact ended
  cases command with
  | submit mandate =>
    unfold Session.step Session.submit
    simp only
    split <;> exact ⟨rfl, ended⟩
  | cycle =>
    unfold Session.step Session.runCycle
    simp [ended]
  | report report => exact ⟨rfl, heard session.venue report⟩
  | fill dispatch price => exact ⟨rfl, heard _ _⟩
  | fillPartially dispatch quantity price => exact ⟨rfl, heard _ _⟩
  | reject dispatch reason => exact ⟨rfl, heard session.venue _⟩
  | shutDown =>
    unfold Session.step Session.shutDown
    simp [ended, replying]
  | cancelSource source => exact ⟨rfl, ended⟩
  | publish snapshot => exact ⟨rfl, ended⟩
  | refuseNext => exact ⟨rfl, ended⟩
  | closeVenue => exact ⟨rfl, ended⟩
  | breakVenue => exact ⟨rfl, ended⟩
  | failStore isFailing => exact ⟨rfl, ended⟩
  | halt reason => exact ⟨rfl, ended⟩
  | clearHalt => exact ⟨rfl, ended⟩

/-- Only a cycle finds out that the venue is broken. -/
theorem step_mended
    (session : Session)
    (now : Instant)
    {command : Command}
    (spared : command ≠ .breakVenue)
    (idle : command ≠ .cycle) :
    (session.mended.step now command).session =
        (session.step now command).session.mended ∧
      (session.mended.step now command).handed =
        (session.step now command).handed ∧
      command.registered (session.mended.step now command).reply =
        command.registered (session.step now command).reply := by
  cases command with
  | submit mandate =>
    simp only [Session.step, Session.submit, mended]
    cases session.desk.registry.register mandate <;> exact ⟨rfl, rfl, rfl⟩
  | cycle => contradiction
  | report report => exact ⟨settle_mended session report now, rfl, rfl⟩
  | fill dispatch price =>
    exact ⟨settle_mended (session.withVenue _) _ now, rfl, rfl⟩
  | fillPartially dispatch quantity price =>
    exact ⟨settle_mended (session.withVenue _) _ now, rfl, rfl⟩
  | reject dispatch reason => exact ⟨settle_mended session _ now, rfl, rfl⟩
  | shutDown =>
    show session.mended.shutDown.1 = session.shutDown.1.mended ∧ _ ∧ _
    refine ⟨?_, rfl, ?_⟩
    · unfold shutDown
      by_cases running : session.phase.isRunning = true
      · rw [if_pos running, if_pos (show session.mended.phase.isRunning = true
          from running)]
        rfl
      · rw [if_neg running, if_neg (show ¬ session.mended.phase.isRunning = true
          from running)]
    · unfold Command.registered
      rfl
  | cancelSource source => exact ⟨rfl, rfl, rfl⟩
  | publish snapshot => exact ⟨rfl, rfl, rfl⟩
  | refuseNext => exact ⟨rfl, rfl, rfl⟩
  | closeVenue => exact ⟨rfl, rfl, rfl⟩
  | breakVenue => contradiction
  | failStore isFailing => exact ⟨rfl, rfl, rfl⟩
  | halt reason => exact ⟨rfl, rfl, rfl⟩
  | clearHalt => exact ⟨rfl, rfl, rfl⟩

/-- At a broken venue a session goes on only if it handed nothing over. -/
theorem nil_of_release
    {session : Session}
    {outbox : List Venue.Dispatch}
    {now : Instant}
    (goes : (session.release outbox now).1.phase.isRunning = true)
    (broken : session.isBroken = true) :
    session.phase.isRunning = true ∧ outbox = [] := by
  unfold release at goes
  simp only [broken, Bool.not_true, Bool.false_eq_true, if_false] at goes
  split at goes
  · rename_i idle
    rw [show session.phase.isRunning = true from goes] at idle
    exact ⟨goes, by simpa using idle⟩
  · have ended : false = true := goes
    contradiction

/--
A cycle at a broken venue hands over the beginning of what it would have handed
over, and the session goes on only where that is nothing.
-/
theorem runCycle_mended
    {session : Session}
    (broken : session.isBroken = true)
    (running : session.phase.isRunning = true)
    (now : Instant) :
    (session.runCycle now).handed <+: (session.mended.runCycle now).handed ∧
      ((session.runCycle now).session.phase.isRunning = true →
        (session.mended.runCycle now).session =
            (session.runCycle now).session.mended ∧
          (session.mended.runCycle now).handed =
            (session.runCycle now).handed) := by
  have follows :=
    Desk.runCycle_follows session.desk session.parameters session.limits
      session.feed (max session.parameters.channelCapacity 1) now
  have goes : session.mended.phase.isRunning = true := running
  have bounded :
      session.room = some (max session.parameters.channelCapacity 1) := by
    simp [room, broken]
  have free :
      session.mended.desk.runCycle session.mended.parameters
          session.mended.limits session.mended.feed session.mended.room now =
        session.desk.runCycle session.parameters session.limits session.feed
          none now :=
    rfl
  unfold Session.runCycle
  rw [if_pos running, if_pos goes, bounded, free]
  generalize session.desk.runCycle session.parameters session.limits
    session.feed none now = whole at follows ⊢
  generalize session.desk.runCycle session.parameters session.limits
    session.feed (some (max session.parameters.channelCapacity 1)) now = part
    at follows ⊢
  cases follows with
  | @along desk sent left ending fits =>
    refine ⟨List.prefix_refl _, fun went => ?_⟩
    simp only [List.nil_append] at went ⊢
    cases ending with
    | done summary =>
      have nothing := (nil_of_release went broken).2
      subst nothing
      simp [conclude, release, broken, mended, deliver]
    | stopped fault =>
      have ended : false = true := (nil_of_release went broken).1
      contradiction
    | brokeDown =>
      have ended : false = true := (nil_of_release went broken).1
      contradiction
  | @cut desk stuck sent more ending full =>
    refine ⟨List.prefix_append _ _, fun went => ?_⟩
    simp only [List.nil_append] at went
    have ended : false = true := (nil_of_release went broken).1
    contradiction

end Session

namespace History

/-- A run that may be cut short, beside one at a venue that stands. -/
structure Shortens (history whole : History) : Prop where
  unbroken : whole.Unbroken
  /-- The beginning of what could have been handed over was handed over. -/
  handed : history.handed <+: whole.handed
  /-- Mandates can still be registered once the session has ended. -/
  registered : whole.registered <+: history.registered
  /-- Until then both runs are the same. -/
  abreast : history.session.phase.isRunning = true →
    whole.session = history.session.mended ∧
      whole.handed = history.handed ∧
      whole.registered = history.registered

section Shortens

variable {history whole : History}

theorem Shortens.ended
    (shortens : history.Shortens whole)
    (ended : history.session.phase.isRunning = false)
    (now : Instant)
    (command : Session.Command) :
    (history.after now command).Shortens whole := by
  rcases Session.handed_of_ended ended now command with ⟨silent, stays⟩
  refine ⟨shortens.unbroken, ?_, ?_, fun goes => ?_⟩
  · simp only [after, silent, List.append_nil]
    exact shortens.handed
  · exact shortens.registered.trans (List.prefix_append _ _)
  · simp [after, stays] at goes

/-- Both runs go on together where they do the same. -/
theorem Shortens.together
    (shortens : history.Shortens whole)
    (running : history.session.phase.isRunning = true)
    (now : Instant)
    {command : Session.Command}
    (spared : command ≠ .breakVenue)
    (alike :
      (history.session.mended.step now command).session =
          (history.session.step now command).session.mended ∧
        (history.session.mended.step now command).handed =
          (history.session.step now command).handed ∧
        command.registered (history.session.mended.step now command).reply =
          command.registered (history.session.step now command).reply) :
    (history.after now command).Shortens (whole.after now command) := by
  rcases shortens.abreast running with ⟨same, handed, registered⟩
  rcases alike with ⟨session, sent, accepted⟩
  have handed :
      (whole.after now command).handed =
        (history.after now command).handed := by
    simp only [after, same, handed, sent]
  have registered :
      (whole.after now command).registered =
        (history.after now command).registered := by
    simp only [after, same, registered, accepted]
  refine ⟨shortens.unbroken.step now spared, ?_, ?_,
    fun _ => ⟨?_, handed, registered⟩⟩
  · exact handed ▸ List.prefix_refl _
  · exact registered ▸ List.prefix_refl _
  · simp only [after, same, session]

theorem Shortens.breaking
    (shortens : history.Shortens whole)
    (now : Instant) :
    (history.after now .breakVenue).Shortens whole := by
  have handed : (history.after now .breakVenue).handed = history.handed :=
    List.append_nil _
  have registered :
      (history.after now .breakVenue).registered = history.registered :=
    List.append_nil _
  refine ⟨shortens.unbroken, ?_, ?_, ?_⟩
  · rw [handed]
    exact shortens.handed
  · rw [registered]
    exact shortens.registered
  · rw [handed, registered]
    exact shortens.abreast

theorem Shortens.cycling
    (shortens : history.Shortens whole)
    (running : history.session.phase.isRunning = true)
    (now : Instant) :
    (history.after now .cycle).Shortens (whole.after now .cycle) := by
  rcases shortens.abreast running with ⟨same, handed, registered⟩
  have unbroken : (whole.after now .cycle).Unbroken :=
    shortens.unbroken.step now nofun
  cases broken : history.session.isBroken with
  | false =>
    have standing := unbroken.sound.standing
    have mended := Session.mended_of_standing broken
    simp only [after, same, mended] at standing
    refine shortens.together running now nofun ?_
    rw [mended, Session.mended_of_standing standing]
    exact ⟨rfl, rfl, rfl⟩
  | true =>
    rcases Session.runCycle_mended broken running now with ⟨part, goes⟩
    have silent (reply : Session.Reply) :
        Session.Command.registered .cycle reply = [] := by
      cases reply <;> rfl
    refine ⟨unbroken, ?_, ?_, fun went => ?_⟩
    · simp only [after, same, handed]
      exact (List.prefix_append_right_inj _).mpr part
    · simp only [after, silent, List.append_nil]
      exact shortens.registered
    · rcases goes went with ⟨stays, all⟩
      simp only [after, same, handed, registered, silent, and_true]
      exact ⟨stays, congrArg (history.handed ++ ·) all⟩

theorem Shortens.step
    (shortens : history.Shortens whole)
    (now : Instant)
    (command : Session.Command) :
    ∃ next, (history.after now command).Shortens next := by
  cases running : history.session.phase.isRunning with
  | false => exact ⟨whole, shortens.ended running now command⟩
  | true =>
    by_cases breaks : command = .breakVenue
    · subst breaks
      exact ⟨whole, shortens.breaking now⟩
    by_cases cycle : command = .cycle
    · subst cycle
      exact ⟨_, shortens.cycling running now⟩
    · exact ⟨_, shortens.together running now breaks
        (Session.step_mended history.session now breaks cycle)⟩

end Shortens

/-- A venue that stands has never broken down. -/
theorem Reached.unbroken
    {history : History}
    (reached : history.Reached)
    (standing : history.session.isBroken = false) :
    history.Unbroken := by
  induction reached with
  | start begins => exact .start begins
  | @step history _ now command hypothesis =>
    cases broken : history.session.isBroken with
    | true =>
      have stuck := Session.isBroken_step broken now command
      exact absurd (stuck.symm.trans standing) (by decide)
    | false =>
      refine (hypothesis broken).step now ?_
      rintro rfl
      have broke : true = false := standing
      contradiction

/-- Every run is one at a venue that stands, or the beginning of one. -/
theorem Reached.exists_whole
    {history : History}
    (reached : history.Reached) :
    ∃ whole, history.Shortens whole := by
  induction reached with
  | @start session begins =>
    refine ⟨beginning session, .start begins, List.prefix_refl _,
      List.prefix_refl _, fun _ => ⟨?_, rfl, rfl⟩⟩
    exact (Session.mended_of_standing begins.isSound.standing).symm
  | step _ now command hypothesis =>
    rcases hypothesis with ⟨whole, shortens⟩
    exact shortens.step now command

end History

end MandateDesk
