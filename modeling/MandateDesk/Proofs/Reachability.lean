import MandateDesk.Proofs.Cycles
import MandateDesk.Proofs.Reconciliation
import MandateDesk.Session.Command

/-!
# The desks that can occur

A desk starts blank, or with the book that a reconciliation recovered.  `Step`
lists all that happens to it from then on, one thing after another: mandates
come and go, cycles run on whatever market data there is, reports arrive
whether true or not, the venue turns down cancels, the latch is tripped and
cleared.  A desk is `Reachable` when it occurs in such a run.

Every desk that can occur is coherent.  The desk of a session stays among them
whatever the session is asked to do, as long as its venue does not break down.
-/

namespace MandateDesk

/-! ## Recovered books -/

namespace Reconciliation

/-- A position that waits for nothing. -/
def IsSettled (position : Position) : Prop :=
  position.state = .flat ∨ position.state = .opened

/-- Reconciliation takes the orders that worked before for dead. -/
theorem isSettled_of_resolve
    {saved : Option Position}
    {held : Option Venue.Holding}
    {symbol : Symbol}
    {now : Instant}
    {position : Position}
    (resolved : resolve saved held symbol now = .ok position) :
    IsSettled position := by
  cases resolve_eq_ok_iff.mp resolved with
  | kept agreed => exact Or.inr agreed.1
  | adopted => exact Or.inr rfl
  | idle flat => exact Or.inl flat
  | dropped => exact Or.inl rfl

end Reconciliation

/-- A recovered book holds settled positions in their shape. -/
theorem Reconciliation.recovered
    {store saved : Store}
    {venue : PaperVenue}
    {book : Book}
    {now : Instant}
    {summary : Summary}
    (ran : run store venue Book.empty now = (saved, book, .ok summary))
    {symbol : Symbol}
    {position : Position}
    (found : book.get? symbol = some position) :
    position.symbol = symbol ∧ position.WellFormed ∧ IsSettled position := by
  have resolves := ((get?_of_run ran).mp found).2
  exact ⟨symbol_of_resolves resolves, wellFormed_of_run ran found,
    isSettled_of_resolve resolves⟩

/-! ## Steps and runs -/

namespace Desk

/-- All that happens to a desk. -/
inductive Step (parameters : Parameters) (limits : Risk.Limits) :
    Desk → Desk → Prop where
  /-- A mandate is registered. -/
  | submit {desk : Desk} {registry mandate}
      (registered : desk.registry.register mandate = .ok registry) :
      Step parameters limits desk { desk with registry }
  /-- The mandates of a source are cancelled. -/
  | cancelSource (desk : Desk) (source : String) :
      Step parameters limits desk
        { desk with registry := (desk.registry.cancelSource source).1 }
  /-- A cycle runs on whatever market data was published last. -/
  | cycle (desk : Desk) (feed : Feed) (now : Instant) :
      Step parameters limits desk
        (desk.runCycle parameters limits feed none now).1.desk
  /-- A report arrives, true or not. -/
  | report (desk : Desk) (report : Venue.Report) (now : Instant) :
      Step parameters limits desk (desk.settle report now).1
  /-- The venue turns down a cancel. -/
  | keepEntry (desk : Desk) (symbol : Symbol) (target : DispatchId) :
      Step parameters limits desk (desk.keepEntry symbol target)
  /-- The latch is tripped. -/
  | halt (desk : Desk) (reason : Halt.Reason) (now : Instant) :
      Step parameters limits desk (desk.trip reason now)
  /-- The latch is cleared. -/
  | clearHalt (desk : Desk) :
      Step parameters limits desk { desk with halt := desk.halt.clear }
  /-- The store changes, and decisions are read. -/
  | keep (desk : Desk) (store : Store) (unread : List Decision) :
      Step parameters limits desk { desk with store, unread }

/-- A desk that can occur. -/
inductive Reachable (parameters : Parameters) (limits : Risk.Limits) :
    Desk → Prop where
  /-- A desk without positions. -/
  | blank (store : Store) : Reachable parameters limits (blank store)
  /-- A desk with the positions that a reconciliation recovered. -/
  | recovered {store saved venue book now summary}
      (ran :
        Reconciliation.run store venue Book.empty now =
          (saved, book, .ok summary)) :
      Reachable parameters limits { blank saved with book }
  | step {before after}
      (reached : Reachable parameters limits before)
      (step : Step parameters limits before after) :
      Reachable parameters limits after

/-- A desk starts coherent with the positions that it recovers. -/
theorem coherent_recovered
    {store saved : Store}
    {venue : PaperVenue}
    {book : Book}
    {now : Instant}
    {summary : Reconciliation.Summary}
    (ran :
      Reconciliation.run store venue Book.empty now =
        (saved, book, .ok summary)) :
    Coherent { blank saved with book } where
  keyed found := (Reconciliation.recovered ran found).1
  cell symbol := by
    show Cell (book.get? symbol) Reservations.free none
    cases found : book.get? symbol with
    | none => exact .unseen
    | some position =>
      rcases Reconciliation.recovered ran found with ⟨_, shaped, settled⟩
      refine .resting shaped ?_
      rcases settled with state | state <;> simp [state]
  registry := Registry.consistent_empty

/-- Whatever happens to a coherent desk leaves it coherent. -/
theorem Step.coherent
    {parameters : Parameters}
    {limits : Risk.Limits}
    {before after : Desk}
    (step : Step parameters limits before after)
    (coherent : before.Coherent) :
    after.Coherent := by
  cases step with
  | submit registered =>
    exact ⟨coherent.keyed, coherent.cell,
      coherent.registry.register registered⟩
  | cancelSource source =>
    exact ⟨coherent.keyed, coherent.cell,
      coherent.registry.moveWhere .cancelled _⟩
  | cycle feed now => exact coherent.runCycle parameters limits feed now
  | report report now => exact coherent.settle report now
  | keepEntry symbol target => exact coherent.keepEntry symbol target
  | halt => exact coherent.of_same rfl rfl rfl rfl
  | clearHalt => exact coherent.of_same rfl rfl rfl rfl
  | keep => exact coherent.of_same rfl rfl rfl rfl

/-- Every desk that can occur is coherent. -/
theorem Reachable.coherent
    {parameters : Parameters}
    {limits : Risk.Limits}
    {desk : Desk}
    (reached : Reachable parameters limits desk) :
    desk.Coherent := by
  induction reached with
  | blank store => exact coherent_blank store
  | recovered ran => exact coherent_recovered ran
  | step _ step hypothesis => exact step.coherent hypothesis

end Desk

/-! ## The desk of a session -/

namespace Session

/-- A session whose desk can occur and whose venue stands. -/
structure IsSound (session : Session) : Prop where
  standing : session.isBroken = false
  reached :
    Desk.Reachable session.parameters session.limits session.desk

/-- A change of the desk by a step keeps a session sound. -/
theorem IsSound.stepping
    {session next : Session}
    (sound : session.IsSound)
    (parameters : next.parameters = session.parameters)
    (limits : next.limits = session.limits)
    (standing : next.isBroken = session.isBroken)
    (step :
      Desk.Step session.parameters session.limits session.desk next.desk) :
    next.IsSound where
  standing := standing.trans sound.standing
  reached := by
    rw [parameters, limits]
    exact sound.reached.step step

/-- A change of all but the desk keeps a session sound. -/
theorem IsSound.beside
    {session next : Session}
    (sound : session.IsSound)
    (parameters : next.parameters = session.parameters)
    (limits : next.limits = session.limits)
    (standing : next.isBroken = session.isBroken)
    (desk : next.desk = session.desk) :
    next.IsSound where
  standing := standing.trans sound.standing
  reached := by
    rw [parameters, limits, desk]
    exact sound.reached

theorem IsSound.stop
    {session : Session}
    (sound : session.IsSound)
    (fault : Fault)
    (now : Instant) :
    (session.stop fault now).IsSound :=
  sound.stepping rfl rfl rfl (.halt _ _ now)

theorem IsSound.settle
    {session : Session}
    (sound : session.IsSound)
    (report : Venue.Report)
    (now : Instant) :
    (session.settle report now).1.IsSound := by
  have taken :
      IsSound { session with desk := (session.desk.settle report now).1 } :=
    sound.stepping rfl rfl rfl (.report session.desk report now)
  unfold Session.settle
  split
  · generalize settled : session.desk.settle report now = result at taken
    rcases result with ⟨desk, answer⟩
    cases answer with
    | ok transition => exact taken
    | error fault =>
      simp only
      split
      · exact taken.stop fault now
      · exact taken
  · exact sound

/-- Bringing one order to the venue keeps a session sound. -/
theorem IsSound.delivering
    {delivery : Delivery}
    (sound : delivery.session.IsSound)
    (dispatch : Venue.Dispatch) :
    (delivery.next dispatch).session.IsSound := by
  unfold Delivery.next
  simp only
  split
  · exact sound.beside rfl rfl rfl rfl
  · split
    · exact sound.stepping rfl rfl rfl
        (.keepEntry delivery.session.desk dispatch.symbol _)
    · exact sound.beside rfl rfl rfl rfl

/-- What each order and each report keeps is kept when orders are brought. -/
theorem deliver_preserves
    {kept : Session → Prop}
    (brings : ∀ {delivery : Delivery} (dispatch : Venue.Dispatch),
      kept delivery.session → kept (delivery.next dispatch).session)
    (settles : ∀ {session : Session} (report : Venue.Report) (now : Instant),
      kept session → kept (session.settle report now).1)
    {session : Session}
    (started : kept session)
    (outbox : List Venue.Dispatch)
    (now : Instant) :
    kept (session.deliver outbox now).1 := by
  have carried (delivery : Delivery) (known : kept delivery.session) :
      kept (outbox.foldl Delivery.next delivery).session := by
    induction outbox generalizing delivery with
    | nil => exact known
    | cons dispatch rest hypothesis =>
      exact hypothesis _ (brings dispatch known)
  have settled (refused : List Venue.Report) (other : Session)
      (known : kept other) :
      kept (refused.foldl (fun known report => (known.settle report now).1)
        other) := by
    induction refused generalizing other with
    | nil => exact known
    | cons report rest hypothesis =>
      exact hypothesis _ (settles report now known)
  exact settled _ _ (carried ⟨session, [], []⟩ started)

theorem IsSound.deliver
    {session : Session}
    (sound : session.IsSound)
    (outbox : List Venue.Dispatch)
    (now : Instant) :
    (session.deliver outbox now).1.IsSound :=
  deliver_preserves (fun dispatch known => known.delivering dispatch)
    (fun report now known => known.settle report now) sound outbox now

/-- A venue that stands does not bound a cycle. -/
theorem IsSound.room_eq_none
    {session : Session}
    (sound : session.IsSound) :
    session.room = none := by
  simp [room, sound.standing]

/--
However the cycle of a session ends, its orders are brought to the venue from a
desk that can occur.
-/
theorem IsSound.exists_decided
    {session : Session}
    (sound : session.IsSound)
    (running : session.phase.isRunning = true)
    (now : Instant) :
    ∃ (turn : Desk.Turn) (decided : Session) (halt : Halt)
        (result : Except Fault Desk.CycleSummary),
      (session.desk.runCycle session.parameters session.limits session.feed
        none now).1 = turn ∧
      decided.IsSound ∧
      decided.desk = { turn.desk with halt } ∧
      decided.venue = session.venue ∧
      session.runCycle now =
        ⟨(decided.deliver turn.outbox now).1, turn.outbox,
          (decided.deliver turn.outbox now).2, result⟩ := by
  have worked :
      IsSound
        { session with
          desk :=
            (session.desk.runCycle session.parameters session.limits
              session.feed none now).1.desk
          feed := session.feed.read } :=
    sound.stepping rfl rfl rfl (.cycle session.desk session.feed now)
  unfold Session.runCycle
  rw [if_pos running, sound.room_eq_none]
  generalize
    session.desk.runCycle session.parameters session.limits session.feed
      none now = result at worked ⊢
  rcases result with ⟨turn, ending⟩
  have released {decided : Session} (ready : decided.IsSound) :
      decided.release turn.outbox now = decided.deliver turn.outbox now := by
    simp [release, ready.standing]
  cases ending with
  | done summary =>
    refine ⟨turn, _, _, .ok summary, rfl, worked, rfl, rfl, ?_⟩
    simp only [conclude, released worked]
  | stopped fault =>
    have ended := worked.stop fault now
    refine ⟨turn, _, _, .error (.halted (fault.message .plain)), rfl, ended,
      rfl, rfl, ?_⟩
    simp only [conclude, released ended]
  | brokeDown =>
    have ended :
        IsSound
          { session with
            desk := turn.desk
            feed := session.feed.read
            phase := .brokeDown } :=
      worked.beside rfl rfl rfl rfl
    refine ⟨turn, _, _, .error (.channelClosed .reply), rfl, ended, rfl, rfl,
      ?_⟩
    simp only [conclude, released ended]

/-- A cycle keeps a session sound, with all that follows from its orders. -/
theorem IsSound.runCycle
    {session : Session}
    (sound : session.IsSound)
    (now : Instant) :
    (session.runCycle now).session.IsSound := by
  cases running : session.phase.isRunning with
  | true =>
    rcases sound.exists_decided running now with
      ⟨turn, decided, halt, result, _, ready, _, _, same⟩
    rw [same]
    exact ready.deliver turn.outbox now
  | false =>
    unfold Session.runCycle
    simp only [running, Bool.false_eq_true, if_false]
    exact sound

/-- Whatever a session is asked to do, its desk can occur. -/
theorem IsSound.step
    {session : Session}
    (sound : session.IsSound)
    (now : Instant)
    (command : Command)
    (spared : command ≠ .breakVenue) :
    (session.step now command).session.IsSound := by
  have heard {other : Session} (ready : other.IsSound)
      (report : Venue.Report) :
      (other.hear report now).session.IsSound :=
    ready.settle report now
  have moved (venue : PaperVenue) : (session.withVenue venue).IsSound :=
    sound.beside rfl rfl rfl rfl
  cases command with
  | submit mandate =>
    show (session.submit mandate).session.IsSound
    unfold submit
    split
    · exact sound
    · rename_i registry registered
      exact sound.stepping rfl rfl rfl (.submit registered)
  | cancelSource source =>
    exact sound.stepping rfl rfl rfl (.cancelSource session.desk source)
  | cycle => exact sound.runCycle now
  | report report => exact heard sound report
  | fill dispatch price => exact heard (moved _) _
  | fillPartially dispatch quantity price => exact heard (moved _) _
  | reject dispatch reason => exact heard sound _
  | publish snapshot => exact sound.beside rfl rfl rfl rfl
  | refuseNext => exact moved _
  | closeVenue => exact moved _
  | breakVenue => exact absurd rfl spared
  | failStore isFailing =>
    exact sound.stepping rfl rfl rfl (.keep session.desk _ _)
  | halt reason =>
    exact sound.stepping rfl rfl rfl (.halt session.desk (.manual reason) now)
  | clearHalt => exact sound.stepping rfl rfl rfl (.clearHalt session.desk)
  | shutDown =>
    show session.shutDown.1.IsSound
    unfold shutDown
    split
    · exact sound.beside rfl rfl rfl rfl
    · exact sound

/-- A session that starts has a desk that can occur. -/
theorem isSound_start
    {parameters : Desk.Parameters}
    {limits : Risk.Limits}
    {genesis : Snapshot}
    {venue : PaperVenue}
    {store : Store}
    {now : Instant}
    {session : Session}
    {summary : Reconciliation.Summary}
    (started :
      start parameters limits genesis venue store now =
        .ok (session, summary)) :
    session.IsSound := by
  unfold start at started
  split at started
  · contradiction
  · rename_i saved book recovered ran
    cases started
    exact ⟨rfl, .recovered ran⟩

end Session

/-! ## A run -/

namespace Desk.Sample

/-- The instrument of the run. -/
def symbol : Symbol :=
  ⟨"BTC"⟩

/-- A time of the run. -/
def moment (second : Int) : Instant :=
  { Instant.epoch with second }

/-- The quantity that is entered. -/
def one : Decimal :=
  Decimal.one

/-- The mark price of the instrument. -/
def hundred : Decimal :=
  ⟨false, 100, 0, by decide, Decimal.scale_zero_le⟩

/-- The equity of the account. -/
def thousand : Decimal :=
  ⟨false, 1000, 0, by decide, Decimal.scale_zero_le⟩

/-- A wish for the instrument. -/
def wish (id : Identifier) (kind : Mandate.Kind) : Mandate where
  id
  symbol
  kind
  authority := 5
  stamp := moment 0
  source := "trend"
  direction := some .long
  quantity := one
  status := .active

/-- The market data of the run. -/
def snapshot : Snapshot where
  version := 0
  publishedAt := moment 1
  account := ⟨thousand⟩
  prices := OrderedMap.empty.insert symbol ⟨hundred, none⟩
  positions := OrderedMap.empty

/-- The feed of the run. -/
def feed : Feed :=
  Feed.start snapshot

/-- The wish to enter. -/
def entry : Mandate :=
  wish ⟨1, by decide⟩ .entry

/-- The wish to leave. -/
def exit : Mandate :=
  wish ⟨2, by decide⟩ .exit

/-- The desk once the entry was wished for. -/
def wishing : Desk :=
  { blank (Store.working default) with
    registry := Registry.empty.adding entry }

/-- The desk once the entry was sent. -/
def entering : Desk :=
  (wishing.runCycle .standard .standard feed none (moment 1)).1.desk

/-- The desk once the entry was filled. -/
def opened : Desk :=
  (entering.settle ⟨.issued 1, symbol, .filled one hundred⟩ (moment 2)).1

/-- The desk once the exit was wished for. -/
def leaving : Desk :=
  { opened with registry := opened.registry.adding exit }

theorem sound_exit : exit.Sound :=
  ((Mandate.defect?_eq_none_iff exit).mp rfl).2

theorem registered_exit :
    opened.registry.register exit = .ok (opened.registry.adding exit) :=
  (Registry.register_eq_ok_iff _ _ _).mpr
    ⟨⟨rfl, sound_exit⟩, by decide +kernel, rfl⟩

theorem reachable_wishing : Reachable .standard .standard wishing :=
  .step (.blank _) (@Step.submit _ _ _ _ entry rfl)

theorem reachable_entering : Reachable .standard .standard entering :=
  .step reachable_wishing (.cycle wishing feed (moment 1))

theorem reachable_opened : Reachable .standard .standard opened :=
  .step reachable_entering (.report entering _ (moment 2))

theorem reachable_leaving : Reachable .standard .standard leaving :=
  .step reachable_opened (.submit registered_exit)

end Desk.Sample

end MandateDesk
