import EchoProbe.Run.Step

/-!
# What a step can do

The rules of a run, one for each thing that can happen: the conditions under which it
happens, the machine afterwards, and what is seen.

An activity may read the clock long before it does what it read the clock for: until then,
the others may have read it again. In an `Interleaving` the readings are therefore in no
order at all. Every execution is one (`Execution.interleaving`). A step of it takes some
reading and then makes one of the moves (`step_cases`), so whatever is kept by every move
holds of every interleaving (`Interleaving.invariant`). Where the world's answers matter, a
`Schedule` is an interleaving with its actions.
-/

namespace EchoProbe.Run.Machine

variable {σ : Type}

/-- The phases after one was entered from the expected one. -/
def historyAfter (m : Machine σ) (expected next : Phase) : List Phase :=
  if m.phase = expected then m.history ++ [next] else m.history

theorem enterAfter_eq (m : Machine σ) (expected next : Phase) :
    m.enterAfter expected next = { m with history := m.historyAfter expected next } := by
  unfold enterAfter historyAfter
  split <;> rfl

/-- What a caller can do. -/
inductive CallerMove (m : Machine σ) : Machine σ → List Event → Prop
  | enter (host : String) (target : IPv4) (idle : m.phase = .idle) :
    CallerMove m
      { m with history := m.history ++ [.running], host, target, sender := .entered } [.entered]
  | refuse (busy : m.phase ≠ .idle) : CallerMove m m [.refused m.phase]
  | unresolved (host : String) : CallerMove m m [.unresolved host]
  | beginStop : CallerMove m
      { m with history := m.historyAfter .running .stopping, pendingStops := m.pendingStops + 1 } []
  | completeStop (n : Nat) (pending : m.pendingStops = n + 1) : CallerMove m
      { m with pendingStops := n, flags := m.flags.stop m.handle } [.raised m.handle]
  | raise (handle : Handle) :
    CallerMove m { m with flags := m.flags.stop handle } [.raised handle]

/-- The machine after a fatal error was told. -/
def afterFailure (m : Machine σ) (e : RunError) : Machine σ :=
  { m with fault := m.fault.or (some e), flags := m.flags.stop m.handle }

/-- What the sender can do. -/
inductive SenderMove (R : Reporter σ) (m : Machine σ) : Machine σ → List Event → Prop
  | start (place : m.sender = .entered) : SenderMove R m
      { m with reporter := R.start m.clock m.reporter, sender := .launching } [.started]
  | launch (place : m.sender = .launching) : SenderMove R m
      { m with sender := .looking m.clock, receiver := .polling, processor := .starting } []
  | quit (tick : Instant) (place : m.sender = .looking tick) (stopped : m.isStopped = true) :
    SenderMove R m { m with sender := .leaving } (m.diagnostic "send loop finished")
  | begin (tick : Instant) (place : m.sender = .looking tick) (running : m.isStopped = false) :
    SenderMove R m { m with sender := .recording tick } []
  | notRecord (tick : Instant) (draws : List Identifier) (e : LedgerError)
      (place : m.sender = .recording tick)
      (refused : m.ledger.insert draws m.target m.clock = .error e) :
    SenderMove R m { m with sender := .failing (.ledger e) } [.unrecorded e]
  | record (tick : Instant) (sendTime : WallTime) (draws : List Identifier)
      (request : Request) (ledger : Ledger) (place : m.sender = .recording tick)
      (recorded : m.ledger.insert draws m.target m.clock = .ok (some (request, ledger))) :
    SenderMove R m
      { m with
        ledger
        sender := .attempting tick request (request.probe sendTime m.filler) 1 }
      [.recorded request sendTime]
  | sent (tick : Instant) (request : Request) (bytes : Bytes) (attempt : Nat)
      (result : SendResult) (place : m.sender = .attempting tick request bytes attempt)
      (done : result.next = .done) (log : List LogLine) :
    SenderMove R m { m with sender := .ticking tick, announced := true }
      (.transmitted { bytes, target := request.target } result :: log.map .logged)
  | retry (tick : Instant) (request : Request) (bytes : Bytes) (attempt : Nat)
      (result : SendResult) (e : TransportError)
      (place : m.sender = .attempting tick request bytes attempt) (again : result.next = .again e)
      (left : attempt < attemptLimit) (log : List LogLine) :
    SenderMove R m { m with sender := .attempting tick request bytes (attempt + 1) }
      (.transmitted { bytes, target := request.target } result :: log.map .logged)
  | giveUp (tick : Instant) (request : Request) (bytes : Bytes) (attempt : Nat)
      (result : SendResult) (e : TransportError)
      (place : m.sender = .attempting tick request bytes attempt) (again : result.next = .again e)
      (last : ¬ attempt < attemptLimit) (log : List LogLine) :
    SenderMove R m { m with sender := .ticking tick }
      (.transmitted { bytes, target := request.target } result :: log.map .logged)
  | fatal (tick : Instant) (request : Request) (bytes : Bytes) (attempt : Nat)
      (result : SendResult) (e : TransportError)
      (place : m.sender = .attempting tick request bytes attempt) (fatal : result.next = .fatal e) :
    SenderMove R m { m with sender := .retracting request e }
      [.transmitted { bytes, target := request.target } result]
  | retract (request : Request) (e : TransportError) (place : m.sender = .retracting request e) :
    SenderMove R m
      { m with
        ledger := m.ledger.erase request.identifier
        sender := .failing (.transport e) }
      [.retracted request (m.ledger.find? request.identifier)]
  | fail (e : RunError) (place : m.sender = .failing e) : SenderMove R m
      { m.afterFailure e with sender := .leaving }
      (.logged (failureLine e) :: .failed e :: m.diagnostic "send loop finished")
  | tick (tick next : Instant) (place : m.sender = .ticking tick)
      (found : catchUp m.settings.interval tick m.clock = some next) :
    SenderMove R m { m with sender := .waiting next } []
  | strand (tick : Instant) (place : m.sender = .ticking tick)
      (beyond : catchUp m.settings.interval tick m.clock = none) :
    SenderMove R m { m with sender := .stranded } []
  | wakeStopped (tick : Instant) (place : m.sender = .waiting tick)
      (woken : m.flags.waitUntil m.handle tick m.clock = some true) :
    SenderMove R m { m with sender := .leaving } (m.diagnostic "send loop finished")
  | wake (tick : Instant) (place : m.sender = .waiting tick)
      (woken : m.flags.waitUntil m.handle tick m.clock = some false) :
    SenderMove R m { m with sender := .looking tick } []
  | leave (place : m.sender = .leaving) : SenderMove R m
      { m with history := m.historyAfter .running .stopping, sender := .haltingReceiver } []
  | haltReceiver (place : m.sender = .haltingReceiver) : SenderMove R m
      { m with receiverHalted := true, sender := .joiningReceiver } []
  | joinReceiver (place : m.sender = .joiningReceiver) (gone : m.receiver = .ended) :
    SenderMove R m { m with sender := .haltingProcessor } (m.diagnostic "receiver stopped")
  | mourn (place : m.sender = .joiningReceiver) (gone : m.receiver = .panicked) :
    SenderMove R m { m with sender := .mourning } []
  | failForReceiver (place : m.sender = .mourning) : SenderMove R m
      { m.afterFailure (.activityDied "receiver") with sender := .haltingProcessor }
      (.logged (failureLine (.activityDied "receiver")) :: .failed (.activityDied "receiver") ::
        m.diagnostic "receiver stopped")
  | haltProcessor (place : m.sender = .haltingProcessor) : SenderMove R m
      { m with processorHalted := true, sender := .joiningProcessor } []
  | joinProcessor (place : m.sender = .joiningProcessor) (gone : m.processor = .ended) :
    SenderMove R m { m with sender := .closing } (m.diagnostic "processor stopped")
  | joinDeadProcessor (place : m.sender = .joiningProcessor) (gone : m.processor = .panicked) :
    SenderMove R m { m with sender := .closing }
      (.logged (.error "processor thread panicked") :: m.diagnostic "processor stopped")
  | close (place : m.sender = .closing) : SenderMove R m
      { m with history := m.history ++ [.stopped], sender := .returning }
      [.logged (.info "ping process has stopped")]
  | return (place : m.sender = .returning) (result : Except RunError Unit)
      (hresult : result = m.fault.elim (.ok ()) .error) :
    SenderMove R m { m with fault := none, sender := .returned result } [.returned result]

/-- What the receiver can do. -/
inductive ReceiverMove (m : Machine σ) : Machine σ → List Event → Prop
  | stop (place : m.receiver = .polling) (halted : m.receiverHalted = true) :
    ReceiverMove m { m with receiver := .ended } []
  | poll (place : m.receiver = .polling) (running : m.receiverHalted = false) :
    ReceiverMove m { m with receiver := .reading } []
  | read (arrival : Arrival) (receivedWall : WallTime) (buffer : Bytes) (packet : Packet)
      (place : m.receiver = .reading) (size : buffer.length = bufferSize)
      (fits : arrival.length ≤ buffer.length)
      (hpacket : packet =
        ⟨buffer.take arrival.length, arrival.source, arrival.ttl, m.clock, receivedWall⟩) :
    ReceiverMove m { m with buffer, receiver := .handing packet } [.read packet]
  | readTooMuch (arrival : Arrival) (buffer : Bytes) (place : m.receiver = .reading)
      (size : buffer.length = bufferSize) (overflow : ¬ arrival.length ≤ buffer.length) :
    ReceiverMove m { m with buffer, receiver := .panicked } []
  | skip (e : TransportError) (buffer : Bytes) (place : m.receiver = .reading)
      (size : buffer.length = bufferSize) (harmless : (e.isSilence || e.isUnreadable) = true) :
    ReceiverMove m { m with buffer, receiver := .polling } [.unread e]
  | fatal (e : TransportError) (buffer : Bytes) (place : m.receiver = .reading)
      (size : buffer.length = bufferSize) (fatal : (e.isSilence || e.isUnreadable) = false) :
    ReceiverMove m { m with buffer, receiver := .failing (.transport e) } [.unread e]
  | panic (place : m.receiver = .reading) : ReceiverMove m { m with receiver := .panicked } []
  | handOver (packet : Packet) (place : m.receiver = .handing packet)
      (waiting : m.processor = .waiting) :
    ReceiverMove m { m with receiver := .polling, processor := .holding packet } []
  | abandon (packet : Packet) (place : m.receiver = .handing packet)
      (gone : m.processor.isGone = true) :
    ReceiverMove m { m with receiver := .failing (.activityDied "processor") } []
  | fail (e : RunError) (place : m.receiver = .failing e) : ReceiverMove m
      { m.afterFailure e with receiver := .ended } [.loggedAside (failureLine e), .failed e]

/-- What the processor can do. -/
inductive ProcessorMove (R : Reporter σ) (m : Machine σ) : Machine σ → List Event → Prop
  | start (place : m.processor = .starting) : ProcessorMove R m
      { m with lastSweep := m.clock, processor := .turning } []
  | halt (place : m.processor = .turning ∨ m.processor = .waiting ∧ m.receiver.isGone = true)
      (halted : m.processorHalted = true) :
    ProcessorMove R m { m with processor := .draining } []
  | turn (place : m.processor = .turning) (running : m.processorHalted = false) :
    ProcessorMove R m { m with processor := .waiting } []
  | giveUpWaiting (place : m.processor = .waiting) :
    ProcessorMove R m { m with processor := .checking } []
  | classify (packet : Packet) (place : m.processor = .holding packet) : ProcessorMove R m
      { m with
        ledger := (m.ledger.classify packet).ledger
        processor := .reporting (m.ledger.classify packet).outcome [] .check }
      (.classified packet (m.ledger.classify packet).outcome ::
        (m.ledger.classify packet).log.map .loggedAside)
  | report (outcome : Outcome) (others : List Outcome) (next : AfterReports)
      (place : m.processor = .reporting outcome others next)
      (alive : (R.report outcome m.reporter).panicked = false) :
    ProcessorMove R m
      { m with
        reporter := (R.report outcome m.reporter).state
        processor := .afterReports others next }
      ((R.report outcome m.reporter).log.map .loggedAside ++ [.reported outcome])
  | panic (outcome : Outcome) (others : List Outcome) (next : AfterReports)
      (place : m.processor = .reporting outcome others next)
      (dead : (R.report outcome m.reporter).panicked = true) :
    ProcessorMove R m
      { m with reporter := (R.report outcome m.reporter).state, processor := .panicked }
      ((R.report outcome m.reporter).log.map .loggedAside ++ [.reported outcome])
  | due (place : m.processor = .checking)
      (due : sweepPause.nanos ≤ (m.clock.since m.lastSweep).nanos) :
    ProcessorMove R m { m with processor := .sweeping } []
  | early (place : m.processor = .checking)
      (early : ¬ sweepPause.nanos ≤ (m.clock.since m.lastSweep).nanos) :
    ProcessorMove R m { m with processor := .turning } []
  | sweep (place : m.processor = .sweeping) : ProcessorMove R m
      { m with
        ledger := (m.ledger.sweep m.clock m.settings.maxRtt).2
        processor := .afterReports
          ((m.ledger.sweep m.clock m.settings.maxRtt).1.map (·.lost .timeout)) .rearm }
      [.swept (m.ledger.sweep m.clock m.settings.maxRtt).1]
  | rearm (place : m.processor = .rearming) : ProcessorMove R m
      { m with lastSweep := m.clock, processor := .turning } []
  | drain (place : m.processor = .draining) : ProcessorMove R m
      { m with
        ledger := m.ledger.drain.2
        processor := .afterReports (m.ledger.drain.1.map (·.lost .unanswered)) .finish }
      [.drained m.ledger.drain.1]

/-- What can happen: there is a reading of the clock, or somebody does something. -/
inductive Move (R : Reporter σ) (m : Machine σ) : Machine σ → List Event → Prop
  | clock (now : Instant) : Move R m { m with clock := now } []
  | caller {m' : Machine σ} {seen : List Event} (move : CallerMove m m' seen) : Move R m m' seen
  | sender {m' : Machine σ} {seen : List Event} (move : SenderMove R m m' seen) : Move R m m' seen
  | receiver {m' : Machine σ} {seen : List Event} (move : ReceiverMove m m' seen) : Move R m m' seen
  | processor {m' : Machine σ} {seen : List Event} (move : ProcessorMove R m m' seen) :
    Move R m m' seen

/-! ## Every step is a move -/

variable {R : Reporter σ} {m m' : Machine σ} {seen : List Event} {next : Next σ}

theorem callerMove_ping (m : Machine σ) (host : String) (target : IPv4) :
    CallerMove m (m.ping host target).1 (m.ping host target).2 := by
  unfold ping
  split
  · exact .enter host target ‹_›
  · exact .refuse ‹_›

theorem callerMove_of_step {a : CallerAction} (taken : m.stepCaller a = some next) :
    CallerMove m next.1 next.2 := by
  unfold stepCaller at taken
  split at taken
  · cases taken
    exact callerMove_ping m _ _
  · split at taken
    · cases taken
      exact callerMove_ping m _ _
    · cases taken
      exact .unresolved _
  · cases taken
    rw [enterAfter_eq]
    exact .beginStop
  · split at taken
    · cases taken
    · cases taken
      exact .completeStop _ ‹_›
  · cases taken
    exact .raise _

theorem senderMove_afterAttempt {tick : Instant} {request : Request} {bytes : Bytes}
    {attempt : Nat} (place : m.sender = .attempting tick request bytes attempt)
    (result : SendResult) :
    SenderMove R m (m.afterAttempt tick request bytes attempt result).1
      (.transmitted { bytes, target := request.target } result ::
        (m.afterAttempt tick request bytes attempt result).2) := by
  unfold afterAttempt
  split
  · -- Only the first probe is announced.
    split
    · have := SenderMove.sent (R := R) tick request bytes attempt result place ‹_› []
      simpa [*] using this
    · exact .sent tick request bytes attempt result place ‹_› [_]
  · exact .fatal tick request bytes attempt result _ place ‹_›
  · rename_i e again
    -- How much is logged depends on the settings; a move leaves that open.
    have hretry : ∃ log : List LogLine, (if m.settings.debug then
        [Event.logged (request.retryLine attempt e)] else []) = log.map .logged := by
      split
      · exact ⟨[_], rfl⟩
      · exact ⟨[], rfl⟩
    obtain ⟨log, hlog⟩ := hretry
    simp only [hlog]
    split
    · exact .retry tick request bytes attempt result e place again ‹_› log
    · have := SenderMove.giveUp (R := R) tick request bytes attempt result e place again ‹_›
        (log ++ [request.givenUpLine])
      simpa using this

/-- Each action of the sender that can be taken is one of its moves, if the clock stands at the
    reading that the action makes. -/
theorem senderMove_of_step {a : SenderAction} (taken : m.stepSender R a = some next)
    (reading : ∀ now, (Action.sender a).reading? = some now → now = m.clock) :
    SenderMove R m next.1 next.2 := by
  unfold stepSender at taken
  split at taken
  · cases taken
    obtain rfl := reading _ rfl
    exact .start ‹_›
  · cases taken
    obtain rfl := reading _ rfl
    exact .launch ‹_›
  · -- It looks whether the run is stopped.
    split at taken
    · cases taken
      exact .quit _ ‹_› ‹_›
    · cases taken
      exact .begin _ ‹_› (eq_false_of_ne_true ‹_›)
  · -- It records a probe.
    obtain rfl := reading _ rfl
    split at taken
    · cases taken
      exact .notRecord _ _ _ ‹_› ‹_›
    · cases taken
    · cases taken
      exact .record _ _ _ _ _ ‹_› ‹_›
  · cases taken
    exact senderMove_afterAttempt ‹_› _
  · cases taken
    exact .retract _ _ ‹_›
  · cases taken
    exact .fail _ ‹_›
  · -- It looks for the next tick.
    obtain rfl := reading _ rfl
    split at taken
    · cases taken
      exact .tick _ _ ‹_› ‹_›
    · cases taken
      exact .strand _ ‹_› ‹_›
  · -- It wakes up.
    obtain rfl := reading _ rfl
    split at taken
    · cases taken
    · cases taken
      exact .wakeStopped _ ‹_› ‹_›
    · cases taken
      exact .wake _ ‹_› ‹_›
  · cases taken
    rw [enterAfter_eq]
    exact .leave ‹_›
  · cases taken
    exact .haltReceiver ‹_›
  · -- It waits for the receiver.
    split at taken
    · cases taken
      exact .joinReceiver ‹_› ‹_›
    · cases taken
      exact .mourn ‹_› ‹_›
    · cases taken
  · cases taken
    exact .failForReceiver ‹_›
  · cases taken
    exact .haltProcessor ‹_›
  · -- It waits for the processor.
    split at taken
    · cases taken
      exact .joinProcessor ‹_› ‹_›
    · cases taken
      exact .joinDeadProcessor ‹_› ‹_›
    · cases taken
  · cases taken
    exact .close ‹_›
  · cases taken
    refine .return ‹_› _ ?_
    cases m.fault <;> rfl
  · cases taken

theorem receiverMove_afterRead {buffer : Bytes} (place : m.receiver = .reading)
    (size : buffer.length = bufferSize) (result : Except TransportError Arrival)
    (receivedWall : WallTime) :
    ReceiverMove m (m.afterRead result buffer m.clock receivedWall).1
      (m.afterRead result buffer m.clock receivedWall).2 := by
  unfold afterRead
  rcases result with e | arrival
  · dsimp only
    split
    · exact .skip e buffer place size ‹_›
    · exact .fatal e buffer place size (eq_false_of_ne_true ‹_›)
  · dsimp only
    split
    · exact .read arrival receivedWall buffer _ place size ‹_› rfl
    · exact .readTooMuch arrival buffer place size ‹_›

theorem receiverMove_of_step {a : ReceiverAction} (taken : m.stepReceiver a = some next)
    (reading : ∀ now, (Action.receiver a).reading? = some now → now = m.clock) :
    ReceiverMove m next.1 next.2 := by
  unfold stepReceiver at taken
  split at taken
  · split at taken
    · cases taken
      exact .stop ‹_› ‹_›
    · cases taken
      exact .poll ‹_› (eq_false_of_ne_true ‹_›)
  · obtain rfl := reading _ rfl
    split at taken
    · cases taken
      exact receiverMove_afterRead ‹_› ‹_› _ _
    · cases taken
  · cases taken
    exact .panic ‹_›
  · split at taken
    · cases taken
      exact .handOver _ ‹_› ‹_›
    · cases taken
  · split at taken
    · cases taken
      exact .abandon _ ‹_› ‹_›
    · cases taken
  · cases taken
    exact .fail _ ‹_›
  · cases taken

theorem processorMove_of_step {a : ProcessorAction} (taken : m.stepProcessor R a = some next)
    (reading : ∀ now, (Action.processor a).reading? = some now → now = m.clock) :
    ProcessorMove R m next.1 next.2 := by
  unfold stepProcessor at taken
  split at taken
  · cases taken
    obtain rfl := reading _ rfl
    exact .start ‹_›
  · split at taken
    · cases taken
      exact .halt (.inl ‹_›) ‹_›
    · cases taken
      exact .turn ‹_› (eq_false_of_ne_true ‹_›)
  · cases taken
    exact .giveUpWaiting ‹_›
  · split at taken
    · split at taken
      · cases taken
        exact .halt (.inr ⟨‹_›, ‹_›⟩) ‹_›
      · cases taken
        exact .giveUpWaiting ‹_›
    · cases taken
  · cases taken
    exact .classify _ ‹_›
  · cases taken
    split
    · exact .panic _ _ _ ‹_› ‹_›
    · exact .report _ _ _ ‹_› (eq_false_of_ne_true ‹_›)
  · obtain rfl := reading _ rfl
    split at taken
    · cases taken
      exact .due ‹_› ‹_›
    · cases taken
      exact .early ‹_› ‹_›
  · cases taken
    obtain rfl := reading _ rfl
    exact .sweep ‹_›
  · cases taken
    obtain rfl := reading _ rfl
    exact .rearm ‹_›
  · cases taken
    exact .drain ‹_›
  · cases taken

theorem move_of_stepAt {a : Action} (taken : m.stepAt R a = some next)
    (reading : ∀ now, a.reading? = some now → now = m.clock) : Move R m next.1 next.2 := by
  cases a with
  | caller a => exact .caller (callerMove_of_step taken)
  | sender a => exact .sender (senderMove_of_step taken reading)
  | receiver a => exact .receiver (receiverMove_of_step taken reading)
  | processor a => exact .processor (processorMove_of_step taken reading)

/-- Nobody moves the clock but by reading it. -/
theorem clock_of_stepAt {a : Action} (taken : m.stepAt R a = some (m', seen))
    (reading : ∀ now, a.reading? = some now → now = m.clock) : m'.clock = m.clock := by
  cases a with
  | caller a =>
    have move : CallerMove m m' seen := callerMove_of_step taken
    cases move <;> rfl
  | sender a =>
    have move : SenderMove R m m' seen := senderMove_of_step taken reading
    cases move <;> rfl
  | receiver a =>
    have move : ReceiverMove m m' seen := receiverMove_of_step taken reading
    cases move <;> rfl
  | processor a =>
    have move : ProcessorMove R m m' seen := processorMove_of_step taken reading
    cases move <;> rfl

/-! ## Interleavings -/

/-- Takes an action with a reading of the clock made at any time. -/
def stepAnytime (R : Reporter σ) (m : Machine σ) (a : Action) : Option (Next σ) :=
  match a.reading? with
  | none => m.stepAt R a
  | some now => { m with clock := now }.stepAt R a

/-- An action that the clock allows can be taken at any time. -/
theorem stepAnytime_of_step {a : Action} (taken : m.step R a = some next) :
    m.stepAnytime R a = some next := by
  unfold step at taken
  unfold stepAnytime
  split at taken
  · simp only [*]
  · split at taken
    · simp only [*]
    · cases taken

/-- A step whose reading the clock still shows can be taken. -/
theorem step_of_standing {a : Action} (standing : ∀ now, a.reading? = some now → now = m.clock) :
    m.step R a = m.stepAt R a := by
  unfold step
  split
  · rfl
  · obtain rfl := standing _ ‹_›
    exact if_pos (Int.le_refl _)

/-- `m` is reached from `start` in steps whose readings of the clock were made at any time, and
    `events` is what was seen on the way. -/
inductive Interleaving (R : Reporter σ) (start : Machine σ) : List Event → Machine σ → Prop
  | refl : Interleaving R start [] start
  | step {events seen : List Event} {m m' : Machine σ} (a : Action)
      (before : Interleaving R start events m) (taken : m.stepAnytime R a = some (m', seen)) :
      Interleaving R start (events ++ seen) m'

theorem Execution.interleaving {start : Machine σ} {events : List Event}
    (run : Execution R start events m) : Interleaving R start events m := by
  induction run with
  | refl => exact .refl
  | step a before taken ih => exact ih.step a (stepAnytime_of_step taken)

theorem Execution.append {start : Machine σ} {events later : List Event}
    (run : Execution R start events m) (rest : Execution R m later m') :
    Execution R start (events ++ later) m' := by
  induction rest with
  | refl => rwa [List.append_nil]
  | step a before taken ih =>
    rw [← List.append_assoc]
    exact ih.step a taken

/-- A step is taken with the clock at some reading. -/
theorem stepAt_of_stepAnytime {a : Action} (taken : m.stepAnytime R a = some next) :
    ∃ now, { m with clock := now }.stepAt R a = some next ∧
      ∀ t, a.reading? = some t → t = now := by
  unfold stepAnytime at taken
  split at taken
  · exact ⟨m.clock, taken, by simp [*]⟩
  · exact ⟨_, taken, by simp [*]⟩

/-- A step takes some reading and makes a move. -/
theorem step_cases {a : Action} (taken : m.stepAnytime R a = some (m', seen)) :
    ∃ now, Move R { m with clock := now } m' seen := by
  obtain ⟨now, taken, reading⟩ := stepAt_of_stepAnytime taken
  exact ⟨now, move_of_stepAt taken reading⟩

/-- What holds at the start and is kept by every move holds of every interleaving: of what was
    seen, and of the machine that it led to. -/
theorem Interleaving.invariant {start : Machine σ} {P : List Event → Machine σ → Prop}
    (hstart : P [] start)
    (hmove : ∀ events m m' seen, P events m → Move R m m' seen → P (events ++ seen) m')
    {events : List Event} (run : Interleaving R start events m) : P events m := by
  induction run with
  | refl => exact hstart
  | step a before taken ih =>
    obtain ⟨now, move⟩ := step_cases taken
    -- The clock goes to the reading first, and then the step is made at it.
    have hclock := hmove _ _ _ _ ih (.clock now)
    rw [List.append_nil] at hclock
    exact hmove _ _ _ _ hclock move

theorem Interleaving.append {start : Machine σ} {events later : List Event}
    (run : Interleaving R start events m) (rest : Interleaving R m later m') :
    Interleaving R start (events ++ later) m' := by
  induction rest with
  | refl => rwa [List.append_nil]
  | step a before taken ih =>
    rw [← List.append_assoc]
    exact ih.step a taken

theorem settings_of_move (move : Move R m m' seen) : m'.settings = m.settings := by
  cases move with
  | clock => rfl
  | caller move => cases move <;> rfl
  | sender move => cases move <;> rfl
  | receiver move => cases move <;> rfl
  | processor move => cases move <;> rfl

/-- The settings of a run never change. -/
theorem Interleaving.settings_eq {start : Machine σ} {events : List Event}
    (run : Interleaving R start events m) : m.settings = start.settings :=
  run.invariant (P := fun _ m => m.settings = start.settings) rfl fun _ _ _ _ h move =>
    (settings_of_move move).trans h

/-- `m` is reached from `start` by these actions, whose readings of the clock were made at any
    time, and `events` is what was seen on the way. -/
inductive Schedule (R : Reporter σ) (start : Machine σ) :
    List Action → List Event → Machine σ → Prop
  | refl : Schedule R start [] [] start
  | step {actions : List Action} {events seen : List Event} {m m' : Machine σ} (a : Action)
      (before : Schedule R start actions events m)
      (taken : m.stepAnytime R a = some (m', seen)) :
      Schedule R start (actions ++ [a]) (events ++ seen) m'

theorem Schedule.interleaving {start : Machine σ} {actions : List Action} {events : List Event}
    (run : Schedule R start actions events m) : Interleaving R start events m := by
  induction run with
  | refl => exact .refl
  | step a before taken ih => exact ih.step a taken

/-- Every interleaving has its actions. -/
theorem Interleaving.exists_schedule {start : Machine σ} {events : List Event}
    (run : Interleaving R start events m) : ∃ actions, Schedule R start actions events m := by
  induction run with
  | refl => exact ⟨[], .refl⟩
  | step a before taken ih =>
    obtain ⟨actions, ih⟩ := ih
    exact ⟨actions ++ [a], ih.step a taken⟩

/-! ## Executions by their actions -/

/-- A pinger in which nothing was set, and which has not been asked for a run. -/
def fresh (reporter : σ) : Machine σ :=
  let (flags, handle) := Flags.empty.create
  init default (Vector.replicate 48 0) reporter flags handle .zero

/-- Takes actions one after the other, as long as they can be taken. -/
def play (R : Reporter σ) (m : Machine σ) : List Action → Option (Next σ)
  | [] => some (m, [])
  | a :: actions =>
    (m.step R a).bind fun (m', seen) =>
      (m'.play R actions).map fun (m'', more) => (m'', seen ++ more)

theorem Execution.play {start : Machine σ} {events more : List Event} {actions : List Action}
    (run : Execution R start events m) (played : m.play R actions = some (m', more)) :
    Execution R start (events ++ more) m' := by
  induction actions generalizing m events more with
  | nil =>
    cases played
    rwa [List.append_nil]
  | cons a actions ih =>
    obtain ⟨⟨m₁, seen⟩, htaken, hrest⟩ := Option.bind_eq_some_iff.1 played
    obtain ⟨⟨m₂, rest⟩, hplayed, heq⟩ := Option.map_eq_some_iff.1 hrest
    cases heq
    rw [← List.append_assoc]
    exact ih (run.step a htaken) hplayed

/-- What was played is an execution. -/
theorem execution_of_play {actions : List Action} (played : m.play R actions = some (m', seen)) :
    Execution R m seen m' :=
  Execution.refl.play played

theorem Schedule.play {start : Machine σ} {done actions : List Action} {events more : List Event}
    (run : Schedule R start done events m) (played : m.play R actions = some (m', more)) :
    Schedule R start (done ++ actions) (events ++ more) m' := by
  induction actions generalizing m done events more with
  | nil =>
    cases played
    rwa [List.append_nil, List.append_nil]
  | cons a actions ih =>
    obtain ⟨⟨m₁, seen⟩, htaken, hrest⟩ := Option.bind_eq_some_iff.1 played
    obtain ⟨⟨m₂, rest⟩, hplayed, heq⟩ := Option.map_eq_some_iff.1 hrest
    cases heq
    rw [← List.append_assoc, List.append_cons]
    exact ih (run.step a (stepAnytime_of_step htaken)) hplayed

/-- What was played is the schedule of the actions played. -/
theorem schedule_of_play {actions : List Action} (played : m.play R actions = some (m', seen)) :
    Schedule R m actions seen m' :=
  Schedule.refl.play played

end EchoProbe.Run.Machine
