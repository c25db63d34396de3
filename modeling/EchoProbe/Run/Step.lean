import EchoProbe.Run.State
import EchoProbe.Run.Tick

/-!
# The steps of a run

An action says who acts and what the world answers: readings of the clocks, results of
sends and receives, drawn identifiers. `Machine.step` takes an action in a state in which
it can be taken and gives the next state with what can be seen of it; `none` means that
the action cannot be taken. An `Execution` is any number of steps, in any order.

The monotonic clock never goes back, from whatever activity it is read; the wall clock
may. The transport may write anywhere in the receive buffer; the bytes of a packet are
those at the front of it, as many as the read tells.
-/

namespace EchoProbe.Run

/-- What comes from outside the run. -/
inductive CallerAction
  /-- Ask for a run to an address. -/
  | ping (host : String) (target : IPv4)
  /-- Ask for a run to a host that is looked up first. -/
  | pingHost (directory : Directory) (host : String)
  /-- Stop the pinger: leave the running phase … -/
  | beginStop
  /-- … and raise the flag. -/
  | completeStop
  /-- Raise the flag of a handle. -/
  | raise (handle : Handle)

inductive SenderAction
  | start (now : Instant)
  | launch (now : Instant)
  | look
  | record (sendTime : WallTime) (sentAt : Instant) (draws : List Identifier)
  | attempt (result : SendResult)
  | retract
  | fail
  | tick (now : Instant)
  | wake (now : Instant)
  | leave
  | haltReceiver
  | joinReceiver
  | haltProcessor
  | joinProcessor
  | close
  | return

/-- What the transport makes of a read. -/
inductive ReadResult
  | returned (result : Except TransportError Arrival) (buffer : Bytes)
  | panicked

/-- What a raw socket makes of the next datagram, which it reads into the buffer. -/
def ReadResult.ofDatagram (datagram : Bytes) (source : Option IPv4) (buffer : Bytes) : ReadResult :=
  let (result, buffer) := Wire.readDatagram datagram source buffer
  .returned (result.mapError DatagramError.toTransportError) buffer

inductive ReceiverAction
  | poll
  | read (result : ReadResult) (receivedAt : Instant) (receivedWall : WallTime)
  /-- Hand the packet over; the processor takes it. -/
  | handOver
  /-- There is nobody to take the packet. -/
  | abandon
  | fail

inductive ProcessorAction
  | start (now : Instant)
  | turn
  /-- No packet came in time. -/
  | giveUpWaiting
  /-- No packet will come any more. -/
  | disconnect
  | classify
  | report
  | check (now : Instant)
  | sweep (now : Instant)
  | rearm (now : Instant)
  | drain

/-- A step of a run. -/
inductive Action
  | caller (action : CallerAction)
  | sender (action : SenderAction)
  | receiver (action : ReceiverAction)
  | processor (action : ProcessorAction)

/-- The reading of the monotonic clock that an action makes. -/
def Action.reading? : Action → Option Instant
  | sender (.start now) | sender (.launch now) | sender (.record _ now _)
  | sender (.tick now) | sender (.wake now) => some now
  | receiver (.read _ now _) => some now
  | processor (.start now) | processor (.check now) | processor (.sweep now)
  | processor (.rearm now) => some now
  | _ => none

namespace Machine

variable {σ : Type}

/-- A machine after a step, with what can be seen of the step. -/
abbrev Next (σ : Type) := Machine σ × List Event

/-- Asks for a run. Only the idle pinger can run. -/
def ping (m : Machine σ) (host : String) (target : IPv4) : Next σ :=
  if m.phase = .idle then
    ({ m with history := m.history ++ [.running], host, target, sender := .entered }, [.entered])
  else (m, [.refused m.phase])

def stepCaller (m : Machine σ) : CallerAction → Option (Next σ)
  | .ping host target => some (m.ping host target)
  | .pingHost directory host =>
    match resolve directory host with
    | .ok target => some (m.ping host target)
    | .error _ => some (m, [.unresolved host])
  | .beginStop =>
    let m := m.enterAfter .running .stopping
    some ({ m with pendingStops := m.pendingStops + 1 }, [])
  | .completeStop =>
    match m.pendingStops with
    | 0 => none
    | n + 1 => some ({ m with pendingStops := n }.raise, [.raised m.handle])
  | .raise handle => some ({ m with flags := m.flags.stop handle }, [.raised handle])

/-- The line that tells the user that the first probe is out. -/
def announcement (m : Machine σ) (size : Nat) : LogLine :=
  .info s!"PING {m.host} ({m.target}): {size} data bytes"

/-- Goes on after the answer to an attempt. -/
def afterAttempt (m : Machine σ) (tick : Instant) (request : Request) (bytes : Bytes)
    (attempt : Nat) (result : SendResult) : Next σ :=
  match result.next with
  | .done =>
    if m.announced then ({ m with sender := .ticking tick }, [])
    else ({ m with sender := .ticking tick, announced := true },
      [.logged (m.announcement bytes.length)])
  | .fatal e => ({ m with sender := .retracting request e }, [])
  | .again e =>
    let retry := if m.settings.debug then [.logged (request.retryLine attempt e)] else []
    if attempt < attemptLimit then
      ({ m with sender := .attempting tick request bytes (attempt + 1) }, retry)
    else ({ m with sender := .ticking tick }, retry ++ [.logged request.givenUpLine])

/-- The sender's part of the fall of an activity or of its own. -/
def failAs (m : Machine σ) (e : RunError) (next : Sender) : Next σ :=
  ({ m.fail e with sender := next }, [.logged (failureLine e), .failed e])

def stepSender (R : Reporter σ) (m : Machine σ) (a : SenderAction) : Option (Next σ) :=
  match m.sender, a with
  | .entered, .start now =>
    some ({ m with reporter := R.start now m.reporter, sender := .launching }, [.started])
  | .launching, .launch now =>
    some ({ m with sender := .looking now, receiver := .polling, processor := .starting }, [])
  | .looking tick, .look =>
    if m.isStopped then some ({ m with sender := .leaving }, m.diagnostic "send loop finished")
    else some ({ m with sender := .recording tick }, [])
  | .recording tick, .record sendTime sentAt draws =>
    match m.ledger.insert draws m.target sentAt with
    | .error e => some ({ m with sender := .failing (.ledger e) }, [.unrecorded e])
    | .ok none => none
    | .ok (some (request, ledger)) =>
      let bytes := request.probe sendTime m.filler
      some ({ m with ledger, sender := .attempting tick request bytes 1 },
        [.recorded request sendTime])
  | .attempting tick request bytes attempt, .attempt result =>
    let (m, events) := m.afterAttempt tick request bytes attempt result
    some (m, .transmitted { bytes, target := request.target } result :: events)
  | .retracting request e, .retract =>
    some ({ m with ledger := m.ledger.erase request.identifier, sender := .failing (.transport e) },
      [.retracted request (m.ledger.find? request.identifier)])
  | .failing e, .fail =>
    let (m, events) := m.failAs e .leaving
    some (m, events ++ m.diagnostic "send loop finished")
  | .ticking tick, .tick now =>
    match catchUp m.settings.interval tick now with
    | some next => some ({ m with sender := .waiting next }, [])
    | none => some ({ m with sender := .stranded }, [])
  | .waiting tick, .wake now =>
    match m.flags.waitUntil m.handle tick now with
    | none => none
    | some true => some ({ m with sender := .leaving }, m.diagnostic "send loop finished")
    | some false => some ({ m with sender := .looking tick }, [])
  | .leaving, .leave =>
    some ({ m.enterAfter .running .stopping with sender := .haltingReceiver }, [])
  | .haltingReceiver, .haltReceiver =>
    some ({ m with receiverHalted := true, sender := .joiningReceiver }, [])
  | .joiningReceiver, .joinReceiver =>
    match m.receiver with
    | .ended => some ({ m with sender := .haltingProcessor }, m.diagnostic "receiver stopped")
    | .panicked => some ({ m with sender := .mourning }, [])
    | _ => none
  | .mourning, .fail =>
    let (m, events) := m.failAs (.activityDied "receiver") .haltingProcessor
    some (m, events ++ m.diagnostic "receiver stopped")
  | .haltingProcessor, .haltProcessor =>
    some ({ m with processorHalted := true, sender := .joiningProcessor }, [])
  | .joiningProcessor, .joinProcessor =>
    match m.processor with
    | .ended => some ({ m with sender := .closing }, m.diagnostic "processor stopped")
    | .panicked =>
      some ({ m with sender := .closing },
        .logged (.error "processor thread panicked") :: m.diagnostic "processor stopped")
    | _ => none
  | .closing, .close =>
    some ({ m with history := m.history ++ [.stopped], sender := .returning },
      [.logged (.info "ping process has stopped")])
  | .returning, .return =>
    let result := match m.fault with
      | some e => .error e
      | none => .ok ()
    some ({ m with fault := none, sender := .returned result }, [.returned result])
  | _, _ => none

/-- Goes on after a read. -/
def afterRead (m : Machine σ) (result : Except TransportError Arrival) (buffer : Bytes)
    (receivedAt : Instant) (receivedWall : WallTime) : Next σ :=
  let m := { m with buffer }
  match result with
  | .ok ⟨length, source, ttl⟩ =>
    if length ≤ buffer.length then
      let packet : Packet := ⟨buffer.take length, source, ttl, receivedAt, receivedWall⟩
      ({ m with receiver := .handing packet }, [.read packet])
    else ({ m with receiver := .panicked }, [])
  | .error e =>
    if e.isSilence || e.isUnreadable then ({ m with receiver := .polling }, [.unread e])
    else ({ m with receiver := .failing (.transport e) }, [.unread e])

def stepReceiver (m : Machine σ) (a : ReceiverAction) : Option (Next σ) :=
  match m.receiver, a with
  | .polling, .poll =>
    if m.receiverHalted then some ({ m with receiver := .ended }, [])
    else some ({ m with receiver := .reading }, [])
  | .reading, .read (.returned result buffer) receivedAt receivedWall =>
    if buffer.length = bufferSize then some (m.afterRead result buffer receivedAt receivedWall)
    else none
  | .reading, .read .panicked _ _ => some ({ m with receiver := .panicked }, [])
  | .handing packet, .handOver =>
    match m.processor with
    | .waiting => some ({ m with receiver := .polling, processor := .holding packet }, [])
    | _ => none
  | .handing _, .abandon =>
    if m.processor.isGone then
      some ({ m with receiver := .failing (.activityDied "processor") }, [])
    else none
  | .failing e, .fail =>
    some ({ m.fail e with receiver := .ended }, [.loggedAside (failureLine e), .failed e])
  | _, _ => none

def stepProcessor (R : Reporter σ) (m : Machine σ) (a : ProcessorAction) : Option (Next σ) :=
  match m.processor, a with
  | .starting, .start now => some ({ m with lastSweep := now, processor := .turning }, [])
  | .turning, .turn =>
    if m.processorHalted then some ({ m with processor := .draining }, [])
    else some ({ m with processor := .waiting }, [])
  | .waiting, .giveUpWaiting => some ({ m with processor := .checking }, [])
  | .waiting, .disconnect =>
    if m.receiver.isGone then
      if m.processorHalted then some ({ m with processor := .draining }, [])
      else some ({ m with processor := .checking }, [])
    else none
  | .holding packet, .classify =>
    let c := m.ledger.classify packet
    some ({ m with ledger := c.ledger, processor := .reporting c.outcome [] .check },
      .classified packet c.outcome :: c.log.map .loggedAside)
  | .reporting outcome others next, .report =>
    let reported := R.report outcome m.reporter
    let processor := if reported.panicked then .panicked else .afterReports others next
    some ({ m with reporter := reported.state, processor },
      reported.log.map .loggedAside ++ [.reported outcome])
  | .checking, .check now =>
    if sweepPause.nanos ≤ (now.since m.lastSweep).nanos then
      some ({ m with processor := .sweeping }, [])
    else some ({ m with processor := .turning }, [])
  | .sweeping, .sweep now =>
    let (requests, ledger) := m.ledger.sweep now m.settings.maxRtt
    let outcomes := requests.map (·.lost .timeout)
    some ({ m with ledger, processor := .afterReports outcomes .rearm }, [.swept requests])
  | .rearming, .rearm now => some ({ m with lastSweep := now, processor := .turning }, [])
  | .draining, .drain =>
    let (requests, ledger) := m.ledger.drain
    let outcomes := requests.map (·.lost .unanswered)
    some ({ m with ledger, processor := .afterReports outcomes .finish }, [.drained requests])
  | _, _ => none

/-- Takes an action, the clock standing at its reading. -/
def stepAt (R : Reporter σ) (m : Machine σ) : Action → Option (Next σ)
  | .caller a => m.stepCaller a
  | .sender a => m.stepSender R a
  | .receiver a => m.stepReceiver a
  | .processor a => m.stepProcessor R a

/-- Takes an action, if it can be taken. -/
def step (R : Reporter σ) (m : Machine σ) (a : Action) : Option (Next σ) :=
  match a.reading? with
  | none => m.stepAt R a
  | some now => if m.clock ≤ now then { m with clock := now }.stepAt R a else none

/-- `m` is reached from `start`, and `events` is what was seen on the way. -/
inductive Execution (R : Reporter σ) (start : Machine σ) : List Event → Machine σ → Prop
  | refl : Execution R start [] start
  | step {events seen : List Event} {m m' : Machine σ} (a : Action)
      (before : Execution R start events m) (taken : m.step R a = some (m', seen)) :
      Execution R start (events ++ seen) m'

end Machine

end EchoProbe.Run
