import EchoProbe.Run.Step
import EchoProbe.Simulation.Script

/-!
# A simulated network

One run of the machine, its actions chosen by a script. The clock of the simulation
moves a little with every reading and with every tick that the sender skips, and in leaps
when everybody waits. An action that cannot be taken is passed over, so a routine may list
all that could come next; what the machine does is an execution whatever is tried
(`Network.execution_act`).

Packets are taken over and processed as soon as they arrive and somebody waits.
-/

namespace EchoProbe.Simulation

open Run

/-- The states of the reporter of a simulated run: statistics, which pass everything on to
    a recorder. -/
abbrev Observer := Statistics × Recording

/-- The reporter of a simulated run. -/
def observer (panicAt : Option Nat) : Reporter Observer := .counting (recorder panicAt)

/-- Something to receive, worked out when it was put into the queue. -/
inductive Incoming
  | error (e : TransportError)
  | panic
  | packet (bytes : Bytes) (source : IpAddress) (ttl : Ttl)

/-- A simulated network with a run on it. -/
structure Network where
  reporter : Reporter Observer
  /-- The identifier of the first probe. -/
  firstIdentifier : Identifier
  machine : Machine Observer
  events : List Event := []
  /-- What waits to be received. -/
  inbox : List Incoming := []
  /-- The time of the simulation. -/
  now : Instant

/-- How much the clock moves with every reading. -/
def clockStep : Duration := .ofNanos 1000

/-- How long a read waits for a packet. -/
def readWait : Duration := .ofNanos 500000

/-- How long the sender takes to skip a tick. -/
def skipCost : Duration := .ofNanos 15

/-- What the wall clock shows at the zero of the simulation, in nanoseconds. -/
def wallStart : Int := 1700000000 * 1000000000

namespace Network

/-- The wall clock. -/
def wallNow (w : Network) : WallTime := (Time.ofNanos? (wallStart + w.now.nanos)).getD .zero

/-- Takes an action, if it can be taken. -/
def act (w : Network) (a : Action) : Network :=
  match w.machine.step w.reporter a with
  | some (machine, seen) => { w with machine, events := w.events ++ seen }
  | none => w

/-- Moves the clock forward to `t`, unless it is later already. -/
def advanceTo (w : Network) (t : Instant) : Network := if w.now < t then { w with now := t } else w

/-- Takes an action that reads the clock. -/
def actNow (w : Network) (a : Instant → Action) : Network :=
  let w := { w with now := w.now.add clockStep }
  w.act (a w.now)

def caller (w : Network) (a : CallerAction) : Network := w.act (.caller a)

def sender (w : Network) (a : SenderAction) : Network := w.act (.sender a)

def receiver (w : Network) (a : ReceiverAction) : Network := w.act (.receiver a)

def processor (w : Network) (a : ProcessorAction) : Network := w.act (.processor a)

/-- How many outcomes the reporter has been told. -/
def outcomeCount (w : Network) : Nat := w.machine.reporter.2.outcomes.size

/-- The probes handed to the transport, each once, in order. -/
def probes (w : Network) : List Transmission :=
  w.events.foldl (fun probes e =>
    match e with
    | .transmitted t _ => if probes.contains t then probes else probes ++ [t]
    | _ => probes) []

/-- An identifier that no probe has: identifiers are drawn in order, and this one is half
    the way round. -/
def strayIdentifier (probe : Bytes) : Identifier := ⟨(identifierOf probe).number + 0x8000⟩

/-- The draws from which the next probe takes its identifier. -/
def draws (w : Network) : List Identifier :=
  ⟨w.firstIdentifier.number + w.machine.ledger.nextSequenceNumber.number⟩ :: Identifier.all

/-- The probe that the sender is about to hand over. -/
def currentProbe? (w : Network) : Option Transmission :=
  match w.machine.sender with
  | .attempting _ request bytes _ => some { bytes, target := request.target }
  | _ => none

/-- What an item of the script comes to; the current probe counts as handed over. -/
def incoming? (w : Network) : Item → Option Incoming
  | .error e => some (.error e)
  | .panic => some .panic
  | .packet form edit probe source ttl => do
    let current ← w.currentProbe?
    let known := w.probes
    let probes := if known.contains current then known else known ++ [current]
    let chosen := (probe.bind fun n => probes[n]?).getD current
    let bytes := edit.apply (strayIdentifier current.bytes) chosen.bytes
    return .packet (form.message bytes) (source.getD chosen.target) ttl

/-- Reports the outcomes that the processor holds. -/
def reportAll (w : Network) : Network :=
  match w.machine.processor with
  | .reporting _ others _ => (others.length + 1).repeat (·.processor .report) w
  | _ => w

/-- Lets the processor deal with a packet or with the end of its wait, until it waits
    again. -/
def processorRound (w : Network) : Network :=
  let w := (w.processor .classify).reportAll
  let w := w.actNow fun now => .processor (.check now)
  let w := (w.actNow fun now => .processor (.sweep now)).reportAll
  let w := w.actNow fun now => .processor (.rearm now)
  w.processor .turn

/-- The answer to a read. -/
def readResult (w : Network) : Incoming → ReadResult
  | .error e => .returned (.error e) w.machine.buffer
  | .panic => .panicked
  | .packet bytes source ttl =>
    .returned (.ok ⟨min bytes.length w.machine.buffer.length, source, ttl⟩)
      (Wire.overwrite w.machine.buffer bytes)

/-- Lets the receiver read one thing and hand it over. -/
def receive (w : Network) (i : Incoming) : Network :=
  let result := w.readResult i
  let w := w.actNow fun now => .receiver (.read result now w.wallNow)
  let w := (w.receiver .handOver).processorRound
  ((w.receiver .abandon).receiver .fail).receiver .poll

/-- Lets the receiver read everything, as long as it reads at all. -/
def receiveAll (w : Network) : List Incoming → Network
  | [] => { w with inbox := [] }
  | i :: rest =>
    match w.machine.receiver with
    | .reading => (w.receive i).receiveAll rest
    | _ => { w with inbox := i :: rest }

/-- Empties the inbox. -/
def pump (w : Network) : Network := w.receiveAll w.inbox

/-- The time at which a request has waited for longer than the deadline. -/
def expiry (w : Network) (r : Request) : Instant :=
  (r.sentAt.add w.machine.settings.maxRtt).add (.ofNanos 1)

/-- The time of the sweep that finds a request expired: a whole number of pauses after the
    last sweep. -/
def sweepTime (w : Network) (r : Request) : Instant :=
  let wait := ((w.expiry r).since w.machine.lastSweep).nanos
  let pauses := max 1 ((wait + sweepPause.nanos - 1) / sweepPause.nanos)
  w.machine.lastSweep.add (.ofNanos (pauses * sweepPause.nanos))

/-- The time of the next sweep that finds something. -/
def nextSweep? (w : Network) : Option Instant :=
  (Request.oldestFirst w.machine.ledger.requests).head?.map w.sweepTime

/-- Lets the processor wait in vain for a packet until `t`, and sweep. -/
def sweepAt (w : Network) (t : Instant) : Network :=
  ((w.advanceTo t).processor .giveUpWaiting).processorRound

/-- Waits until `n` outcomes were told, leaping from sweep to sweep, at most `leaps`
    times. -/
def awaitOutcomes (n : Nat) : (leaps : Nat) → Network → Network
  | 0, w => w
  | leaps + 1, w =>
    if n ≤ w.outcomeCount ∨ w.machine.isStopped then w
    else
      match w.nextSweep? with
      | none => w
      | some t => awaitOutcomes n leaps (w.sweepAt t)

/-- Lets the time pass until `t`, leaping from sweep to sweep, at most `leaps` times. -/
def leapUntil (t : Instant) : (leaps : Nat) → Network → Network
  | 0, w => w.advanceTo t
  | leaps + 1, w =>
    match w.nextSweep? with
    | none => w.advanceTo t
    | some s => if s < t then leapUntil t leaps (w.sweepAt s) else w.advanceTo t

/-- Lets the time pass until `t`; what expires meanwhile is swept. -/
def idleUntil (w : Network) (t : Instant) : Network := leapUntil t w.machine.ledger.size w

/-- Stops the run. -/
def stopBy (w : Network) : StopRoute → Network
  | .handle => w.caller (.raise w.machine.handle)
  | .pinger => (w.caller .beginStop).caller .completeStop

/-- Lets an attempt go the way of the script. -/
def attempt (w : Network) (e : Entry) : Network :=
  let w := { w with inbox := w.inbox ++ e.receive.filterMap w.incoming? }
  let waits := e.waitOutcomes.isSome ∨ e.waitInbox ∨ e.waitStopped
  let w := if waits ∧ ¬ w.machine.isStopped then w.pump else w
  let w :=
    match e.waitOutcomes with
    | some n => awaitOutcomes n w.machine.ledger.size w
    | none => w
  let w :=
    match e.stop with
    | some route => w.stopBy route
    | none => w
  w.sender (.attempt (match e.failure with
    | some error => .error error
    | none => .ok ()))

/-- The time at which the sender has skipped the ticks that have passed. -/
def skippedAt (w : Network) : Instant :=
  match w.machine.sender with
  | .ticking tick =>
    let skipped := ticksPassed w.machine.settings.interval tick w.now
    w.now.add (.ofNanos (skipped * skipCost.nanos))
  | _ => w.now

/-- Lets the sender wait for a tick, after it has skipped others until `ready`. Meanwhile
    everything is received, and what expires is swept. The sender does not notice before
    `ready` that it is stopped; if that is soon, nobody else does anything meanwhile. -/
def awaitTick (w : Network) (tick ready : Instant) : Network :=
  let busy := readWait.nanos ≤ (ready.since w.now).nanos
  let w := if w.machine.isStopped ∧ ¬ busy then w else w.pump.idleUntil ready
  let w := if w.machine.isStopped then w else w.idleUntil tick
  w.actNow fun now => .sender (.wake now)

/-- Lets the sender go on until it attempts to send or leaves. -/
def proceed (w : Network) : Network :=
  let w := (w.sender .retract).sender .fail
  let w := { w with now := w.now.add clockStep }
  let ready := w.skippedAt
  let w := w.act (.sender (.tick w.now))
  let w :=
    match w.machine.sender with
    | .waiting tick => w.awaitTick tick ready
    | _ => w
  let w := w.sender .look
  let sendTime := w.wallNow
  let draws := w.draws
  (w.actNow fun now => .sender (.record sendTime now draws)).sender .fail

/-- Plays the entries of a script. When they are used up, the next attempt is stopped
    through the handle. -/
def play (w : Network) (entries : List Entry) : Network :=
  match w.machine.sender with
  | .attempting .. =>
    match entries with
    | [] => (w.attempt { stop := some .handle }).proceed
    | e :: rest => (w.attempt e).proceed.play rest
  | _ => w

/-- Lets the sender end the run. -/
def conclude (w : Network) : Network :=
  let w := (w.sender .leave).sender .haltReceiver
  let w := w.actNow fun now =>
    .receiver (.read (.returned (.error (.plain .wouldBlock)) w.machine.buffer) now w.wallNow)
  let w := w.receiver .poll
  let w := ((w.sender .joinReceiver).sender .fail).sender .haltProcessor
  let w := ((w.processor .disconnect).processor .drain).reportAll
  ((w.sender .joinProcessor).sender .close).sender .return

/-- Asks for a run. -/
def ask (w : Network) (s : Script) : Network :=
  match s.target with
  | some target => w.caller (.ping s.host target)
  | none => w.caller (.pingHost .numeric s.host)

/-- Lets the run begin that was asked for. -/
def begin (w : Network) : Network :=
  let w := w.actNow fun now => .sender (.start now)
  let w := w.actNow fun now => .sender (.launch now)
  let w := w.actNow fun now => .processor (.start now)
  ((w.processor .turn).receiver .poll).proceed

/-- Whether the call that asked for the run has died: the sender has, and the call does not wait for
    anybody any more. -/
def hasDied (w : Network) : Bool :=
  match w.machine.sender with
  | .stranded => w.machine.receiver.isGone && w.machine.processor.isGone
  | _ => false

/-- What a request for a run came to, seen in its events. -/
def answer (events : List Event) : Option (Except RunError Unit) :=
  events.findSome? fun
    | .refused phase => some (.error (.notIdle phase))
    | .unresolved host => some (.error (.unknownHost host))
    | .returned result => some result
    | _ => none

end Network

/-- What a simulated run comes to. -/
structure Outturn where
  before : List Phase
  after : List Phase
  final : List Phase
  /-- The result of the run; `none` if it does not return. -/
  result : Option (Except RunError Unit)
  /-- Whether the run has died instead of returning. -/
  died : Bool
  /-- The result of the second run, if it was asked for. -/
  again : Option (Option (Except RunError Unit))
  /-- What the transport was handed, with its answers. -/
  transmissions : List (Transmission × SendResult)
  probes : List Transmission
  outcomes : List Outcome
  starts : Nat
  inFlight : Nat
  summary : Option Summary
  /-- The lines that the thread of the run logged. -/
  log : List LogLine
  /-- The wall clock at the end. -/
  wallEnd : WallTime

/-- Plays a script on a pinger with these settings. -/
def simulate (settings : Settings) (filler : Wire.Filler) (s : Script) : Outturn :=
  let (flags, handle) := Flags.empty.create
  let start : Instant := .zero
  let machine := Machine.init settings filler (.startingAt start, {}) flags handle start
  let w : Network :=
    { reporter := observer s.panicAt, firstIdentifier := s.firstIdentifier, machine, now := start }
  let before := w.machine.history
  let w := match s.stopFirst with
    | some route => w.stopBy route
    | none => w
  let w := (w.ask s).begin
  let w := (w.play s.entries).conclude
  let result := Network.answer w.events
  let after := w.machine.history
  let asked := w.events.length
  let w := if s.again then w.ask s else w
  let again := if s.again then some (Network.answer (w.events.drop asked)) else none
  let w := if s.stopAfter then w.stopBy .pinger else w
  let transmissions := w.events.filterMap fun
    | .transmitted t result => some (t, result)
    | _ => none
  { before, after, final := w.machine.history, result, died := w.hasDied, again, transmissions
    probes := w.probes
    outcomes := w.machine.reporter.2.outcomes.toList
    starts := w.machine.reporter.2.starts
    inFlight := w.machine.ledger.size
    summary := w.machine.reporter.1.summarize w.now
    log := w.events.filterMap fun
      | .logged line => some line
      | _ => none
    wallEnd := w.wallNow }

namespace Network

/-- Whatever is tried, what the machine does is an execution. -/
theorem execution_act {start : Machine Observer} {w : Network}
    (h : Machine.Execution w.reporter start w.events w.machine) (a : Action) :
    Machine.Execution (w.act a).reporter start (w.act a).events (w.act a).machine := by
  unfold act
  split
  · exact .step a h ‹_›
  · exact h

end Network

end EchoProbe.Simulation
