import EchoProbe.Classification
import EchoProbe.Host
import EchoProbe.Reporter
import EchoProbe.Sending
import EchoProbe.Flags

/-!
# The state of a run

Three activities work on a run at once.

* The *sender* is the thread that asked for the run. It records and sends a probe at
  every tick, and in the end halts the other two and waits for them.
* The *receiver* reads packets and hands each over before it reads the next.
* The *processor* takes packets over, classifies them, sweeps the ledger, and tells the
  reporter; at the end it drains the ledger.

They share the ledger, the flag that stops the run, the history of phases and the first
fatal error. Receiver and processor meet to hand over a packet: nothing is kept between
them.

The state of each activity says what it does next. A step of an activity is one access
to the ledger, the transport, the reporter, the history or the flag, or one meeting; only
an activity that fails keeps its error and raises the flag in one step. The steps of the
three, in any order, are all that can happen (`EchoProbe.Run.Step`).
-/

namespace EchoProbe.Run

/-- How much the receiver reads at once. -/
def bufferSize : Nat := 512

/-- How long the processor waits for a packet, and the least time between two sweeps. -/
def sweepPause : Duration := .ofMillis 10

/-- What the sender does next. -/
inductive Sender
  /-- Nobody has asked for a run. -/
  | absent
  /-- The phase is running; tell the reporter. -/
  | entered
  /-- Start the other activities and the ticks. -/
  | launching
  /-- Look whether the run is stopped. -/
  | looking (tick : Instant)
  /-- Record the next probe. -/
  | recording (tick : Instant)
  /-- Hand the probe to the transport. -/
  | attempting (tick : Instant) (request : Request) (bytes : Bytes) (attempt : Nat)
  /-- Take the probe back. -/
  | retracting (request : Request) (error : TransportError)
  /-- Tell that the run has failed. -/
  | failing (error : RunError)
  /-- Find the tick of the next probe. -/
  | ticking (tick : Instant)
  /-- Wait for the tick or for a stop. -/
  | waiting (tick : Instant)
  /-- No more probes: end the running phase. -/
  | leaving
  | haltingReceiver
  | joiningReceiver
  /-- Tell that the receiver has died. -/
  | mourning
  | haltingProcessor
  | joiningProcessor
  /-- Enter the last phase. -/
  | closing
  /-- Hand out the first fatal error. -/
  | returning
  | returned (result : Except RunError Unit)
  /-- The next tick lies beyond the end of the clock; the sender has died, and with it
      everything that the others wait for. -/
  | stranded

/-- What the receiver does next. -/
inductive Receiver
  | absent
  /-- Look whether it is halted. -/
  | polling
  /-- Read a packet. -/
  | reading
  /-- Wait until the processor takes the packet. -/
  | handing (packet : Packet)
  /-- Tell that the run has failed. -/
  | failing (error : RunError)
  | ended
  | panicked

/-- What the processor does after the outcomes at hand. -/
inductive AfterReports
  | check
  | rearm
  | finish

/-- What the processor does next. -/
inductive Processor
  | absent
  /-- Read the clock for the first time. -/
  | starting
  /-- Look whether it is halted. -/
  | turning
  /-- Wait for a packet. -/
  | waiting
  /-- Classify the packet. -/
  | holding (packet : Packet)
  /-- Tell the reporter an outcome, and then the others. -/
  | reporting (outcome : Outcome) (others : List Outcome) (next : AfterReports)
  /-- Look whether it is time for a sweep. -/
  | checking
  | sweeping
  /-- Note the time of the sweep. -/
  | rearming
  | draining
  | ended
  | panicked

namespace Processor

/-- Report the outcomes, if any, and go on. -/
def afterReports (outcomes : List Outcome) (next : AfterReports) : Processor :=
  match outcomes with
  | outcome :: others => reporting outcome others next
  | [] => match next with
    | .check => checking
    | .rearm => rearming
    | .finish => ended

end Processor

/-- Whether the receiver will not hand over another packet. -/
def Receiver.isGone : Receiver → Bool
  | ended | panicked => true
  | _ => false

/-- Whether the processor will not take over another packet. -/
def Processor.isGone : Processor → Bool
  | ended | panicked => true
  | _ => false

/-- A pinger and its run. `σ` holds the states of its reporter. -/
structure Machine (σ : Type) where
  settings : Settings
  filler : Wire.Filler
  ledger : Ledger
  reporter : σ
  flags : Flags
  /-- The flag that stops this run. -/
  handle : Handle
  /-- The phases so far, the first one first. -/
  history : List Phase
  /-- The first fatal error. -/
  fault : Option RunError
  /-- The latest reading of the monotonic clock. -/
  clock : Instant
  host : String
  target : IPv4
  /-- Whether the user was told that a probe is out. -/
  announced : Bool
  /-- How many callers that stop the pinger have yet to raise the flag. -/
  pendingStops : Nat
  sender : Sender
  receiver : Receiver
  buffer : Bytes
  receiverHalted : Bool
  processor : Processor
  lastSweep : Instant
  processorHalted : Bool

/-- What can be seen of a run. -/
inductive Event
  /-- The run was asked for and has begun. -/
  | entered
  /-- The run was asked for in the wrong phase. -/
  | refused (phase : Phase)
  | unresolved (host : String)
  /-- The reporter was told that the run starts. -/
  | started
  | recorded (request : Request) (sendTime : WallTime)
  /-- A probe could not be recorded. -/
  | unrecorded (error : LedgerError)
  | transmitted (transmission : Transmission) (result : SendResult)
  /-- A probe that could not be sent was taken back; `none` if it had already left the
      ledger. -/
  | retracted (request : Request) (removed : Option Request)
  /-- A packet was read. -/
  | read (packet : Packet)
  /-- A read failed. -/
  | unread (error : TransportError)
  | classified (packet : Packet) (outcome : Outcome)
  | swept (requests : List Request)
  | drained (requests : List Request)
  | reported (outcome : Outcome)
  /-- A fatal error was told. -/
  | failed (error : RunError)
  | raised (handle : Handle)
  | returned (result : Except RunError Unit)
  /-- A line that the sender's thread logged. -/
  | logged (line : LogLine)
  /-- A line that another thread logged. -/
  | loggedAside (line : LogLine)

namespace Machine

variable {σ : Type}

/-- A pinger that has not been asked for a run. -/
def init (settings : Settings) (filler : Wire.Filler) (reporter : σ) (flags : Flags)
    (handle : Handle) (clock : Instant) : Machine σ where
  settings
  filler
  ledger := .empty
  reporter
  flags
  handle
  history := [.idle]
  fault := none
  clock
  host := ""
  target := .unspecified
  announced := false
  pendingStops := 0
  sender := .absent
  receiver := .absent
  buffer := List.replicate bufferSize 0
  receiverHalted := false
  processor := .absent
  lastSweep := clock
  processorHalted := false

/-- Whether the run is asked to stop. -/
def isStopped (m : Machine σ) : Bool := m.flags.isStopped m.handle

/-- The phase the pinger is in. -/
def phase (m : Machine σ) : Phase := m.history.getLast?.getD .idle

/-- Adds a phase if the pinger is in the expected one. -/
def enterAfter (m : Machine σ) (expected next : Phase) : Machine σ :=
  if m.phase = expected then { m with history := m.history ++ [next] } else m

/-- Raises the flag of the run. -/
def raise (m : Machine σ) : Machine σ := { m with flags := m.flags.stop m.handle }

/-- Keeps a fatal error if it is the first one, and stops the run. -/
def fail (m : Machine σ) (e : RunError) : Machine σ :=
  { m with fault := m.fault.or (some e) }.raise

/-- The line about a fatal error. -/
def failureLine (e : RunError) : LogLine := .error s!"ping run failed: {e}"

/-- A diagnostic line, if diagnostics are asked for. -/
def diagnostic (m : Machine σ) (text : String) : List Event :=
  if m.settings.debug then [.logged (.debug text)] else []

end Machine

end EchoProbe.Run
