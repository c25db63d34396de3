import EchoProbe.Config
import EchoProbe.Log
import EchoProbe.Wire.Probe

/-!
# Sending a probe

A probe is recorded in the ledger, encoded, and handed to the transport. If the
transport is out of room, the same bytes are handed to it again, up to five times in
all. After the last failure of this sort the probe is given up but stays in the ledger,
where its deadline will find it. After any other error the probe is taken back.
-/

namespace EchoProbe

/-- How often a probe is handed to the transport at most. -/
def attemptLimit : Nat := 5

/-- What the transport answers to a send. -/
abbrev SendResult := Except TransportError Unit

/-- Bytes handed to the transport, and where they go. -/
structure Transmission where
  bytes : Bytes
  target : IPv4
  port : UInt16 := 0
  deriving DecidableEq, Repr

/-- What to do after the transport has answered. -/
inductive AfterSend
  | done
  | again (error : TransportError)
  | fatal (error : TransportError)
  deriving DecidableEq, Repr

/-- A probe is sent again after an error that says no more than that there is no
    room. -/
def SendResult.next : SendResult → AfterSend
  | .ok () => .done
  | .error e => if e.isOutOfRoom then .again e else .fatal e

/-- How the attempts to send a probe end. -/
inductive Delivery
  | sent
  | givenUp
  | failed (error : TransportError)
  deriving DecidableEq, Repr

namespace Request

/-- The probe of a request. -/
def probe (r : Request) (sendTime : WallTime) (filler : Wire.Filler) : Bytes :=
  Wire.probe ⟨r.identifier, r.sequenceNumber⟩ sendTime filler

/-- The diagnostic line about an attempt that found no room. -/
def retryLine (r : Request) (attempt : Nat) (e : TransportError) : LogLine :=
  .debug s!"send attempt {attempt} for icmp_seq={r.sequenceNumber} failed: {e}"

/-- The line about a probe that was given up. -/
def givenUpLine (r : Request) : LogLine :=
  .warn s!"failed to ping {r.target} for icmp_seq={r.sequenceNumber}"

end Request

/-- The attempts to send a probe: how they end, and what the transport answered to each
    of them. When the answers run out, the transport has room. -/
def deliver : (left : Nat) → List SendResult → Delivery × List SendResult
  | 0, _ => (.givenUp, [])
  | left + 1, results =>
    let result := results.headD (.ok ())
    match result.next with
    | .done => (.sent, [result])
    | .fatal e => (.failed e, [result])
    | .again _ =>
      let (delivery, answers) := deliver left results.tail
      (delivery, result :: answers)

/-- What is left of sending a probe. -/
structure Sending where
  /-- The size of the probe; `none` if it was given up. -/
  result : Except RunError (Option Nat)
  /-- What was handed to the transport, attempt by attempt. -/
  transmissions : List Transmission
  ledger : Ledger
  log : List LogLine

/-- The diagnostic lines about the attempts that found no room. -/
def retryLines (r : Request) (answers : List SendResult) : List LogLine :=
  (answers.zipIdx 1).filterMap fun (answer, attempt) =>
    match answer.next with
    | .again e => some (r.retryLine attempt e)
    | _ => none

/-- Sends a probe that was recorded. -/
def sendRecorded (settings : Settings) (filler : Wire.Filler) (sendTime : WallTime)
    (request : Request) (l : Ledger) (results : List SendResult) : Sending :=
  let bytes := request.probe sendTime filler
  let (delivery, answers) := deliver attemptLimit results
  let transmissions := answers.map fun _ => { bytes, target := request.target }
  let retries := if settings.debug then retryLines request answers else []
  match delivery with
  | .sent => ⟨.ok (some bytes.length), transmissions, l, retries⟩
  | .givenUp => ⟨.ok none, transmissions, l, retries ++ [request.givenUpLine]⟩
  | .failed e => ⟨.error (.transport e), transmissions, l.erase request.identifier, retries⟩

/-- Records and sends a probe. With `none` all the drawn identifiers are in flight, and
    the search for a free one goes on. -/
def dispatch (settings : Settings) (filler : Wire.Filler) (l : Ledger) (target : IPv4)
    (sendTime : WallTime) (sentAt : Instant) (draws : List Identifier)
    (results : List SendResult) : Option Sending :=
  match l.insert draws target sentAt with
  | .error e => some ⟨.error (.ledger e), [], l, []⟩
  | .ok none => none
  | .ok (some (request, l)) =>
    some (sendRecorded settings filler sendTime request l results)

end EchoProbe
