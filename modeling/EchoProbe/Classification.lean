import EchoProbe.Ledger
import EchoProbe.Log
import EchoProbe.Outcome
import EchoProbe.Wire.Message

/-!
# What a packet says about the probes in flight

A packet is decoded and looked up in the ledger. If it answers or kills a probe in
flight, the probe leaves the ledger, and the outcome is a reply or a loss. Otherwise the
ledger stays as it is, and the outcome tells what is wrong with the packet.

A reply must come from the probed host. Its round trip is measured on the wall clock,
from the time that it carries; without a usable time, on the monotonic clock from when
the probe was recorded. A reply that carries another sequence number than its probe is
counted, but its round trip is zero.
-/

namespace EchoProbe

/-- A packet as it was read, with the times of the reading on both clocks. -/
structure Packet where
  bytes : Bytes
  source : IpAddress
  ttl : Ttl
  receivedAt : Instant
  receivedWall : WallTime
  deriving DecidableEq, Repr

/-- An outcome and the ledger after it. -/
structure Classified where
  outcome : Outcome
  ledger : Ledger
  log : List LogLine := []

namespace Packet

/-- The failure that the packet stands for. -/
def failure (p : Packet) (kind : FailureKind) (n : Option SequenceNumber) : Outcome :=
  .failure ⟨kind, some p.source, n⟩

/-- The time from the sending of a request to the reading of the packet. -/
def roundTrip (p : Packet) (request : Request) (sendTime : Option WallTime) : Duration :=
  (sendTime.bind fun t => p.receivedWall.since? t).getD (p.receivedAt.since request.sentAt)

/-- The line about a reply whose sequence number is not that of its request. -/
def mismatchLine (p : Packet) (request : Request) (n : SequenceNumber) : LogLine :=
  .warn (s!"reply from {p.source} for id {request.identifier} carries icmp_seq={n}, " ++
    s!"expected icmp_seq={request.sequenceNumber}")

/-- The reply that the packet is to a request in flight. -/
def answer (p : Packet) (request : Request) (roundTrip : Duration) : Outcome :=
  .reply ⟨p.bytes.length, p.source, p.ttl, request.sequenceNumber, roundTrip⟩

end Packet

namespace Ledger

/-- What an echo reply says. -/
def classifyReply (l : Ledger) (p : Packet) (header : EchoHeader) (sendTime : Option WallTime) :
    Classified :=
  match l.take? header.identifier with
  | none => ⟨p.failure (.strayReply header.identifier) (some header.sequenceNumber), l, []⟩
  | some (request, l) =>
    if p.source ≠ request.target then
      ⟨p.failure (.wrongHost request.target) (some request.sequenceNumber), l, []⟩
    else if header.sequenceNumber = request.sequenceNumber then
      ⟨p.answer request (p.roundTrip request sendTime), l, []⟩
    else
      ⟨p.answer request .zero, l, [p.mismatchLine request header.sequenceNumber]⟩

/-- What a time-exceeded notification says. -/
def classifyTimeExceeded (l : Ledger) (p : Packet) : Option EchoHeader → Classified
  | none => ⟨p.failure (.strayTimeExceeded none) none, l, []⟩
  | some header =>
    match l.take? header.identifier with
    | none =>
      ⟨p.failure (.strayTimeExceeded (some header.identifier)) (some header.sequenceNumber), l, []⟩
    | some (request, l) => ⟨p.failure .timeExceeded (some request.sequenceNumber), l, []⟩

/-- What a packet says about the probes in flight. -/
def classify (l : Ledger) (p : Packet) : Classified :=
  match Wire.decode p.bytes with
  | .error e => ⟨p.failure (.malformed e.message) none, l, []⟩
  | .ok (.echoReply header sendTime) => l.classifyReply p header sendTime
  | .ok (.timeExceeded quoted) => l.classifyTimeExceeded p quoted
  | .ok (.other type code) => ⟨p.failure (.unexpectedType type code) none, l, []⟩

end Ledger

namespace Request

/-- The outcome of a request that got no answer. -/
def lost (r : Request) (kind : FailureKind) : Outcome :=
  .failure ⟨kind, some r.target, some r.sequenceNumber⟩

end Request

end EchoProbe
