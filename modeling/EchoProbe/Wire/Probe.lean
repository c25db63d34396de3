import EchoProbe.Wire.Message

/-!
# Probes on the wire

A probe is an echo request of 64 bytes: the header with identifier and sequence
number, the time at which it was sent, and 48 bytes of filler, which are drawn
once and are the same in all probes of a run.
-/

namespace EchoProbe

namespace Wire

/-- The bytes behind the timestamp of a probe. -/
abbrev Filler := Vector UInt8 48

/-- The size of a probe. -/
def probeSize : Nat := 64

/-- The echo request with these header fields and payload. -/
def echoRequest (header : EchoHeader) (payload : Bytes) : Bytes :=
  let identifier := header.identifier.number
  let sequenceNumber := header.sequenceNumber.number
  sealed (Message.echoRequestType :: 0 :: 0 :: 0 ::
    highByte identifier :: lowByte identifier ::
    highByte sequenceNumber :: lowByte sequenceNumber :: payload)

/-- The probe with these header fields, sent at this time. -/
def probe (header : EchoHeader) (sendTime : WallTime) (filler : Filler) : Bytes :=
  echoRequest header (writeStamp sendTime ++ filler.toList)

/-- The message of another type and code, with a checksum of its own. -/
def retyped (type code : UInt8) : Bytes → Bytes
  | _ :: _ :: rest => sealed (type :: code :: rest)
  | short => short

/-- The reply that a host sends to an echo request: the same bytes under another
    type. -/
def echoOf (request : Bytes) : Bytes := retyped Message.echoReplyType 0 request

theorem length_sealed (message : Bytes) : (sealed message).length = message.length := by
  unfold sealed
  split <;> simp

@[simp]
theorem length_probe (header : EchoHeader) (sendTime : WallTime) (filler : Filler) :
    (probe header sendTime filler).length = probeSize := by
  simp [probe, echoRequest, length_sealed, writeStamp, stampSize, probeSize]

end Wire

end EchoProbe
