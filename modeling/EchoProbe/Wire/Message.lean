import EchoProbe.Fields
import EchoProbe.Text.Digits
import EchoProbe.Time
import EchoProbe.Wire.Checksum

/-!
# Messages

What an ICMPv4 message says, read from its bytes (without the IP header in front).

* An echo reply carries the header fields of the probe it answers and, in the
  first eight bytes of its payload, the time at which the probe was sent.
* A time-exceeded notification quotes the datagram that died: its IP header and
  at least eight bytes behind it. `quotedEcho?` finds the echo request in it.
* Of every other message only type and code are kept.

A message is refused if it is too short for its type or carries a checksum other
than its own (`DecodeError`).
-/

namespace EchoProbe

/-- The header fields by which an echo message names its probe. -/
structure EchoHeader where
  identifier : Identifier
  sequenceNumber : SequenceNumber
  deriving DecidableEq, Repr

/-- What an ICMPv4 message says. -/
inductive Message
  | echoReply (header : EchoHeader) (sendTime : Option WallTime)
  /-- A probe, or something else (`none`), ran out of hops. -/
  | timeExceeded (quoted : Option EchoHeader)
  | other (type code : UInt8)
  deriving DecidableEq, Repr

/-- Why bytes are no message. -/
inductive DecodeError
  | tooShort (length : Nat)
  | checksum (received computed : UInt16)
  deriving DecidableEq, Repr

namespace DecodeError

/-- The text that tells the user about the error. -/
def message : DecodeError → String
  | tooShort length => s!"packet too short ({length} bytes)"
  | checksum received computed =>
    s!"bad checksum {Text.hexWord received}, expected {Text.hexWord computed}"

end DecodeError

namespace Message

/-- The type of an echo reply. -/
def echoReplyType : UInt8 := 0

/-- The type of an echo request. -/
def echoRequestType : UInt8 := 8

/-- The type of a time-exceeded notification. -/
def timeExceededType : UInt8 := 11

end Message

namespace Wire

open Message

/-- The size of a timestamp. -/
def stampSize : Nat := 8

/-- The length of an IPv4 header without options. -/
def minHeaderSize : Nat := 20

/-- The header fields in four bytes. -/
def echoHeader (i₁ i₂ s₁ s₂ : UInt8) : EchoHeader := ⟨⟨word i₁ i₂⟩, ⟨word s₁ s₂⟩⟩

/-- The time that a payload starts with: nanoseconds since the Unix epoch. Zero
    stands for no time. -/
def readStamp (payload : Bytes) : Option WallTime :=
  if payload.length < stampSize then none
  else match bigEndian (payload.take stampSize) with
    | 0 => none
    | nanos => Time.ofNanos? nanos

/-- A time as nanoseconds since the Unix epoch: zero before the epoch, the greatest
    number beyond the last nanosecond that fits. -/
def writeStamp (time : WallTime) : Bytes :=
  toBigEndian stampSize (min time.nanos.toNat 18446744073709551615)

/-- The length that an IPv4 header states in its first byte, as 32-bit words. -/
def headerSize (first : UInt8) : Nat := (first &&& 0x0f).toNat * 4

/-- The header fields of an echo request. -/
def requestHeader? : Bytes → Option EchoHeader
  | type :: _ :: _ :: _ :: i₁ :: i₂ :: s₁ :: s₂ :: _ =>
    if type = echoRequestType then some (echoHeader i₁ i₂ s₁ s₂) else none
  | _ => none

/-- The header fields of the echo request in a quoted datagram, which lies behind
    an IPv4 header of the stated length. -/
def quotedEcho? (quote : Bytes) : Option EchoHeader :=
  match quote with
  | [] => none
  | first :: _ =>
    if quote.length < minHeaderSize then none else requestHeader? (quote.drop (headerSize first))

/-- What a message with a right checksum says. -/
def interpret (type code : UInt8) (body : Bytes) : Except DecodeError Message :=
  if type = echoReplyType then
    match body with
    | i₁ :: i₂ :: s₁ :: s₂ :: payload =>
      .ok (.echoReply (echoHeader i₁ i₂ s₁ s₂) (readStamp payload))
    | _ => .error (.tooShort (4 + body.length))
  else if type = timeExceededType then
    match body with
    | _ :: _ :: _ :: _ :: quote => .ok (.timeExceeded (quotedEcho? quote))
    | _ => .error (.tooShort (4 + body.length))
  else .ok (.other type code)

/-- Reads a message. The checksum is tested before anything else is looked at. -/
def decode (bytes : Bytes) : Except DecodeError Message :=
  match bytes with
  | type :: code :: high :: low :: body =>
    let received := word high low
    let computed := checksum bytes
    if computed ≠ received then .error (.checksum received computed)
    else interpret type code body
  | _ => .error (.tooShort bytes.length)

end Wire

end EchoProbe
