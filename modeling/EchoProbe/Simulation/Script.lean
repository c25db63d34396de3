import EchoProbe.Run.State

/-!
# Scripts of a simulated network

A script tells what a simulated network does with each attempt to send a probe: which
packets arrive meanwhile, what the send waits for, whether somebody stops the run, and
what the transport answers. Packets are described by the probe that they answer and by
what the network has done to it.
-/

namespace EchoProbe.Simulation

open Wire

/-- What the network does to the timestamp of a probe. -/
inductive StampEdit
  | keep
  | zero
  | one
  | max
  deriving DecidableEq, Repr

namespace StampEdit

/-- The number that takes the place of the timestamp. -/
def nanos? : StampEdit → Option Nat
  | keep => none
  | zero => some 0
  | one => some 1
  | max => some (18446744073709551615)

end StampEdit

/-- What the network does to the bytes of a probe before it answers. -/
structure Edit where
  /-- What is added to the sequence number. -/
  sequenceDelta : UInt16 := 0
  /-- Whether the identifier is replaced by one that no probe has. -/
  stray : Bool := false
  stamp : StampEdit := .keep
  /-- How many bytes are kept. -/
  keep : Option Nat := none
  /-- How many bytes are appended. -/
  extend : Nat := 0
  deriving Repr

/-- The form of an answer. -/
inductive Form
  | echo
  | retyped (type code : UInt8)
  /-- A notification that quotes the probe behind an IP header of that many words. -/
  | timeExceeded (headerWords : Nat)
  /-- An echo with a bit flipped after its checksum was written. -/
  | corrupt
  | raw (bytes : Bytes)
  deriving Repr

/-- The next thing that the transport delivers. -/
inductive Item
  | error (e : TransportError)
  | panic
  /-- An answer to a probe (by default the latest), from an address (by default the
      target of the probe). -/
  | packet (form : Form) (edit : Edit) (probe : Option Nat) (source : Option IpAddress) (ttl : Ttl)
  deriving Repr

/-- How somebody stops the run. -/
inductive StopRoute
  | handle
  | pinger
  deriving DecidableEq, Repr

/-- What happens during an attempt to send a probe, in this order. -/
structure Entry where
  receive : List Item := []
  /-- Wait for that many outcomes. -/
  waitOutcomes : Option Nat := none
  /-- Wait until everything has been received. -/
  waitInbox : Bool := false
  /-- Wait until the run is stopped. -/
  waitStopped : Bool := false
  stop : Option StopRoute := none
  failure : Option TransportError := none

/-- A simulated run. -/
structure Script where
  host : String
  /-- The address of the host; without it the host is looked up. -/
  target : Option IPv4
  entries : List Entry
  /-- The identifier of the first probe; those of the others follow it. -/
  firstIdentifier : Identifier := ⟨0xb5a7⟩
  /-- The number of the outcome at which the reporter panics. -/
  panicAt : Option Nat := none
  stopFirst : Option StopRoute := none
  /-- Whether a second run is asked for. -/
  again : Bool := false
  stopAfter : Bool := false

/-- The bytes with others in their place from `offset` on. -/
def patch (offset : Nat) (patched bytes : Bytes) : Bytes :=
  bytes.take offset ++ patched ++ bytes.drop (offset + patched.length)

/-- The place of the identifier in an echo message. -/
def identifierOffset : Nat := 4

/-- The place of the sequence number in an echo message. -/
def sequenceOffset : Nat := 6

/-- The place of the payload in an echo message. -/
def payloadOffset : Nat := 8

/-- The identifier of an echo message. -/
def identifierOf (bytes : Bytes) : Identifier :=
  ⟨word (bytes.getD identifierOffset 0) (bytes.getD (identifierOffset + 1) 0)⟩

/-- The sequence number of an echo message. -/
def sequenceNumberOf (bytes : Bytes) : SequenceNumber :=
  ⟨word (bytes.getD sequenceOffset 0) (bytes.getD (sequenceOffset + 1) 0)⟩

/-- The timestamp of a probe, in nanoseconds. -/
def stampOf (bytes : Bytes) : Nat := bigEndian ((bytes.drop payloadOffset).take stampSize)

namespace Edit

/-- The bytes of a probe after an edit; `stray` is an identifier that no probe has. -/
def apply (e : Edit) (stray : Identifier) (probe : Bytes) : Bytes :=
  let number := (sequenceNumberOf probe).number + e.sequenceDelta
  let bytes := patch sequenceOffset [highByte number, lowByte number] probe
  let bytes :=
    if e.stray then
      patch identifierOffset [highByte stray.number, lowByte stray.number] bytes
    else bytes
  let bytes :=
    match e.stamp.nanos? with
    | some nanos => patch payloadOffset (toBigEndian stampSize nanos) bytes
    | none => bytes
  let bytes :=
    match e.keep with
    | some n => bytes.take n
    | none => bytes
  bytes ++ List.replicate e.extend 0xa5

end Edit

/-- An IPv4 header of `words` 32-bit words, at least five, with the stated length in its
    first byte, about to die and carrying ICMP. -/
def quoteHeader (words : Nat) : Bytes :=
  patch ttlIndex [1, 1] (patch 0 [0x40 ||| UInt8.ofNat words] (List.replicate (max words 5 * 4) 0))

namespace Form

/-- The message that answers a probe with these bytes. -/
def message (f : Form) (bytes : Bytes) : Bytes :=
  match f with
  | echo => echoOf bytes
  | retyped type code => Wire.retyped type code bytes
  | timeExceeded words =>
    sealed ([Message.timeExceededType, 0, 0, 0, 0, 0, 0, 0] ++ quoteHeader words ++ bytes)
  | corrupt => (echoOf bytes).modify 9 (· ^^^ 0x10)
  | raw bytes => bytes

end Form

end EchoProbe.Simulation
