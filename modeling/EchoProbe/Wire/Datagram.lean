import EchoProbe.Address
import EchoProbe.Wire.Message

/-!
# Datagrams

A raw socket delivers IP datagrams. Reading one strips the IPv4 header and puts the
ICMP message behind it into the caller's buffer. Two things are cut without notice:
the socket keeps at most `captureSize` bytes of a datagram, and the buffer takes at
most its own length. Bytes of the buffer behind the message stay as they were.
-/

namespace EchoProbe

/-- What a read of the transport tells beside the bytes in the buffer. -/
structure Arrival where
  length : Nat
  source : IpAddress
  ttl : Ttl
  deriving DecidableEq, Repr

/-- Why a datagram cannot be read. None of these says anything about the socket. -/
inductive DatagramError
  | truncatedHeader
  | headerExceedsPacket
  | sourceNotIPv4
  deriving DecidableEq, Repr

namespace DatagramError

/-- The text that tells the user about the error. -/
def message : DatagramError → String
  | truncatedHeader => "truncated IPv4 header"
  | headerExceedsPacket => "IPv4 header length exceeds packet"
  | sourceNotIPv4 => "sender is not an IPv4 address"

end DatagramError

namespace Wire

/-- How much of a datagram the socket keeps. -/
def captureSize : Nat := 512

/-- The place of the time to live in an IPv4 header. -/
def ttlIndex : Nat := 8

/-- The buffer after bytes were written to its front; what does not fit is cut. -/
def overwrite (buffer bytes : Bytes) : Bytes :=
  bytes.take buffer.length ++ buffer.drop bytes.length

theorem length_overwrite (buffer bytes : Bytes) :
    (overwrite buffer bytes).length = buffer.length := by
  simp only [overwrite, List.length_append, List.length_take, List.length_drop]
  omega

/-- Reads a datagram into a buffer: the message behind its header goes to the front
    of the buffer, before the sender is looked at. The second component is the
    buffer afterwards. -/
def readDatagram (datagram : Bytes) (source : Option IPv4) (buffer : Bytes) :
    Except DatagramError Arrival × Bytes :=
  let captured := datagram.take captureSize
  match captured with
  | [] => (.error .truncatedHeader, buffer)
  | first :: _ =>
    if captured.length < minHeaderSize then (.error .truncatedHeader, buffer)
    else if captured.length < headerSize first then (.error .headerExceedsPacket, buffer)
    else
      let message := captured.drop (headerSize first)
      let buffer := overwrite buffer message
      match source with
      | none => (.error .sourceNotIPv4, buffer)
      | some ip =>
        (.ok ⟨min message.length buffer.length, ip, ⟨captured.getD ttlIndex 0⟩⟩, buffer)

end Wire

end EchoProbe
