import EchoProbe.Classification
import EchoProbe.Wire.Datagram

/-!
# What is read from a socket

A datagram comes to the socket (`Incoming`), and what it holds for the run is the packet in it:
whatever lies behind its header, of the bytes that the socket keeps (`Incoming.packet?`). Reading
the datagram puts that packet to the front of the buffer (`Incoming.readDatagram_of_packet?`).
Without a packet, the read fails (`Incoming.readDatagram_of_eq_none`).
-/

namespace EchoProbe

/-- What was put to the front of a buffer that is long enough. -/
theorem Wire.take_overwrite {buffer message : Bytes} (h : message.length ≤ buffer.length) :
    (overwrite buffer message).take message.length = message := by
  rw [overwrite, List.take_of_length_le h, List.take_left]

/-- A datagram that comes to the socket, with the times of its reading on both clocks; the sender
    may have no IPv4 address. -/
structure Incoming where
  datagram : Bytes
  source : Option IPv4
  receivedAt : Instant
  receivedWall : WallTime
  deriving DecidableEq, Repr

namespace Incoming

/-- What the socket keeps of the datagram. -/
def captured (d : Incoming) : Bytes := d.datagram.take Wire.captureSize

/-- The length that the header of the datagram states. -/
def headerSize (d : Incoming) : Nat := Wire.headerSize (d.captured.headD 0)

/-- Whether the header of the datagram is there. -/
def HasHeader (d : Incoming) : Prop :=
  Wire.minHeaderSize ≤ d.captured.length ∧ d.headerSize ≤ d.captured.length

instance (d : Incoming) : Decidable d.HasHeader :=
  inferInstanceAs (Decidable (_ ∧ _))

/-- The packet in the datagram: the bytes behind its header. There is none without a header, or if
    the sender has no IPv4 address. -/
def packet? (d : Incoming) : Option Packet :=
  match d.source with
  | some ip =>
    if d.HasHeader then
      some ⟨d.captured.drop d.headerSize, ip, ⟨d.captured.getD Wire.ttlIndex 0⟩, d.receivedAt,
        d.receivedWall⟩
    else none
  | none => none

variable {d : Incoming} {p : Packet}

/-- A packet is what lies behind a header that is there, from a sender that has an IPv4 address. -/
theorem packet?_eq_some_iff :
    d.packet? = some p ↔ d.HasHeader ∧ ∃ ip, d.source = some ip ∧
      p = ⟨d.captured.drop d.headerSize, ip, ⟨d.captured.getD Wire.ttlIndex 0⟩, d.receivedAt,
        d.receivedWall⟩ := by
  unfold packet?
  cases d.source with
  | none => simp
  | some ip =>
    by_cases hheader : d.HasHeader
    · simp [hheader, eq_comm]
    · simp [hheader]

/-- A packet has the times of the reading. -/
theorem packet_eq (h : d.packet? = some p) :
    (⟨p.bytes, p.source, p.ttl, d.receivedAt, d.receivedWall⟩ : Packet) = p := by
  obtain ⟨-, ip, -, rfl⟩ := packet?_eq_some_iff.1 h
  rfl

/-- A packet is no longer than what the socket keeps. -/
theorem length_bytes_le (h : d.packet? = some p) : p.bytes.length ≤ Wire.captureSize := by
  obtain ⟨-, ip, -, rfl⟩ := packet?_eq_some_iff.1 h
  have hcaptured : d.captured.length ≤ Wire.captureSize := List.length_take_le _ _
  rw [List.length_drop]
  omega

/-- With a header, the payload is copied to the front of the buffer before the sender is looked at.
    -/
theorem readDatagram_of_hasHeader (h : d.HasHeader) (buffer : Bytes) :
    Wire.readDatagram d.datagram d.source buffer =
      (match d.source with
        | none => .error .sourceNotIPv4
        | some ip =>
          .ok ⟨min (d.captured.drop d.headerSize).length buffer.length, ip,
            ⟨d.captured.getD Wire.ttlIndex 0⟩⟩,
        Wire.overwrite buffer (d.captured.drop d.headerSize)) := by
  simp only [HasHeader, headerSize, captured, Wire.readDatagram] at h ⊢
  generalize d.datagram.take Wire.captureSize = captured at h ⊢
  cases captured with
  | nil => cases h.1
  | cons first rest =>
    rw [List.headD_cons] at h ⊢
    simp only [if_neg (Nat.not_lt.2 h.1), if_neg (Nat.not_lt.2 h.2), Wire.length_overwrite]
    cases d.source <;> rfl

/-- Without one, the buffer is not touched. -/
theorem readDatagram_of_not_hasHeader (h : ¬ d.HasHeader) (buffer : Bytes) :
    ∃ e, Wire.readDatagram d.datagram d.source buffer = (.error e, buffer) := by
  simp only [HasHeader, headerSize, captured, Wire.readDatagram] at h ⊢
  generalize d.datagram.take Wire.captureSize = captured at h ⊢
  cases captured with
  | nil => exact ⟨_, rfl⟩
  | cons first rest =>
    rw [List.headD_cons] at h
    by_cases hshort : (first :: rest).length < Wire.minHeaderSize
    · exact ⟨_, if_pos hshort⟩
    · have hsize : (first :: rest).length < Wire.headerSize first :=
        Nat.lt_of_not_le fun hsize => h ⟨Nat.le_of_not_lt hshort, hsize⟩
      exact ⟨_, (if_neg hshort).trans (if_pos hsize)⟩

/-- A packet goes to the front of the buffer. -/
theorem readDatagram_of_packet? (h : d.packet? = some p) (buffer : Bytes) :
    Wire.readDatagram d.datagram d.source buffer =
      (.ok ⟨min p.bytes.length buffer.length, p.source, p.ttl⟩,
        Wire.overwrite buffer p.bytes) := by
  obtain ⟨hheader, ip, hsource, rfl⟩ := packet?_eq_some_iff.1 h
  rw [readDatagram_of_hasHeader hheader, hsource]

/-- A datagram without a packet cannot be read; its bytes may be in the buffer nevertheless. -/
theorem readDatagram_of_eq_none (h : d.packet? = none) (buffer : Bytes) :
    ∃ e buffer', Wire.readDatagram d.datagram d.source buffer = (.error e, buffer') ∧
      buffer'.length = buffer.length := by
  by_cases hheader : d.HasHeader
  · rw [readDatagram_of_hasHeader hheader]
    cases hsource : d.source with
    | none => exact ⟨_, _, rfl, Wire.length_overwrite _ _⟩
    | some ip => simp [packet?, hsource, hheader] at h
  · obtain ⟨e, hread⟩ := readDatagram_of_not_hasHeader hheader buffer
    exact ⟨e, buffer, hread, rfl⟩

end Incoming

end EchoProbe
