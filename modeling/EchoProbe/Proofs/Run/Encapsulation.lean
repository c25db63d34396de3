import EchoProbe.Proofs.Classification.Recovery
import EchoProbe.Proofs.Run.Datagrams

/-!
# Encapsulated messages

A message comes to the socket behind an IPv4 header, which states its own length: with options, it
is longer than without. The header is cut off where it says that it ends, whatever it holds, and
the message is handled as if there had been none. The header leaves no trace but its time to live.

* `Incoming.readDatagram_eq_error_iff`: which datagrams cannot be read;
* `Wire.take_overwrite_min`, `Wire.drop_overwrite_min`: the buffer after a read, which may be too
  short for the message;
* `Incoming.packet?_append`: the packet in a datagram is the message behind the header;
* `schedule_deliver`: a packet that comes while the processor waits is classified;
* `encapsulation_stripped`: the whole way of a datagram.
-/

namespace EchoProbe

namespace Wire

variable (buffer bytes : Bytes)

/-- As many bytes as fit are written, and the rest of the buffer stays. -/
theorem overwrite_eq :
    overwrite buffer bytes = bytes.take (min bytes.length buffer.length) ++
      buffer.drop (min bytes.length buffer.length) := by
  rw [overwrite]
  rcases Nat.le_total bytes.length buffer.length with h | h
  · rw [Nat.min_eq_left h, List.take_of_length_le h, List.take_length]
  · rw [Nat.min_eq_right h, List.drop_eq_nil_of_le h, List.drop_length]

/-- As many bytes as fit are at the front. -/
theorem take_overwrite_min :
    (overwrite buffer bytes).take (min bytes.length buffer.length) =
      bytes.take (min bytes.length buffer.length) := by
  rw [overwrite_eq]
  exact List.take_left' (List.length_take_of_le (Nat.min_le_left _ _))

/-- The rest is as it was. -/
theorem drop_overwrite_min :
    (overwrite buffer bytes).drop (min bytes.length buffer.length) =
      buffer.drop (min bytes.length buffer.length) := by
  rw [overwrite_eq]
  exact List.drop_left' (List.length_take_of_le (Nat.min_le_left _ _))

end Wire

namespace Incoming

open Wire

variable {d : Incoming} {p : Packet}

/-- There is no packet without a header, and none from an unknown sender. -/
theorem packet?_eq_none_iff : d.packet? = none ↔ ¬ d.HasHeader ∨ d.source = none := by
  unfold packet?
  cases d.source with
  | none => simp
  | some ip => simp

/-- Reading fails exactly if there is no packet. -/
theorem readDatagram_eq_error_iff (buffer : Bytes) :
    (∃ e, (readDatagram d.datagram d.source buffer).1 = .error e) ↔ d.packet? = none := by
  cases h : d.packet? with
  | none =>
    obtain ⟨e, buffer', hread, -⟩ := readDatagram_of_eq_none h buffer
    simp [hread]
  | some p => simp [readDatagram_of_packet? h]

section Size

variable (size : d.datagram.length ≤ captureSize)
include size

/-- The socket keeps all of a datagram that is not too long. -/
theorem captured_eq : d.captured = d.datagram := List.take_of_length_le size

theorem headerSize_eq : d.headerSize = 4 * ((d.datagram.headD 0).toNat % 16) := by
  rw [headerSize, captured_eq size, Wire.headerSize_eq]

theorem hasHeader_iff :
    d.HasHeader ↔ 20 ≤ d.datagram.length ∧
      4 * ((d.datagram.headD 0).toNat % 16) ≤ d.datagram.length := by
  rw [HasHeader, headerSize_eq size, captured_eq size, minHeaderSize]

/-- A read puts what lies behind the header to the front of the buffer, and tells how much of it
    that is, who sent it, and the time to live in the header. -/
theorem readDatagram_eq_ok {buffer : Bytes} {arrival : Arrival}
    (h : (readDatagram d.datagram d.source buffer).1 = .ok arrival) :
    let message := d.datagram.drop (4 * ((d.datagram.headD 0).toNat % 16))
    arrival.length = min message.length buffer.length ∧
    d.source.map .v4 = some arrival.source ∧
    d.datagram[ttlIndex]? = some arrival.ttl.hops ∧
    (readDatagram d.datagram d.source buffer).2 = overwrite buffer message := by
  intro message
  cases hpacket : d.packet? with
  | none =>
    obtain ⟨e, hread⟩ := (readDatagram_eq_error_iff buffer).2 hpacket
    rw [hread] at h
    cases h
  | some p =>
    obtain ⟨hheader, ip, hsource, rfl⟩ := packet?_eq_some_iff.1 hpacket
    -- The time to live lies in the shortest header already.
    have hlong : ttlIndex < d.datagram.length :=
      Nat.lt_of_lt_of_le (by decide) ((hasHeader_iff size).1 hheader).1
    have httl : d.datagram[ttlIndex]? = some (d.datagram.getD ttlIndex 0) := by
      rw [List.getD_eq_getElem?_getD, List.getElem?_eq_getElem hlong, Option.getD_some]
    rw [readDatagram_of_packet? hpacket, headerSize_eq size, captured_eq size] at h ⊢
    cases h
    exact ⟨rfl, by rw [hsource]; rfl, httl, rfl⟩

end Size

/-- What lies behind a header is the message, to its last byte. -/
theorem packet?_append (front : HeaderIPv4) (message : Bytes) (ip : IPv4) (receivedAt : Instant)
    (receivedWall : WallTime) (size : (front.bytes ++ message).length ≤ captureSize) :
    packet? ⟨front.bytes ++ message, some ip, receivedAt, receivedWall⟩ =
      some ⟨message, .v4 ip, ⟨front.bytes.getD ttlIndex 0⟩, receivedAt, receivedWall⟩ := by
  have hmin := front.minHeaderSize_le
  have hsize : headerSize ⟨front.bytes ++ message, some ip, receivedAt, receivedWall⟩ =
      front.bytes.length := by
    rw [headerSize, captured_eq size]
    exact front.statedSize_append message
  refine packet?_eq_some_iff.2 ⟨⟨?_, ?_⟩, ip, rfl, ?_⟩
  · rw [captured_eq size, List.length_append]
    omega
  · rw [hsize, captured_eq size, List.length_append]
    omega
  · have httl : (front.bytes ++ message).getD ttlIndex 0 = front.bytes.getD ttlIndex 0 := by
      rw [List.getD_eq_getElem?_getD, List.getD_eq_getElem?_getD,
        List.getElem?_append_left (Nat.lt_of_lt_of_le (by decide) hmin)]
    rw [hsize, captured_eq size, List.drop_left, httl]

end Incoming

namespace Run.Machine

variable {σ : Type} {R : Reporter σ} {m : Machine σ}

/-- If the receiver reads and the processor waits, then a packet that comes is handed over and
    classified. -/
theorem schedule_deliver {d : Incoming} {p : Packet} (h : d.packet? = some p)
    (reading : m.receiver = .reading) (waiting : m.processor = .waiting)
    (old : Vector UInt8 bufferSize) :
    let c := m.ledger.classify p
    ∃ buffer events, Schedule R m
        [(SocketAction.deliver d old).action, .receiver .handOver, .processor .classify] events
        { m with
          clock := d.receivedAt
          buffer
          ledger := c.ledger
          receiver := .polling
          processor := .reporting c.outcome [] .check } ∧
      readPackets events = [p] ∧ .classified p c.outcome ∈ events := by
  intro c
  obtain ⟨buffer, seen, htaken, hread, -⟩ := step_deliver R reading d old
  rw [h] at htaken hread
  let handing : Machine σ := { m with clock := d.receivedAt, buffer, receiver := .handing p }
  have hhandOver : handing.stepAnytime R (.receiver .handOver) =
      some ({ handing with receiver := .polling, processor := .holding p }, []) := by
    simp [handing, stepAnytime, Action.reading?, stepAt, stepReceiver, waiting]
  -- The receiver hands over at once, as the processor waits.
  have run := (Schedule.refl.step _ htaken).step _ hhandOver
  refine ⟨buffer, _, run.step (.processor .classify) rfl, ?_, ?_⟩
  · simp [hread, Event.read?]
  · exact List.mem_append_right _ (List.mem_cons_self ..)

/-- The message in a datagram is taken out of it exactly. A datagram that the socket keeps as a
    whole cannot be read if and only if it is shorter than the shortest header or than the header
    that it states, or if its sender has no IPv4 address. Else, the read tells the sender, the time
    to live in the header, and how much of the message the buffer holds; this much of what lies
    behind the header is at the front of the buffer, and behind it the buffer is as it was. So if
    a message comes behind any header, it is classified as that message without a header would be,
    with the time to live that stands in the header: the outcome is the same, and so is the ledger,
    whatever else the header holds, and whatever the buffer held before. -/
theorem encapsulation_stripped (datagram : Bytes) (size : datagram.length ≤ 512)
    (source : Option IPv4) :
    let skipped := 4 * ((datagram.headD 0).toNat % 16)
    (∀ buffer,
      let n := min (datagram.length - skipped) buffer.length
      let read := Wire.readDatagram datagram source buffer
      ((∃ e, read.1 = .error e) ↔
        datagram.length < 20 ∨ datagram.length < skipped ∨ source = none) ∧
      ∀ arrival, read.1 = .ok arrival →
        arrival.length = n ∧ source.map .v4 = some arrival.source ∧
        datagram[8]? = some arrival.ttl.hops ∧
        read.2.take n = (datagram.drop skipped).take n ∧ read.2.drop n = buffer.drop n) ∧
    ∀ (front : Wire.HeaderIPv4) (message : Bytes) (ip : IPv4) (receivedAt : Instant)
      (receivedWall : WallTime), datagram = front.bytes ++ message → source = some ip →
      let p : Packet := ⟨message, .v4 ip, ⟨front.bytes.getD 8 0⟩, receivedAt, receivedWall⟩
      let d : Incoming := ⟨datagram, source, receivedAt, receivedWall⟩
      ∀ (m : Machine σ) (old : Vector UInt8 512), m.receiver = .reading → m.processor = .waiting →
        let c := m.ledger.classify p
        ∃ buffer events, Schedule R m
            [(SocketAction.deliver d old).action, .receiver .handOver, .processor .classify] events
            { m with
              clock := receivedAt
              buffer
              ledger := c.ledger
              receiver := .polling
              processor := .reporting c.outcome [] .check } ∧
          readPackets events = [p] ∧ .classified p c.outcome ∈ events := by
  intro skipped
  refine ⟨fun buffer => ?_, ?_⟩
  · intro n read
    let d : Incoming := ⟨datagram, source, .zero, .zero⟩
    refine ⟨?_, fun arrival hread => ?_⟩
    · have hnone := (Incoming.readDatagram_eq_error_iff (d := d) buffer).trans
        Incoming.packet?_eq_none_iff
      rwa [Incoming.hasHeader_iff size, not_and_or, Nat.not_le, Nat.not_le, or_assoc] at hnone
    · obtain ⟨hlength, hsource, httl, hafter⟩ := Incoming.readDatagram_eq_ok (d := d) size hread
      have hn : n = min (datagram.drop skipped).length buffer.length := by rw [List.length_drop]
      have hafter : read.2 = Wire.overwrite buffer (datagram.drop skipped) := hafter
      rw [hn, hafter]
      exact ⟨hlength, hsource, httl, Wire.take_overwrite_min .., Wire.drop_overwrite_min ..⟩
  · rintro front message ip receivedAt receivedWall rfl rfl p d m old reading waiting
    exact schedule_deliver (Incoming.packet?_append front message ip receivedAt receivedWall size)
      reading waiting old

/-- The probe `2` is out. The receiver reads, and the processor waits. -/
def awaitingReply : List Action :=
  [.caller (.ping "10.0.0.1" ⟨10, 0, 0, 1⟩), .sender (.start .zero), .sender (.launch .zero),
    .sender .look, .sender (.record ⟨1360, by decide, by decide⟩ .zero [⟨2⟩]),
    .sender (.attempt (.ok ())), .processor (.start .zero), .processor .turn, .receiver .poll]

/-- Behind the longest header, full of options, the echo is the reply that it is. -/
theorem encapsulation_stripped_longest :
    let echo := Wire.echoOf (Wire.probe ⟨⟨2⟩, .first⟩ ⟨1360, by decide, by decide⟩
      (Vector.replicate 48 0))
    let d : Incoming :=
      ⟨Ledger.longestHeader.bytes ++ echo, some ⟨10, 0, 0, 1⟩, .zero, ⟨3360, by decide, by decide⟩⟩
    ∃ before m events m', Schedule .silent (fresh ()) awaitingReply before m ∧
      d.datagram.length = 124 ∧
      Schedule .silent m
        [(SocketAction.deliver d (Vector.replicate 512 0x5A)).action, .receiver .handOver,
          .processor .classify] events m' ∧
      m'.processor = .reporting
        (.reply ⟨64, .v4 ⟨10, 0, 0, 1⟩, ⟨0x94⟩, .first, ⟨2000, by decide⟩⟩) [] .check ∧
      m'.ledger.find? ⟨2⟩ = none := by
  intro echo d
  have hplayed : ∃ m before, (fresh ()).play .silent awaitingReply = some (m, before) ∧
      m.receiver = .reading ∧ m.processor = .waiting ∧
      m.ledger = (Ledger.empty.record ⟨2⟩ ⟨10, 0, 0, 1⟩ .zero).2 :=
    ⟨_, _, rfl, rfl, rfl, rfl⟩
  obtain ⟨m, before, hplayed, reading, waiting, hledger⟩ := hplayed
  have hsize : d.datagram.length = 124 := by decide +kernel
  have hwhole := (encapsulation_stripped (R := .silent) d.datagram (by rw [hsize]; decide)
    d.source).2 Ledger.longestHeader echo ⟨10, 0, 0, 1⟩ d.receivedAt d.receivedWall rfl rfl
  obtain ⟨buffer, events, run, -⟩ := hwhole m (Vector.replicate 512 0x5A) reading waiting
  refine ⟨before, m, events, _, schedule_of_play hplayed, hsize, run, ?_, ?_⟩
  · rw [hledger]
    exact congrArg (Processor.reporting · [] .check) (by decide +kernel)
  · rw [hledger]
    change (Ledger.classify _ _).ledger.find? ⟨2⟩ = none
    decide +kernel

end Run.Machine

end EchoProbe
