import EchoProbe.Proofs.Wire.Reading
import EchoProbe.Proofs.Wire.RoundTrip

/-!
# Bounds

Whoever sends a datagram chooses its bytes, and some of them are lengths: the length of the IPv4
header, which is cut off, and the length of the header in a quoted datagram. Here, everything that
is done with a datagram is done again in a way that minds the bounds (`Checked`): a slice or a byte
beyond the end, a number that does not fit, or a copy between two lengths is a fault, of which a
thread would die.

Each of these computations is shown to be free of faults and to give what its namesake without
checks gives. `handle_eq` sums them up for one datagram.
-/

namespace EchoProbe

/-- Why a thread dies. -/
inductive Fault
  | slice
  | byte
  | overflow
  | copy
  deriving DecidableEq, Repr

/-- A computation that minds the bounds. -/
abbrev Checked := Except Fault

namespace Checked

open Message Wire

variable {bytes buffer : Bytes}

@[simp]
theorem ok_bind {α β : Type} (a : α) (f : α → Checked β) : (Except.ok a : Checked α) >>= f = f a :=
  rfl

/-! ## Accesses -/

/-- The bytes from the first place up to the last. -/
def slice (bytes : Bytes) (first last : Nat) : Checked Bytes :=
  if first ≤ last ∧ last ≤ bytes.length then .ok ((bytes.take last).drop first) else .error .slice

/-- The byte at a place. -/
def byte (bytes : Bytes) (i : Nat) : Checked UInt8 :=
  if h : i < bytes.length then .ok bytes[i] else .error .byte

/-- A number of so many bits. -/
def fit (bits n : Nat) : Checked Nat := if n < Nat.pow 2 bits then .ok n else .error .overflow

/-- The source, copied to a target of the same length. -/
def copy (target source : Bytes) : Checked Bytes :=
  if target.length = source.length then .ok source else .error .copy

/-- The bytes from a place on, if the place is not beyond the end. -/
def from? (bytes : Bytes) (first : Nat) : Option Bytes :=
  if first ≤ bytes.length then some (bytes.drop first) else none

theorem slice_zero {last : Nat} (h : last ≤ bytes.length) :
    slice bytes 0 last = .ok (bytes.take last) :=
  if_pos ⟨Nat.zero_le _, h⟩

theorem slice_length {first : Nat} (h : first ≤ bytes.length) :
    slice bytes first bytes.length = .ok (bytes.drop first) := by
  rw [slice, if_pos ⟨h, Nat.le_refl _⟩, List.take_length]

theorem byte_eq {i : Nat} (h : i < bytes.length) : byte bytes i = .ok (bytes.getD i 0) := by
  simp [byte, List.getD, h]

theorem fit_eq {bits n : Nat} (h : n < Nat.pow 2 bits) : fit bits n = .ok n := if_pos h

theorem copy_eq {target source : Bytes} (h : target.length = source.length) :
    copy target source = .ok source := if_pos h

/-! ## Reading -/

/-- The length that an IPv4 header states. -/
def headerSize (first : UInt8) : Checked Nat := fit 32 ((first &&& 0x0f).toNat * 4)

/-- The length of a header is four times a number of four bits. -/
theorem headerSize_eq (first : UInt8) : headerSize first = .ok (Wire.headerSize first) := by
  refine fit_eq (Nat.lt_of_le_of_lt (Nat.mul_le_mul_right 4 (m := 15) ?_) (by decide))
  rw [UInt8.toNat_and]
  exact Nat.and_le_right

/-- The buffer after a message was copied to its front. -/
def overwrite (buffer message : Bytes) : Checked Bytes := do
  let length := min message.length buffer.length
  let front ← copy (← slice buffer 0 length) (← slice message 0 length)
  return front ++ buffer.drop length

/-- Reads a datagram into a buffer. -/
def readDatagram (datagram : Bytes) (source : Option IPv4) (buffer : Bytes) :
    Checked (Except DatagramError Arrival × Bytes) := do
  -- The socket writes to a store of its own and tells how much it wrote.
  let store := Wire.overwrite (List.replicate captureSize 0) datagram
  let captured ← slice store 0 (min datagram.length captureSize)
  if captured.length < minHeaderSize then
    return (.error .truncatedHeader, buffer)
  let size ← headerSize (← byte captured 0)
  match from? captured size with
  | none => return (.error .headerExceedsPacket, buffer)
  | some message =>
    let buffer ← overwrite buffer message
    match source with
    | none => return (.error .sourceNotIPv4, buffer)
    | some ip =>
      return (.ok ⟨min message.length buffer.length, ip, ⟨← byte captured ttlIndex⟩⟩, buffer)

/-- Front and message are cut to the same length before the copy. -/
theorem overwrite_eq (buffer message : Bytes) :
    overwrite buffer message = .ok (Wire.overwrite buffer message) := by
  have hbuffer := slice_zero (Nat.min_le_right message.length buffer.length)
  have hmessage := slice_zero (Nat.min_le_left message.length buffer.length)
  rw [overwrite, hbuffer, hmessage, ok_bind, ok_bind, copy_eq, ok_bind, Wire.overwrite]
  · -- Whichever is the shorter one is taken whole.
    rcases Nat.le_total message.length buffer.length with h | h
    · rw [Nat.min_eq_left h, List.take_length, List.take_of_length_le h]
      rfl
    · rw [Nat.min_eq_right h, List.drop_length, List.drop_eq_nil_of_le h]
      rfl
  · rw [List.length_take, List.length_take]
    omega

/-- What the socket wrote is what it keeps of the datagram. -/
theorem slice_store (datagram : Bytes) :
    slice (Wire.overwrite (List.replicate captureSize 0) datagram) 0
      (min datagram.length captureSize) = .ok (datagram.take captureSize) := by
  rw [slice_zero, Wire.overwrite, List.length_replicate]
  · exact congrArg _ (List.take_left' (by rw [List.length_take, Nat.min_comm]))
  · rw [length_overwrite, List.length_replicate]
    exact Nat.min_le_right _ _

/-- A datagram is read within its bounds: the header is looked at only if it is there, and cut off
    only if it is not longer than the datagram. -/
theorem readDatagram_eq (datagram : Bytes) (source : Option IPv4) (buffer : Bytes) :
    readDatagram datagram source buffer = .ok (Wire.readDatagram datagram source buffer) := by
  simp only [readDatagram, slice_store, ok_bind, Wire.readDatagram]
  generalize datagram.take captureSize = captured
  cases captured with
  | nil => rfl
  | cons first rest =>
    by_cases hshort : (first :: rest).length < minHeaderSize
    · simp only [if_pos hshort]
      rfl
    have hfirst : byte (first :: rest) 0 = .ok first := rfl
    -- The time to live lies within the shortest header.
    have httl : byte (first :: rest) ttlIndex = .ok ((first :: rest).getD ttlIndex 0) :=
      byte_eq (Nat.lt_of_lt_of_le (by decide) (Nat.le_of_not_lt hshort))
    simp only [if_neg hshort, hfirst, httl, headerSize_eq, overwrite_eq, ok_bind, from?]
    by_cases hsize : Wire.headerSize first ≤ (first :: rest).length
    · simp only [if_pos hsize, if_neg (Nat.not_lt.2 hsize)]
      cases source <;> rfl
    · simp only [if_neg hsize, if_pos (Nat.lt_of_not_le hsize)]
      rfl

/-! ## Decoding -/

/-- The header fields of an echo message. -/
def echoHeader (bytes : Bytes) : Checked EchoHeader := do
  return Wire.echoHeader (← byte bytes 4) (← byte bytes 5) (← byte bytes 6) (← byte bytes 7)

/-- The time that a payload starts with. -/
def readStamp (payload : Bytes) : Checked (Option WallTime) := do
  if payload.length < stampSize then
    return none
  let nanos ← fit 64 (bigEndian (← slice payload 0 stampSize))
  return match nanos with
    | 0 => none
    | nanos => Time.ofNanos? nanos

/-- The header fields of an echo request. -/
def requestHeader? (bytes : Bytes) : Checked (Option EchoHeader) := do
  if bytes.length < 8 then
    return none
  if (← byte bytes 0) ≠ echoRequestType then
    return none
  return some (← echoHeader bytes)

/-- The header fields of the echo request in a quoted datagram. -/
def quotedEcho? (quote : Bytes) : Checked (Option EchoHeader) := do
  if quote.length < minHeaderSize then
    return none
  let size ← headerSize (← byte quote 0)
  match from? quote size with
  | none => return none
  | some nested => requestHeader? nested

/-- What a message with a right checksum says. -/
def interpret (bytes : Bytes) : Checked (Except DecodeError Message) := do
  let type ← byte bytes 0
  if type = echoReplyType then
    if bytes.length < 8 then
      return .error (.tooShort bytes.length)
    let header ← echoHeader bytes
    return .ok (.echoReply header (← readStamp (← slice bytes 8 bytes.length)))
  else if type = timeExceededType then
    if bytes.length < 8 then
      return .error (.tooShort bytes.length)
    return .ok (.timeExceeded (← quotedEcho? (← slice bytes 8 bytes.length)))
  else
    return .ok (.other type (← byte bytes 1))

/-- Reads a message. The words but the checksum are summed in 32 bits before the carries are
    added. -/
def decode (bytes : Bytes) : Checked (Except DecodeError Message) := do
  if bytes.length < 4 then
    return .error (.tooShort bytes.length)
  let _ ← fit 32 (total ((words bytes).eraseIdx checksumIndex))
  let computed := checksum bytes
  let received := word (← byte bytes 2) (← byte bytes 3)
  if computed ≠ received then
    return .error (.checksum received computed)
  interpret bytes

/-- A timestamp has eight bytes, and so fits 64 bits. -/
theorem readStamp_eq (payload : Bytes) : readStamp payload = .ok (Wire.readStamp payload) := by
  unfold readStamp Wire.readStamp
  by_cases hshort : payload.length < stampSize
  · simp only [if_pos hshort]
    rfl
  have hsize : stampSize ≤ payload.length := Nat.le_of_not_lt hshort
  have hfit : fit 64 (bigEndian (payload.take stampSize)) =
      .ok (bigEndian (payload.take stampSize)) := by
    refine fit_eq ?_
    have hlt := bigEndian_lt (payload.take stampSize)
    have hpow : Nat.pow 2 64 = 18446744073709551616 := rfl
    rwa [List.length_take_of_le hsize, pow_stampSize, ← hpow] at hlt
  simp only [if_neg hshort, slice_zero hsize, hfit, ok_bind]
  rfl

section Echo

variable (type code high low i₁ i₂ s₁ s₂ : UInt8) (payload : Bytes)

theorem echoHeader_eq :
    echoHeader (type :: code :: high :: low :: i₁ :: i₂ :: s₁ :: s₂ :: payload) =
      .ok (Wire.echoHeader i₁ i₂ s₁ s₂) :=
  rfl

theorem le_length :
    8 ≤ (type :: code :: high :: low :: i₁ :: i₂ :: s₁ :: s₂ :: payload).length := by
  simp

end Echo

/-- The bytes of an echo header are looked at only in a message that is long enough. -/
theorem requestHeader?_eq (bytes : Bytes) :
    requestHeader? bytes = .ok (Wire.requestHeader? bytes) := by
  match bytes with
  | type :: code :: high :: low :: i₁ :: i₂ :: s₁ :: s₂ :: payload =>
    have htype : byte (type :: code :: high :: low :: i₁ :: i₂ :: s₁ :: s₂ :: payload) 0 =
      .ok type := rfl
    have hlong := le_length type code high low i₁ i₂ s₁ s₂ payload
    simp only [requestHeader?, if_neg (Nat.not_lt.2 hlong), htype, echoHeader_eq, ok_bind,
      Wire.requestHeader?]
    by_cases hrequest : type = echoRequestType
    · simp only [if_pos hrequest, if_neg (not_not.2 hrequest)]
      rfl
    · simp only [if_neg hrequest, if_pos hrequest]
      rfl
  | [] | [_] | [_, _] | [_, _, _] | [_, _, _, _] | [_, _, _, _, _] | [_, _, _, _, _, _]
  | [_, _, _, _, _, _, _] => rfl

/-- So are those of a quoted datagram, whatever length it states for its header. -/
theorem quotedEcho?_eq (quote : Bytes) : quotedEcho? quote = .ok (Wire.quotedEcho? quote) := by
  cases quote with
  | nil => rfl
  | cons first rest =>
    unfold quotedEcho? Wire.quotedEcho?
    by_cases hshort : (first :: rest).length < minHeaderSize
    · simp only [if_pos hshort]
      rfl
    have hfirst : byte (first :: rest) 0 = .ok first := rfl
    simp only [if_neg hshort, hfirst, headerSize_eq, ok_bind, from?]
    by_cases hsize : Wire.headerSize first ≤ (first :: rest).length
    · simp only [if_pos hsize, requestHeader?_eq]
    · -- Behind the end of the quote there is no request.
      simp only [if_neg hsize]
      rw [List.drop_eq_nil_of_le (Nat.le_of_not_le hsize)]
      rfl

/-- Every word adds at most 65535. -/
theorem total_le (ws : List UInt16) : total ws ≤ 65535 * ws.length := by
  induction ws with
  | nil => exact Nat.le_refl 0
  | cons w ws ih =>
    have := w.toNat_lt
    rw [total_cons, List.length_cons]
    omega

/-- The words of a message that a socket keeps add up to less than 32 bits hold. -/
theorem fit_total (h : bytes.length ≤ captureSize) :
    fit 32 (total ((words bytes).eraseIdx checksumIndex)) =
      .ok (total ((words bytes).eraseIdx checksumIndex)) := by
  refine fit_eq (Nat.lt_of_le_of_lt (total_le _) ?_)
  have herase := List.length_eraseIdx_le (words bytes) checksumIndex
  rw [length_words] at herase
  have : captureSize = 512 := rfl
  have : Nat.pow 2 32 = 4294967296 := rfl
  omega

/-- With a checksum in front of it, no message is too short for the fields that are looked at. -/
theorem interpret_eq (type code high low : UInt8) (body : Bytes) :
    interpret (type :: code :: high :: low :: body) = .ok (Wire.interpret type code body) := by
  have htype : byte (type :: code :: high :: low :: body) 0 = .ok type := rfl
  have hcode : byte (type :: code :: high :: low :: body) 1 = .ok code := rfl
  simp only [interpret, htype, hcode, ok_bind, Wire.interpret]
  -- Only a body of four bytes or more has an echo header.
  obtain _ | ⟨i₁, _ | ⟨i₂, _ | ⟨s₁, _ | ⟨s₂, payload⟩⟩⟩⟩ := body
  case cons.cons.cons.cons =>
    have hlong := le_length type code high low i₁ i₂ s₁ s₂ payload
    simp only [if_neg (Nat.not_lt.2 hlong), slice_length hlong, echoHeader_eq, readStamp_eq,
      quotedEcho?_eq, ok_bind]
    split
    · rfl
    · split <;> rfl
  all_goals
    split
    · rfl
    · split <;> rfl

/-- A message that a socket keeps is decoded within its bounds. -/
theorem decode_eq (h : bytes.length ≤ captureSize) : decode bytes = .ok (Wire.decode bytes) := by
  match bytes with
  | type :: code :: high :: low :: body =>
    have hlong : ¬ (type :: code :: high :: low :: body).length < 4 := by
      simp
    have hhigh : byte (type :: code :: high :: low :: body) 2 = .ok high := rfl
    have hlow : byte (type :: code :: high :: low :: body) 3 = .ok low := rfl
    simp only [decode, fit_total h, ok_bind, if_neg hlong, hhigh, hlow, interpret_eq, Wire.decode]
    split <;> rfl
  | [] | [_] | [_, _] | [_, _, _] => rfl

/-! ## Classifying -/

/-- What a packet says about the probes in flight. A round trip is no longer than a duration can
    be, as its type tells. -/
def classify (l : Ledger) (p : Packet) : Checked Classified := do
  match ← decode p.bytes with
  | .error e => return ⟨p.failure (.malformed e.message) none, l, []⟩
  | .ok (.echoReply header sendTime) => return l.classifyReply p header sendTime
  | .ok (.timeExceeded quoted) => return l.classifyTimeExceeded p quoted
  | .ok (.other type code) => return ⟨p.failure (.unexpectedType type code) none, l, []⟩

/-- What a datagram that is read into a buffer says about the probes in flight; nothing, if it is
    skipped. -/
def handle (l : Ledger) (d : Incoming) (buffer : Bytes) : Checked (Option Classified) := do
  let (result, buffer) ← readDatagram d.datagram d.source buffer
  match result with
  | .error _ => return none
  | .ok arrival =>
    let bytes ← slice buffer 0 arrival.length
    let c ← classify l ⟨bytes, arrival.source, arrival.ttl, d.receivedAt, d.receivedWall⟩
    return some c

/-- So is one that is classified. -/
theorem classify_eq (l : Ledger) {p : Packet} (h : p.bytes.length ≤ captureSize) :
    classify l p = .ok (l.classify p) := by
  simp only [classify, decode_eq h, ok_bind, Ledger.classify]
  rcases Wire.decode p.bytes with e | (_ | _ | _) <;> rfl

/-- Whatever a datagram holds, handling it is free of faults, and makes one outcome if there is a
    packet in it, and none else. -/
theorem handle_eq (l : Ledger) (d : Incoming) (size : buffer.length = captureSize) :
    handle l d buffer = .ok (d.packet?.map l.classify) := by
  simp only [handle, readDatagram_eq, ok_bind]
  cases hpacket : d.packet? with
  | none =>
    obtain ⟨e, buffer', hread, -⟩ := Incoming.readDatagram_of_eq_none hpacket buffer
    rw [hread]
    rfl
  | some p =>
    have hlength := Incoming.length_bytes_le hpacket
    rw [Incoming.readDatagram_of_packet? hpacket, size, Nat.min_eq_left hlength]
    have hslice : slice (Wire.overwrite buffer p.bytes) 0 p.bytes.length = .ok p.bytes := by
      rw [slice_zero, take_overwrite (size ▸ hlength)]
      rw [length_overwrite, size]
      exact hlength
    simp only [hslice, ok_bind, Incoming.packet_eq hpacket, classify_eq l hlength]
    rfl

end Checked

end EchoProbe
