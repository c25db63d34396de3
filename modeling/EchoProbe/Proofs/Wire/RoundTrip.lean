import EchoProbe.Wire.Probe
import Mathlib.Tactic.ByContra

/-!
# Round trips on the wire

A probe goes out, comes back under another type, and is read again. What is read is what
was written, for all header fields, times and fillers.

* `onesSum_words_sealed`: a sealed message sums to all ones, so it passes its own test;
* `decode_sealed`: of a sealed message, the bytes behind the checksum are what is read;
* `readStamp_writeStamp`: a time is read back as `stamped` tells: not at all up to the
  epoch, and cut off at the last nanosecond that fits;
* `writeStamp_of_readStamp`: a time that was read is written as the bytes it was read from;
* `probe_roundTrip`: all of this for the 64 bytes of a probe.
-/

namespace EchoProbe.Wire

open Message

/-! ## Sealed messages -/

/-- The checksum of a message does not depend on the checksum that it carries. -/
theorem checksum_cons (type code high low : UInt8) (body : Bytes) :
    checksum (type :: code :: high :: low :: body) =
      ~~~ onesSum (word type code :: words body) := rfl

theorem checksum_congr (type code high low high' low' : UInt8) (body : Bytes) :
    checksum (type :: code :: high :: low :: body) =
      checksum (type :: code :: high' :: low' :: body) := by
  rw [checksum_cons, checksum_cons]

theorem toNat_not (w : UInt16) : (~~~ w).toNat = 65535 - w.toNat := by
  simp [UInt16.toNat_not]

/-- A word that completes the sum of the others to all ones makes the whole sum all
    ones, wherever it stands. -/
theorem onesSum_cons_complement (w : UInt16) (ws : List UInt16) :
    onesSum (w :: (~~~ onesSum (w :: ws)) :: ws) = 0xFFFF := by
  apply UInt16.toNat_inj.1
  -- Both sums are read as numbers modulo `65535`, where the complement is the opposite.
  have hall := toNat_onesSum (w :: ws)
  rw [toNat_onesSum]
  rw [total_cons] at hall
  rw [total_cons, total_cons, toNat_not]
  generalize total ws = rest at *
  have hw := w.toNat_lt
  have hlt := (onesSum (w :: ws)).toNat_lt
  generalize (onesSum (w :: ws)).toNat = sum at *
  show _ = 65535
  split at hall <;> split <;> omega

/-- The words of a sealed message sum to all ones. -/
theorem onesSum_words_sealed {message : Bytes} (h : 4 ≤ message.length) :
    onesSum (words (sealed message)) = 0xFFFF := by
  match message, h with
  | type :: code :: high :: low :: body, _ =>
    rw [sealed, words, words, word_highByte_lowByte, checksum_cons]
    exact onesSum_cons_complement _ _

/-- A sealed message passes the test of its checksum. -/
theorem decode_sealed (type code high low : UInt8) (body : Bytes) :
    decode (sealed (type :: code :: high :: low :: body)) = interpret type code body := by
  simp only [sealed, decode, word_highByte_lowByte]
  rw [checksum_congr type code _ _ high low, if_neg (by simp)]

/-! ## Stamps -/

/-- The last time that a stamp can tell. -/
def lastStamp : WallTime := ⟨18446744073709551615, by decide, by decide⟩

theorem nanos_lastStamp : lastStamp.nanos = 18446744073709551615 := rfl

theorem le_zero_iff {t : WallTime} : t ≤ .zero ↔ t.nanos ≤ 0 := Iff.rfl

theorem le_lastStamp_iff {t : WallTime} : t ≤ lastStamp ↔ t.nanos ≤ 18446744073709551615 := by
  rw [Time.le_def, nanos_lastStamp]

/-- The time that is read back from the stamp of `t`: none up to the epoch, then `t`
    itself, and the last one that fits from there on. -/
def stamped (t : WallTime) : Option WallTime :=
  if t ≤ .zero then none else if t ≤ lastStamp then some t else some lastStamp

/-- How many numbers a stamp can tell. -/
theorem pow_stampSize : Nat.pow 256 stampSize = 18446744073709551616 := rfl

theorem length_writeStamp (t : WallTime) : (writeStamp t).length = stampSize :=
  length_toBigEndian _ _

/-- Only the first bytes of a payload are the stamp, and a stamp of zero stands for no time. -/
theorem readStamp_append {stamp : Bytes} (h : stamp.length = stampSize) (rest : Bytes) :
    readStamp (stamp ++ rest) =
      if bigEndian stamp = 0 then none else Time.ofNanos? (bigEndian stamp) := by
  rw [readStamp, if_neg (by rw [List.length_append]; omega), ← h, List.take_left]
  cases bigEndian stamp with
  | zero => rfl
  | succ n => simp

/-- A stamp gives back the time that was written to it, as far as it can tell it. -/
theorem readStamp_writeStamp (t : WallTime) (rest : Bytes) :
    readStamp (writeStamp t ++ rest) = stamped t := by
  have hstamp : bigEndian (writeStamp t) = min t.nanos.toNat 18446744073709551615 :=
    bigEndian_toBigEndian _ (by rw [pow_stampSize]; omega)
  rw [readStamp_append (length_writeStamp t), hstamp, stamped]
  split
  · -- The stamp is zero, which stands for no time.
    rw [if_pos (le_zero_iff.2 (by omega))]
  · rw [if_neg (fun h => by have := le_zero_iff.1 h; omega)]
    split
    · have := le_lastStamp_iff.1 ‹_›
      rw [Time.ofNanos?_eq_some_iff]
      omega
    · have : ¬ t.nanos ≤ 18446744073709551615 := fun h => ‹¬ t ≤ lastStamp› (le_lastStamp_iff.2 h)
      rw [Time.ofNanos?_eq_some_iff, nanos_lastStamp]
      omega

/-- A time that was read is written as the bytes it was read from. -/
theorem writeStamp_of_readStamp {payload : Bytes} {t : WallTime}
    (h : readStamp payload = some t) : writeStamp t = payload.take stampSize := by
  have hlength : (payload.take stampSize).length = stampSize := by
    -- Too short a payload holds no stamp.
    by_contra hne
    have : payload.length < stampSize := by rw [List.length_take] at hne; omega
    simp [readStamp, this] at h
  rw [← List.take_append_drop stampSize payload, readStamp_append hlength] at h
  generalize payload.take stampSize = stamp at *
  split at h
  · simp at h
  · have hlt := bigEndian_lt stamp
    rw [hlength] at hlt
    have : min t.nanos.toNat 18446744073709551615 = bigEndian stamp := by
      rw [Time.ofNanos?_eq_some_iff.1 h]
      rw [pow_stampSize] at hlt
      omega
    rw [writeStamp, this, ← hlength, toBigEndian_bigEndian]

/-! ## Probes -/

/-- The probe byte by byte. -/
theorem probe_eq (header : EchoHeader) (t : WallTime) (filler : Filler) :
    probe header t filler = sealed (echoRequestType :: 0 :: 0 :: 0 ::
      highByte header.identifier.number :: lowByte header.identifier.number ::
      highByte header.sequenceNumber.number :: lowByte header.sequenceNumber.number ::
      (writeStamp t ++ filler.toList)) := rfl

theorem toBigEndian_two (w : UInt16) : toBigEndian 2 w.toNat = [highByte w, lowByte w] := rfl

@[simp]
theorem echoHeader_bytes (header : EchoHeader) :
    echoHeader (highByte header.identifier.number) (lowByte header.identifier.number)
      (highByte header.sequenceNumber.number) (lowByte header.sequenceNumber.number) = header := by
  simp [echoHeader]

/-- Of an echo, the header fields and the stamp of the probe are read. -/
theorem decode_echoOf_probe (header : EchoHeader) (t : WallTime) (filler : Filler) :
    decode (echoOf (probe header t filler)) = .ok (.echoReply header (stamped t)) := by
  rw [probe_eq, sealed, echoOf, retyped, decode_sealed]
  simp only [interpret, if_true, echoHeader_bytes, readStamp_writeStamp]

/-- The prober itself reads its requests as messages of no interest. -/
theorem decode_probe (header : EchoHeader) (t : WallTime) (filler : Filler) :
    decode (probe header t filler) = .ok (.other echoRequestType 0) := by
  rw [probe_eq, decode_sealed]
  rfl

theorem onesSum_words_probe (header : EchoHeader) (t : WallTime) (filler : Filler) :
    onesSum (words (probe header t filler)) = 0xFFFF := by
  rw [probe_eq]
  exact onesSum_words_sealed (by simp only [List.length_cons]; omega)

/-- To echo a probe, nothing is changed but its type and then its checksum. -/
theorem echoOf_probe (header : EchoHeader) (t : WallTime) (filler : Filler) :
    echoOf (probe header t filler) = sealed ((probe header t filler).set 0 echoReplyType) := by
  rw [probe_eq, sealed]
  rfl

/-- Two bytes make a word, and so does a last single one. -/
theorem length_words (message : Bytes) : (words message).length = (message.length + 1) / 2 := by
  fun_induction words message with
  | case1 => rfl
  | case2 b => simp
  | case3 high low rest ih =>
    simp only [List.length_cons, ih]
    omega

/-- A probe is laid out as told, its words sum to all ones, and it is a request. Echoed, it
    gives back the header fields and the time that it was sent, as far as a stamp can tell
    it; and every stamp that is read as a time is the stamp of that time. -/
theorem probe_roundTrip (header : EchoHeader) (t : WallTime) (filler : Filler) :
    let request := probe header t filler
    (request.length = 64 ∧ request[0]? = some 8 ∧ request[1]? = some 0 ∧
      (request.drop 4).take 2 = toBigEndian 2 header.identifier.number.toNat ∧
      (request.drop 6).take 2 = toBigEndian 2 header.sequenceNumber.number.toNat ∧
      request.drop 8 = writeStamp t ++ filler.toList) ∧
    ((words request).length = 32 ∧ onesSum (words request) = 0xFFFF) ∧
    decode request = .ok (.other 8 0) ∧
    decode (sealed (request.set 0 0)) = .ok (.echoReply header (stamped t)) ∧
    ∀ payload u, readStamp payload = some u → writeStamp u = payload.take 8 := by
  intro request
  have hlength : request.length = 64 := length_probe header t filler
  refine ⟨⟨hlength, ?_⟩, ⟨?_, ?_⟩, decode_probe header t filler, ?_,
    fun _ _ => writeStamp_of_readStamp⟩
  · simp only [request, probe_eq, sealed, toBigEndian_two]
    exact ⟨rfl, rfl, rfl, rfl, rfl⟩
  · rw [length_words, hlength]
  · exact onesSum_words_probe header t filler
  · exact (congrArg decode (echoOf_probe header t filler)).symm.trans
      (decode_echoOf_probe header t filler)

/-- A probe of 2022 with its first sequence number beyond a byte, and the stamp of the first
    nanosecond. -/
theorem probe_roundTrip_beef :
    decode (sealed ((probe ⟨⟨0xBEEF⟩, ⟨256⟩⟩ ⟨1650000000123456789, by decide, by decide⟩
      (Vector.replicate 48 0xA5)).set 0 0)) =
        .ok (.echoReply ⟨⟨0xBEEF⟩, ⟨256⟩⟩ (some ⟨1650000000123456789, by decide, by decide⟩)) ∧
    readStamp [0, 0, 0, 0, 0, 0, 0, 1, 0xFF] = some ⟨1, by decide, by decide⟩ ∧
    writeStamp ⟨1, by decide, by decide⟩ = [0, 0, 0, 0, 0, 0, 0, 1] := by
  have h := probe_roundTrip ⟨⟨0xBEEF⟩, ⟨256⟩⟩ ⟨1650000000123456789, by decide, by decide⟩
    (Vector.replicate 48 0xA5)
  have hread : readStamp [0, 0, 0, 0, 0, 0, 0, 1, 0xFF] = some ⟨1, by decide, by decide⟩ := by
    decide
  exact ⟨h.2.2.2.1, hread, h.2.2.2.2 _ _ hread⟩

end EchoProbe.Wire
