import EchoProbe.Proofs.Classification.Effect

/-!
# Quotes of own probes

A router that drops a probe because it ran out of hops sends a notification that quotes it: the
IPv4 header of the probe, with or without options, and as much of the probe as the router cares
to quote, but eight bytes at least. Anything may follow.

* `HeaderIPv4`: what may stand in front of a quoted probe;
* `quotedEcho?_of_probe`: whatever the router chooses, the header fields of the probe are read;
* `quoted_probe_recovered`: so a probe in flight is reported as lost on its way, with its number
  and the address of the router, and no other probe is touched.
-/

namespace EchoProbe

open Wire Message

namespace Wire

/-- An IPv4 header: the low half of its first byte tells its length, in words of four bytes, and
    there are at least five of them. Its other bytes may be anything. -/
structure HeaderIPv4 where
  words : Nat
  bytes : Bytes
  least : 5 ≤ words
  length : bytes.length = 4 * words
  states : bytes.head?.map (·.toNat % 16) = some words

/-- A time-exceeded notification with this quote and a checksum of its own. -/
def timeExceededWith (code : UInt8) (unused : Vector UInt8 4) (quote : Bytes) : Bytes :=
  sealed (timeExceededType :: code :: 0 :: 0 :: (unused.toList ++ quote))

variable {front : HeaderIPv4} {header : EchoHeader} {t : WallTime} {filler : Filler} {n : Nat}

/-- Only the low half of the first byte counts, and the version in the high half does not. -/
theorem headerSize_eq (first : UInt8) : headerSize first = 4 * (first.toNat % 16) := by
  rw [headerSize, UInt8.toNat_and, Nat.mul_comm]
  exact congrArg (4 * ·) (Nat.and_two_pow_sub_one_eq_mod first.toNat 4)

/-- The first byte of a header states its length, whatever comes behind it. -/
theorem HeaderIPv4.statedSize_append (front : HeaderIPv4) (rest : Bytes) :
    statedSize (front.bytes ++ rest) = front.bytes.length := by
  have hstates := front.states
  rw [front.length]
  match front.bytes, hstates with
  | first :: _, hstates =>
    rw [← Option.some.inj hstates]
    exact headerSize_eq first

theorem HeaderIPv4.minHeaderSize_le (front : HeaderIPv4) :
    minHeaderSize ≤ front.bytes.length := by
  have hleast := front.least
  rw [front.length]
  show 20 ≤ _
  omega

/-- The header fields of a probe lie in its first eight bytes. -/
theorem requestHeader?_take_probe (enough : 8 ≤ n) (rest : Bytes) :
    requestHeader? ((probe header t filler).take n ++ rest) = some header := by
  obtain ⟨k, rfl⟩ : ∃ k, n = k + 8 := ⟨n - 8, by omega⟩
  rw [probe_eq, sealed]
  simp only [List.take_succ_cons, List.cons_append, requestHeader?, if_true, echoHeader_bytes]

/-- Whatever the header is, and wherever the quote is cut, the header fields of the probe are read.
    -/
theorem quotedEcho?_of_probe (front : HeaderIPv4) (enough : 8 ≤ n) (rest : Bytes) :
    quotedEcho? (front.bytes ++ ((probe header t filler).take n ++ rest)) = some header := by
  have hmin := front.minHeaderSize_le
  rw [quotedEcho?_eq, front.statedSize_append, List.drop_left, if_neg,
    requestHeader?_take_probe enough]
  rw [List.length_append]
  omega

/-- Sealed by the router, a notification is read as one, whatever its code and its unused bytes are.
    -/
theorem decode_timeExceededWith (code : UInt8) (unused : Vector UInt8 4) (quote : Bytes) :
    decode (timeExceededWith code unused quote) = .ok (.timeExceeded (quotedEcho? quote)) := by
  have hunused : unused.toList.length = 4 := by simp
  rw [timeExceededWith, decode_sealed]
  match unused.toList, hunused with
  | [_, _, _, _], _ => rfl

end Wire

namespace Ledger

/-- A probe of which at least eight bytes are quoted behind any IPv4 header is recovered,
    whatever else the notification holds. The message is a sealed notification and is read as one
    that quotes the header fields of the probe. If the probe is in flight, its classification is
    a loss of this probe, which tells its number and who sent the notification, and the probe
    alone leaves the ledger. -/
theorem quoted_probe_recovered (header : EchoHeader) (t : WallTime) (filler : Filler) (n : Nat)
    (enough : 8 ≤ n) (front : HeaderIPv4) (code : UInt8) (unused : Vector UInt8 4)
    (rest : Bytes) :
    let message := timeExceededWith code unused
      (front.bytes ++ ((probe header t filler).take n ++ rest))
    (message.head? = some 11 ∧ onesSum (words message) = 0xFFFF) ∧
    decode message = .ok (.timeExceeded (some header)) ∧
    ∀ (l : Ledger) (p : Packet) (r : Request), p.bytes = message →
      l.find? header.identifier = some r →
      (l.classify p).outcome = .failure ⟨.timeExceeded, some p.source, some r.sequenceNumber⟩ ∧
      (l.classify p).outcome.isLoss = true ∧
      (l.classify p).ledger.find? header.identifier = none ∧
      (∀ j, j ≠ header.identifier → (l.classify p).ledger.find? j = l.find? j) ∧
      (l.classify p).ledger.nextSequenceNumber = l.nextSequenceNumber := by
  intro message
  have hdecode : decode message = .ok (.timeExceeded (some header)) := by
    rw [decode_timeExceededWith, quotedEcho?_of_probe front enough]
  refine ⟨⟨rfl, ?_⟩, hdecode, ?_⟩
  · apply onesSum_words_sealed
    simp only [List.length_cons]
    omega
  · intro l p r hbytes hr
    rw [← hbytes] at hdecode
    have names : p.Names header.identifier := .inr ⟨header, hdecode, rfl⟩
    have houtcome : (l.classify p).outcome =
        .failure ⟨.timeExceeded, some p.source, some r.sequenceNumber⟩ := by
      simp only [classify, hdecode, classifyTimeExceeded, take?_eq_some_iff.2 ⟨hr, rfl⟩]
      rfl
    refine ⟨houtcome, by rw [houtcome]; rfl, find?_classify_of_names names, ?_,
      nextSequenceNumber_classify l p⟩
    intro j hj
    rw [classify_ledger_of_names names, find?_erase, if_neg (Ne.symm hj)]

/-- The longest header, full of options. -/
def longestHeader : HeaderIPv4 where
  words := 15
  bytes := 0x4F :: List.replicate 59 0x94
  least := by decide
  length := by decide
  states := by decide

/-- The notification of a router that quotes eight bytes of a probe behind the longest header, and
    appends a byte. -/
def shortestQuote : Packet where
  bytes := timeExceededWith 1 #v[0, 17, 0, 0] (longestHeader.bytes ++
    ((probe ⟨⟨0x04D2⟩, ⟨0⟩⟩ ⟨6100, by decide, by decide⟩ (Vector.replicate 48 0x5A)).take 8 ++
      [0xFF]))
  source := .v4 ⟨192, 0, 2, 1⟩
  ttl := ⟨250⟩
  receivedAt := .zero
  receivedWall := .zero

/-- Of two probes, the quoted one is lost at the router, and the other one stays in flight. -/
theorem quoted_probe_recovered_shortest :
    let l := ((empty.record ⟨0x04D2⟩ ⟨203, 0, 113, 9⟩ .zero).2.record ⟨5⟩ ⟨203, 0, 113, 9⟩ .zero).2
    (l.find? ⟨0x04D2⟩).isSome = true ∧ shortestQuote.bytes.length = 77 ∧
      (l.classify shortestQuote).outcome =
        .failure ⟨.timeExceeded, some (.v4 ⟨192, 0, 2, 1⟩), some ⟨0⟩⟩ ∧
      (l.classify shortestQuote).ledger.find? ⟨0x04D2⟩ = none ∧
      (l.classify shortestQuote).ledger.find? ⟨5⟩ = l.find? ⟨5⟩ := by
  intro l
  have hfound : l.find? ⟨0x04D2⟩ = some ⟨⟨0x04D2⟩, ⟨0⟩, .zero, ⟨203, 0, 113, 9⟩⟩ := by
    decide +kernel
  obtain ⟨-, -, hclassified⟩ := quoted_probe_recovered ⟨⟨0x04D2⟩, ⟨0⟩⟩
    ⟨6100, by decide, by decide⟩ (Vector.replicate 48 0x5A) 8 (by decide) longestHeader 1
    #v[0, 17, 0, 0] [0xFF]
  obtain ⟨houtcome, -, hgone, hkept, -⟩ := hclassified l shortestQuote _ rfl hfound
  exact ⟨by rw [hfound]; rfl, by decide +kernel, houtcome, hgone, hkept ⟨5⟩ (by decide)⟩

end Ledger

end EchoProbe
