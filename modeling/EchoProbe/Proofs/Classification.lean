import EchoProbe.Classification
import EchoProbe.Proofs.Ledger.Requests

/-!
# What classification does

A packet names at most one probe: the one that it answers or that it says ran out of hops
(`Packet.identifier?`). If that probe is in flight, the packet *consumes* it
(`Ledger.consumed?`): this one request leaves the ledger, and the outcome is counted and
tells its number (`classify_of_consumed?`). Otherwise the ledger stays as it is, and the
outcome is not counted (`classify_of_not_consumed?`).

Which packets are replies, and what such a reply tells, is `classify_eq_reply_iff`. Of two
ledgers, a reply that a packet is to the part is one to the whole (`classify_reply_mono`).
-/

namespace EchoProbe

open Wire

/-- The identifier of the probe that a packet answers, or that it says ran out of hops. -/
def Packet.identifier? (p : Packet) : Option Identifier :=
  match decode p.bytes with
  | .ok (.echoReply header _) => some header.identifier
  | .ok (.timeExceeded quoted) => quoted.map (·.identifier)
  | _ => none

/-- The reply that an echo from the probed host is to a request in flight. -/
def Packet.replyTo (p : Packet) (r : Request) (header : EchoHeader)
    (sendTime : Option WallTime) : Reply :=
  ⟨p.bytes.length, p.source, p.ttl, r.sequenceNumber,
    if header.sequenceNumber = r.sequenceNumber then p.roundTrip r sendTime else .zero⟩

namespace Ledger

variable {l : Ledger} {p : Packet} {r : Request}

/-- The request in flight that a packet consumes. -/
def consumed? (l : Ledger) (p : Packet) : Option Request := p.identifier?.bind l.find?

/-- A packet consumes the request in flight under the identifier that it names. -/
theorem consumed?_eq_some_iff :
    l.consumed? p = some r ↔ ∃ i, p.identifier? = some i ∧ l.find? i = some r :=
  Option.bind_eq_some_iff

/-- What the outcome of a packet has to do with the request that the packet consumes: the
    request leaves the ledger exactly if the outcome is counted, and then its number is
    told. -/
structure Settles (l : Ledger) (consumed : Option Request) (i : Identifier) (c : Classified) :
    Prop where
  ledger : c.ledger = l.erase i
  isCounted : c.outcome.isCounted = consumed.isSome
  tells : ∀ r, consumed = some r → c.outcome.sequenceNumber? = some r.sequenceNumber

/-- An echo settles the probe that it names, whoever sent it and whatever its number. -/
theorem settles_classifyReply (l : Ledger) (p : Packet) (header : EchoHeader)
    (sendTime : Option WallTime) :
    Settles l (l.find? header.identifier) header.identifier
      (l.classifyReply p header sendTime) := by
  rw [classifyReply]
  cases hf : l.find? header.identifier with
  | none =>
    rw [take?_eq_none_iff.2 hf]
    exact ⟨(erase_of_find?_eq_none hf).symm, rfl, by simp⟩
  | some r =>
    rw [take?_eq_some_iff.2 ⟨hf, rfl⟩]
    dsimp only
    split
    · exact ⟨rfl, rfl, by simp [Packet.failure, Outcome.sequenceNumber?]⟩
    · split <;> exact ⟨rfl, rfl, by simp [Packet.answer, Outcome.sequenceNumber?]⟩

/-- So does a notification that quotes the probe. -/
theorem settles_classifyTimeExceeded (l : Ledger) (p : Packet) (header : EchoHeader) :
    Settles l (l.find? header.identifier) header.identifier
      (l.classifyTimeExceeded p (some header)) := by
  rw [classifyTimeExceeded]
  cases hf : l.find? header.identifier with
  | none =>
    simp only [take?_eq_none_iff.2 hf]
    exact ⟨(erase_of_find?_eq_none hf).symm, rfl, by simp⟩
  | some r =>
    simp only [take?_eq_some_iff.2 ⟨hf, rfl⟩]
    exact ⟨rfl, rfl, by simp [Packet.failure, Outcome.sequenceNumber?]⟩

/-- So does every packet that names a probe. -/
theorem settles_classify {i : Identifier} (h : p.identifier? = some i) :
    Settles l (l.find? i) i (l.classify p) := by
  rw [Packet.identifier?] at h
  rw [classify]
  split at h
  · -- An echo reply.
    obtain rfl := Option.some.inj h
    simp only [*]
    exact settles_classifyReply l p _ _
  · -- A time-exceeded notification that quotes a probe.
    obtain ⟨header, rfl, rfl⟩ := Option.map_eq_some_iff.1 h
    simp only [*]
    exact settles_classifyTimeExceeded l p header
  · simp at h

/-- A packet that names no probe changes nothing and is not counted. -/
theorem classify_of_identifier?_eq_none (h : p.identifier? = none) :
    (l.classify p).ledger = l ∧ (l.classify p).outcome.isCounted = false := by
  rw [Packet.identifier?] at h
  rw [classify]
  split at h
  · simp at h
  · obtain rfl := Option.map_eq_none_iff.1 h
    simp only [*]
    exact ⟨rfl, rfl⟩
  · -- A malformed packet or one of another type.
    split <;> simp_all [Packet.failure, Outcome.isCounted, Outcome.isReply, Outcome.isLoss,
      FailureKind.isLoss]

/-- A probe that a packet consumes leaves the ledger, and the outcome is counted and tells
    its number. -/
theorem classify_of_consumed? (h : l.consumed? p = some r) :
    (∃ i, l.find? i = some r ∧ (l.classify p).ledger = l.erase i) ∧
      (l.classify p).outcome.isCounted = true ∧
      (l.classify p).outcome.sequenceNumber? = some r.sequenceNumber := by
  obtain ⟨i, hi, hr⟩ := consumed?_eq_some_iff.1 h
  have hs := settles_classify (l := l) hi
  exact ⟨⟨i, hr, hs.ledger⟩, by rw [hs.isCounted, hr]; rfl, hs.tells r hr⟩

/-- A packet that consumes no probe changes nothing and is not counted. -/
theorem classify_of_not_consumed? (h : l.consumed? p = none) :
    (l.classify p).ledger = l ∧ (l.classify p).outcome.isCounted = false := by
  cases hi : p.identifier? with
  | none => exact classify_of_identifier?_eq_none hi
  | some i =>
    have hs := settles_classify (l := l) hi
    rw [consumed?, hi, Option.bind_some] at h
    rw [h] at hs
    exact ⟨hs.ledger.trans (erase_of_find?_eq_none h), hs.isCounted⟩

/-- An outcome is counted exactly if the packet consumes a probe. -/
theorem isCounted_classify : (l.classify p).outcome.isCounted = (l.consumed? p).isSome := by
  cases h : l.consumed? p with
  | none => exact (classify_of_not_consumed? h).2
  | some r => exact (classify_of_consumed? h).2.1

/-! ## The ledger -/

/-- A packet erases the probe that it names, and does nothing else to the ledger. -/
theorem classify_ledger (l : Ledger) (p : Packet) :
    (l.classify p).ledger = p.identifier?.elim l l.erase := by
  cases hi : p.identifier? with
  | none => exact (classify_of_identifier?_eq_none hi).1
  | some i => exact (settles_classify hi).ledger

/-- No packet adds a probe. -/
theorem classify_subset (l : Ledger) (p : Packet) : (l.classify p).ledger ⊆ l := by
  rw [classify_ledger]
  cases p.identifier? with
  | none => exact Subset.refl l
  | some i => exact erase_subset l i

/-- A packet leaves of a part of a ledger a part of what it leaves of the whole. -/
theorem classify_subset_classify {k : Ledger} (h : l ⊆ k) (p : Packet) :
    (l.classify p).ledger ⊆ (k.classify p).ledger := by
  rw [classify_ledger, classify_ledger]
  cases p.identifier? with
  | none => exact h
  | some i => exact erase_subset_erase h i

/-- A packet puts nothing in flight. -/
theorem size_classify_le (l : Ledger) (p : Packet) : (l.classify p).ledger.size ≤ l.size := by
  rw [classify_ledger]
  cases p.identifier? with
  | none => exact Nat.le_refl _
  | some i => exact size_erase_le l i

@[simp]
theorem nextSequenceNumber_classify (l : Ledger) (p : Packet) :
    (l.classify p).ledger.nextSequenceNumber = l.nextSequenceNumber := by
  rw [classify_ledger]
  cases p.identifier? <;> rfl

/-! ## Replies -/

/-- An echo is a reply exactly if it comes from the host to which the probe in flight went. -/
theorem classifyReply_eq_reply_iff {header : EchoHeader} {sendTime : Option WallTime}
    {reply : Reply} :
    (l.classifyReply p header sendTime).outcome = .reply reply ↔
      ∃ r, l.find? header.identifier = some r ∧ p.source = r.target ∧
        reply = p.replyTo r header sendTime := by
  rw [classifyReply]
  cases hf : l.find? header.identifier with
  | none =>
    rw [take?_eq_none_iff.2 hf]
    simp [Packet.failure]
  | some r =>
    rw [take?_eq_some_iff.2 ⟨hf, rfl⟩]
    simp only [Option.some.injEq, exists_eq_left', Packet.replyTo]
    by_cases hsource : p.source = r.target
    · rw [if_neg (not_not_intro hsource), and_iff_right hsource]
      split <;> simp [Packet.answer, eq_comm]
    · simp [Packet.failure, hsource]

/-- A packet is a reply exactly if it is an echo from the host to which a probe in flight
    went. -/
theorem classify_eq_reply_iff {reply : Reply} :
    (l.classify p).outcome = .reply reply ↔
      ∃ header sendTime r, decode p.bytes = .ok (.echoReply header sendTime) ∧
        l.find? header.identifier = some r ∧ p.source = r.target ∧
        reply = p.replyTo r header sendTime := by
  rw [classify]
  -- Nothing but an echo is a reply, so the other messages are refuted one by one.
  cases hd : decode p.bytes with
  | error e => simp [Packet.failure]
  | ok message =>
    cases message with
    | echoReply header sendTime =>
      simp only [classifyReply_eq_reply_iff, Except.ok.injEq, Message.echoReply.injEq]
      constructor
      · rintro ⟨r, hr⟩
        exact ⟨header, sendTime, r, ⟨rfl, rfl⟩, hr⟩
      · rintro ⟨_, _, r, ⟨rfl, rfl⟩, hr⟩
        exact ⟨r, hr⟩
    | timeExceeded quoted =>
      cases quoted with
      | none => simp [classifyTimeExceeded, Packet.failure]
      | some header =>
        cases hf : l.find? header.identifier with
        | none => simp [classifyTimeExceeded, take?_eq_none_iff.2 hf, Packet.failure]
        | some r => simp [classifyTimeExceeded, take?_eq_some_iff.2 ⟨hf, rfl⟩, Packet.failure]
    | other type code => simp [Packet.failure]

/-- A packet that is a reply to a part of a ledger is the same reply to the whole. -/
theorem classify_reply_mono {k : Ledger} (h : l ⊆ k) {reply : Reply}
    (hl : (l.classify p).outcome = .reply reply) : (k.classify p).outcome = .reply reply := by
  rw [classify_eq_reply_iff] at hl ⊢
  obtain ⟨header, sendTime, r, hd, hr, ho⟩ := hl
  exact ⟨header, sendTime, r, hd, h _ _ hr, ho⟩

end Ledger

/-! ## Requests without an answer -/

/-- A loss is counted. -/
theorem isCounted_lost {kind : FailureKind} (h : kind.isLoss = true) (r : Request) :
    (r.lost kind).isCounted = true := by
  simp [Request.lost, Outcome.isCounted, Outcome.isLoss, h]

/-- If the failure is a loss, all of its outcomes are counted. -/
theorem filter_isCounted_lost {kind : FailureKind} (h : kind.isLoss = true)
    (requests : List Request) :
    (requests.map (·.lost kind)).filter (·.isCounted) = requests.map (·.lost kind) := by
  rw [List.filter_eq_self]
  intro o ho
  obtain ⟨r, -, rfl⟩ := List.mem_map.1 ho
  exact isCounted_lost h r

/-- Each request that is given up counts as one probe sent. -/
theorem countP_isCounted_lost {kind : FailureKind} (h : kind.isLoss = true)
    (requests : List Request) :
    (requests.map (·.lost kind)).countP (·.isCounted) = requests.length := by
  rw [List.countP_eq_length_filter, filter_isCounted_lost h, List.length_map]

/-- Requests without an answer are no replies. -/
theorem countP_isReply_lost (kind : FailureKind) (requests : List Request) :
    (requests.map (·.lost kind)).countP (·.isReply) = 0 := by
  rw [List.countP_map, List.countP_eq_zero]
  simp [Request.lost, Outcome.isReply]

end EchoProbe
