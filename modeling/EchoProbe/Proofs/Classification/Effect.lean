import EchoProbe.Proofs.Classification
import EchoProbe.Proofs.Wire.Decoding

/-!
# What a packet changes

A packet may come from anyone and hold anything. Whatever it holds, it touches at most the one
probe that it names: an echo reply names the probe of its identifier, and so does a
notification that quotes an echo request (`Packet.Names`).

* If the named probe is in flight, it leaves the ledger, and the outcome is counted: as a
  reply, if the packet is an echo from the probed host, and otherwise as a loss.
* In all other cases the ledger stays as it is, and the outcome is neither a reply nor a loss.

`packet_touches_one_probe` says this of every ledger and every packet.
-/

namespace EchoProbe

open Wire

/-- The packet is an echo reply with this identifier, or a notification that quotes an echo
    request with it. -/
def Packet.Names (p : Packet) (i : Identifier) : Prop :=
  (∃ header sendTime, decode p.bytes = .ok (.echoReply header sendTime) ∧ header.identifier = i) ∨
    ∃ header, decode p.bytes = .ok (.timeExceeded (some header)) ∧ header.identifier = i

/-- A packet names at most one probe, as it is read as one message. -/
theorem Packet.names_iff {p : Packet} {i : Identifier} : p.Names i ↔ p.identifier? = some i := by
  constructor
  · rintro (⟨header, sendTime, hdecode, rfl⟩ | ⟨header, hdecode, rfl⟩)
    · rw [identifier?, hdecode]
    · rw [identifier?, hdecode]
      rfl
  · intro h
    unfold identifier? at h
    split at h
    · exact .inl ⟨_, _, ‹_›, Option.some.inj h⟩
    · obtain ⟨header, rfl, hheader⟩ := Option.map_eq_some_iff.1 h
      exact .inr ⟨header, ‹_›, hheader⟩
    · cases h

namespace Ledger

variable {l : Ledger} {p : Packet}

/-- The packet consumes nothing exactly if no probe that it names is in flight. -/
theorem consumed?_eq_none_iff :
    l.consumed? p = none ↔ ∀ i, p.Names i → l.find? i = none := by
  rw [consumed?, Option.bind_eq_none_iff]
  exact forall_congr' fun i => imp_congr_left Packet.names_iff.symm

/-- A probe that is named and in flight is the one that the packet consumes. -/
theorem consumed?_of_names {i : Identifier} {r : Request} (names : p.Names i)
    (h : l.find? i = some r) : l.consumed? p = some r :=
  consumed?_eq_some_iff.2 ⟨i, Packet.names_iff.1 names, h⟩

/-- A probe that is named and in flight leaves the ledger, and no other one. -/
theorem classify_ledger_of_names {i : Identifier} (names : p.Names i) :
    (l.classify p).ledger = l.erase i := by
  rw [classify_ledger, Packet.names_iff.1 names]
  rfl

/-- Whether it was in flight or not, a probe that is named is not in flight any more. -/
theorem find?_classify_of_names {i : Identifier} (names : p.Names i) :
    (l.classify p).ledger.find? i = none := by
  rw [classify_ledger_of_names names, find?_erase_self]

/-- A probe that is not named stays where it is. -/
theorem find?_classify_of_not_names {i : Identifier} (other : ¬ p.Names i) :
    (l.classify p).ledger.find? i = l.find? i := by
  rw [classify_ledger]
  cases hnamed : p.identifier? with
  | none => rfl
  | some j =>
    have hne : j ≠ i := by
      rintro rfl
      exact other (Packet.names_iff.2 hnamed)
    rw [Option.elim_some, find?_erase, if_neg hne]

theorem erase_ne_self {i : Identifier} {r : Request} (h : l.find? i = some r) : l.erase i ≠ l := by
  intro heq
  have herased := find?_erase_self l i
  rw [heq, h] at herased
  cases herased

/-- The ledger changes exactly if a probe that the packet names is in flight. -/
theorem classify_ledger_ne_iff :
    (l.classify p).ledger ≠ l ↔ ∃ i r, p.Names i ∧ l.find? i = some r := by
  constructor
  · intro hne
    by_contra hnone
    have hunknown : ∀ i, p.Names i → l.find? i = none := by
      intro i names
      refine Option.eq_none_iff_forall_ne_some.2 fun r hr => ?_
      exact hnone ⟨i, r, names, hr⟩
    exact hne (classify_of_not_consumed? (consumed?_eq_none_iff.2 hunknown)).1
  · rintro ⟨i, r, names, hr⟩
    rw [classify_ledger_of_names names]
    exact erase_ne_self hr

/-- A packet is a reply exactly if it is an echo from the host to which the named probe went. -/
theorem exists_classify_eq_reply_iff :
    (∃ reply, (l.classify p).outcome = .reply reply) ↔
      ∃ header sendTime r, decode p.bytes = .ok (.echoReply header sendTime) ∧
        l.find? header.identifier = some r ∧ p.source = r.target := by
  constructor
  · rintro ⟨reply, h⟩
    obtain ⟨header, sendTime, r, hdecode, hr, hsource, -⟩ := classify_eq_reply_iff.1 h
    exact ⟨header, sendTime, r, hdecode, hr, hsource⟩
  · rintro ⟨header, sendTime, r, hdecode, hr, hsource⟩
    exact ⟨_, classify_eq_reply_iff.2 ⟨header, sendTime, r, hdecode, hr, hsource, rfl⟩⟩

/-- Whatever a packet holds: it is a reply exactly if it is a sealed echo reply of eight bytes
    or more, from the host to which a probe in flight with its identifier went, and the reply
    tells the number of this probe and what is known of the packet. The ledger changes exactly
    if the packet names a probe in flight. Then this one probe leaves the ledger, the counter
    and the other probes stay, and the outcome is a reply or a loss. Otherwise nothing changes,
    and the outcome is neither. -/
theorem packet_touches_one_probe (l : Ledger) (p : Packet) :
    ((∃ reply, (l.classify p).outcome = .reply reply) ↔
      ∃ header sendTime r, decode p.bytes = .ok (.echoReply header sendTime) ∧
        l.find? header.identifier = some r ∧ p.source = r.target) ∧
    ((∃ header sendTime, decode p.bytes = .ok (.echoReply header sendTime)) ↔
      8 ≤ p.bytes.length ∧ p.bytes.head? = some 0 ∧ sealed p.bytes = p.bytes) ∧
    (∀ reply, (l.classify p).outcome = .reply reply →
      ∃ header sendTime r, decode p.bytes = .ok (.echoReply header sendTime) ∧
        l.find? header.identifier = some r ∧ reply.sequenceNumber = r.sequenceNumber ∧
        reply.size = p.bytes.length ∧ reply.source = p.source ∧ reply.ttl = p.ttl) ∧
    ((l.classify p).ledger ≠ l ↔ ∃ i r, p.Names i ∧ l.find? i = some r) ∧
    (∀ i r, p.Names i → l.find? i = some r →
      (l.classify p).ledger.find? i = none ∧
      (∀ j, j ≠ i → (l.classify p).ledger.find? j = l.find? j) ∧
      (l.classify p).ledger.nextSequenceNumber = l.nextSequenceNumber ∧
      ((l.classify p).outcome.isReply = true ∨ (l.classify p).outcome.isLoss = true)) ∧
    ((∀ i, p.Names i → l.find? i = none) →
      (l.classify p).ledger = l ∧ (l.classify p).outcome.isReply = false ∧
      (l.classify p).outcome.isLoss = false) := by
  refine ⟨exists_classify_eq_reply_iff, exists_decode_eq_echoReply_iff, ?_,
    classify_ledger_ne_iff, ?_, ?_⟩
  · intro reply hreply
    obtain ⟨header, sendTime, r, hdecode, hr, -, rfl⟩ := classify_eq_reply_iff.1 hreply
    exact ⟨header, sendTime, r, hdecode, hr, rfl, rfl, rfl, rfl⟩
  · intro i r names hr
    have hcounted := (classify_of_consumed? (consumed?_of_names names hr)).2.1
    refine ⟨find?_classify_of_names names, ?_, nextSequenceNumber_classify l p,
      Bool.or_eq_true_iff.1 hcounted⟩
    intro j hj
    rw [classify_ledger_of_names names, find?_erase, if_neg (Ne.symm hj)]
  · intro hunknown
    obtain ⟨hledger, huncounted⟩ :=
      classify_of_not_consumed? (consumed?_eq_none_iff.2 hunknown)
    exact ⟨hledger, Bool.or_eq_false_iff.1 huncounted⟩

/-- Two probes to two hosts. -/
def twoProbes : Ledger :=
  ((empty.record ⟨7⟩ ⟨10, 0, 0, 1⟩ .zero).2.record ⟨9⟩ ⟨10, 0, 0, 2⟩ .zero).2

/-- The echo of the second of two probes, from the host of the second or of the first. -/
def secondEcho (source : IPv4) : Packet :=
  ⟨Wire.echoOf (Wire.probe ⟨⟨9⟩, ⟨1⟩⟩ ⟨1700, by decide, by decide⟩ (Vector.replicate 48 0)), source,
    ⟨64⟩, .zero, ⟨4700, by decide, by decide⟩⟩

/-- From its host, the echo is a reply to the second probe; from the other host, it is a loss of
    the second probe and does not touch the first one. -/
theorem packet_touches_one_probe_secondEcho :
    (secondEcho ⟨10, 0, 0, 2⟩).Names ⟨9⟩ ∧
    (twoProbes.find? ⟨9⟩).isSome = true ∧
    (∃ reply, (twoProbes.classify (secondEcho ⟨10, 0, 0, 2⟩)).outcome = .reply reply) ∧
    (twoProbes.classify (secondEcho ⟨10, 0, 0, 1⟩)).outcome.isLoss = true ∧
    (twoProbes.classify (secondEcho ⟨10, 0, 0, 1⟩)).ledger.find? ⟨9⟩ = none ∧
    (twoProbes.classify (secondEcho ⟨10, 0, 0, 1⟩)).ledger.find? ⟨7⟩ = twoProbes.find? ⟨7⟩ := by
  have hdecode (source : IPv4) : decode (secondEcho source).bytes =
      .ok (.echoReply ⟨⟨9⟩, ⟨1⟩⟩ (stamped ⟨1700, by decide, by decide⟩)) :=
    decode_echoOf_probe _ _ _
  have hnames (source : IPv4) : (secondEcho source).Names ⟨9⟩ := .inl ⟨_, _, hdecode source, rfl⟩
  have hfound : twoProbes.find? ⟨9⟩ = some ⟨⟨9⟩, ⟨1⟩, .zero, ⟨10, 0, 0, 2⟩⟩ := by decide +kernel
  obtain ⟨hreply, -⟩ := packet_touches_one_probe twoProbes (secondEcho ⟨10, 0, 0, 2⟩)
  obtain ⟨hnoReply, -, -, -, hnamed, -⟩ :=
    packet_touches_one_probe twoProbes (secondEcho ⟨10, 0, 0, 1⟩)
  obtain ⟨hgone, hkept, -, hcounted⟩ := hnamed ⟨9⟩ _ (hnames _) hfound
  refine ⟨hnames _, by rw [hfound]; rfl, hreply.2 ⟨_, _, _, hdecode _, hfound, rfl⟩, ?_, hgone,
    hkept ⟨7⟩ (by decide)⟩
  refine hcounted.resolve_left fun hisReply => ?_
  cases houtcome : (twoProbes.classify (secondEcho ⟨10, 0, 0, 1⟩)).outcome with
  | failure f =>
    rw [houtcome] at hisReply
    cases hisReply
  | reply reply =>
    -- A reply would have to come from the host of the second probe.
    obtain ⟨header, sendTime, r, hheader, hr, hsource⟩ := hnoReply.1 ⟨reply, houtcome⟩
    rw [hdecode] at hheader
    cases hheader
    rw [hfound] at hr
    cases hr
    exact absurd hsource (by decide)

end Ledger

end EchoProbe
