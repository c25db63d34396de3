import EchoProbe.Proofs.Classification.Effect
import EchoProbe.Proofs.Statistics.Order

/-!
# Packets in another order

What a packet says depends only on what is in flight under the identifier that it names
(`classify_congr`), and all that it changes is to take this out. So packets that name different
probes do not notice each other: each says what it would have said alone
(`outcomes_classifyEach`). What they leave does not depend on their order in any case
(`ledger_classifyEach_of_perm`).

Packets that name the same probe do notice: the first takes it, and no later one is counted
(`isCounted_classify_after_classify`).
-/

namespace EchoProbe

/-- No two of the packets name the same probe. Those that name none may be repeated. -/
def Packet.Apart (packets : List Packet) : Prop :=
  packets.Pairwise fun p q => ∀ i, p.Names i → ¬ q.Names i

/-- Of the identifiers that the packets name, none comes twice. -/
theorem Packet.apart_iff {packets : List Packet} :
    Apart packets ↔ (packets.filterMap identifier?).Nodup := by
  rw [Apart, List.Nodup, List.pairwise_filterMap]
  refine List.Pairwise.iff fun {p q} => ?_
  simp only [Packet.names_iff]
  constructor
  · rintro h i hp j hq rfl
    exact h i hp hq
  · exact fun h i hp hq => h i hp i hq rfl

instance (packets : List Packet) : Decidable (Packet.Apart packets) :=
  decidable_of_iff _ Packet.apart_iff.symm

/-- It does not matter in which order the packets are. -/
theorem Packet.Apart.of_perm {packets order : List Packet} (h : Apart packets)
    (hperm : order.Perm packets) : Apart order :=
  List.Pairwise.perm h hperm.symm fun hpq i hq hp => hpq i hp hq

namespace Ledger

variable {l k : Ledger} {p q : Packet}

/-! ## One packet -/

/-- Ledgers that find the same under an identifier say the same of an echo reply with it. -/
theorem classifyReply_congr {header : EchoHeader}
    (h : l.find? header.identifier = k.find? header.identifier) (p : Packet)
    (sendTime : Option WallTime) :
    (l.classifyReply p header sendTime).outcome = (k.classifyReply p header sendTime).outcome ∧
      (l.classifyReply p header sendTime).log = (k.classifyReply p header sendTime).log := by
  rw [classifyReply, classifyReply]
  cases hk : k.find? header.identifier with
  | none =>
    rw [take?_eq_none_iff.2 hk, take?_eq_none_iff.2 (h.trans hk)]
    exact ⟨rfl, rfl⟩
  | some r =>
    rw [take?_eq_some_iff.2 ⟨hk, rfl⟩, take?_eq_some_iff.2 ⟨h.trans hk, rfl⟩]
    dsimp only
    split
    · exact ⟨rfl, rfl⟩
    · split <;> exact ⟨rfl, rfl⟩

/-- They also say the same of a notification that quotes an echo request with it. -/
theorem classifyTimeExceeded_congr {header : EchoHeader}
    (h : l.find? header.identifier = k.find? header.identifier) (p : Packet) :
    (l.classifyTimeExceeded p (some header)).outcome =
        (k.classifyTimeExceeded p (some header)).outcome ∧
      (l.classifyTimeExceeded p (some header)).log =
        (k.classifyTimeExceeded p (some header)).log := by
  rw [classifyTimeExceeded, classifyTimeExceeded]
  cases hk : k.find? header.identifier with
  | none => simp only [take?_eq_none_iff.2 hk, take?_eq_none_iff.2 (h.trans hk), and_self]
  | some r =>
    simp only [take?_eq_some_iff.2 ⟨hk, rfl⟩, take?_eq_some_iff.2 ⟨h.trans hk, rfl⟩, and_self]

/-- Ledgers that find the same under what a packet names say the same of the packet. -/
theorem classify_congr (h : ∀ i, p.Names i → l.find? i = k.find? i) :
    (l.classify p).outcome = (k.classify p).outcome ∧
      (l.classify p).log = (k.classify p).log := by
  rw [classify, classify]
  cases hdecode : Wire.decode p.bytes with
  | error e => exact ⟨rfl, rfl⟩
  | ok message =>
    cases message with
    | echoReply header sendTime =>
      exact classifyReply_congr (h _ (.inl ⟨header, sendTime, hdecode, rfl⟩)) p sendTime
    | timeExceeded quoted =>
      cases quoted with
      | none => exact ⟨rfl, rfl⟩
      | some header => exact classifyTimeExceeded_congr (h _ (.inr ⟨header, hdecode, rfl⟩)) p
    | other type code => exact ⟨rfl, rfl⟩

/-! ## Two packets -/

theorem erase_comm (l : Ledger) (i j : Identifier) : (l.erase i).erase j = (l.erase j).erase i := by
  ext m : 1
  · simp only [find?_erase]
    split <;> split <;> rfl
  · rfl

/-- A packet that names no probe of another packet says the same before and after it. -/
theorem classify_after_classify (happart : ∀ i, p.Names i → ¬ q.Names i) :
    ((l.classify p).ledger.classify q).outcome = (l.classify q).outcome := by
  refine (classify_congr fun i hq => ?_).1
  exact find?_classify_of_not_names fun hp => happart i hp hq

/-- Of two packets that name the same probe, the second is not counted. -/
theorem isCounted_classify_after_classify {i : Identifier} (hp : p.Names i) (hq : q.Names i) :
    ((l.classify p).ledger.classify q).outcome.isCounted = false := by
  rw [isCounted_classify, consumed?, Packet.names_iff.1 hq, Option.bind_some,
    find?_classify_of_names hp]
  rfl

/-! ## Many packets -/

/-- Classifies the packets one after another: their outcomes, and the ledger that is left. -/
def classifyEach (l : Ledger) : List Packet → List Outcome × Ledger
  | [] => ([], l)
  | p :: packets =>
    let c := l.classify p
    let (outcomes, l) := c.ledger.classifyEach packets
    (c.outcome :: outcomes, l)

theorem classifyEach_cons (l : Ledger) (p : Packet) (packets : List Packet) :
    l.classifyEach (p :: packets) =
      ((l.classify p).outcome :: ((l.classify p).ledger.classifyEach packets).1,
        ((l.classify p).ledger.classifyEach packets).2) := rfl

/-- The probes that the packets name are gone, and all else is left. -/
theorem ledger_classifyEach (l : Ledger) (packets : List Packet) :
    (l.classifyEach packets).2 = (packets.filterMap Packet.identifier?).foldl erase l := by
  induction packets generalizing l with
  | nil => rfl
  | cons p packets ih =>
    rw [classifyEach_cons, ih, classify_ledger, List.filterMap_cons]
    cases p.identifier? <;> rfl

@[simp]
theorem nextSequenceNumber_classifyEach (l : Ledger) (packets : List Packet) :
    (l.classifyEach packets).2.nextSequenceNumber = l.nextSequenceNumber := by
  induction packets generalizing l with
  | nil => rfl
  | cons p packets ih => rw [classifyEach_cons, ih, nextSequenceNumber_classify]

/-- In any order, the packets take out the same requests. -/
theorem ledger_classifyEach_of_perm {packets order : List Packet} (h : order.Perm packets)
    (l : Ledger) : (l.classifyEach order).2 = (l.classifyEach packets).2 := by
  rw [ledger_classifyEach, ledger_classifyEach]
  exact (h.filterMap _).foldl_eq' (fun i _ j _ k => erase_comm k i j) l

/-- If no two packets name the same probe, each says what it would have said alone. -/
theorem outcomes_classifyEach {packets : List Packet} (h : Packet.Apart packets) (l : Ledger) :
    (l.classifyEach packets).1 = packets.map fun p => (l.classify p).outcome := by
  induction packets generalizing l with
  | nil => rfl
  | cons p packets ih =>
    obtain ⟨hp, hpackets⟩ := List.pairwise_cons.1 h
    -- The first packet changes the ledger, but nothing that the later ones look at.
    have hlater : ((l.classify p).ledger.classifyEach packets).1 =
        packets.map fun q => (l.classify q).outcome := by
      rw [ih hpackets]
      exact List.map_congr_left fun q hq => classify_after_classify (hp q hq)
    rw [classifyEach_cons, List.map_cons, hlater]

/-- If no two packets name the same probe, then in any order each packet has the outcome that it
    would have had alone. The same is left in flight, the counter stays, and statistics that are
    told the outcomes come to the same figures, whatever they have heard before and whomever they
    pass them on to. -/
theorem outcomes_independent_of_order {packets order : List Packet}
    (happart : Packet.Apart packets) (hperm : order.Perm packets) (l : Ledger) :
    (l.classifyEach packets).1 = packets.map (fun p => (l.classify p).outcome) ∧
    (l.classifyEach order).1 = order.map (fun p => (l.classify p).outcome) ∧
    (l.classifyEach order).2 = (l.classifyEach packets).2 ∧
    (l.classifyEach order).2.nextSequenceNumber = l.nextSequenceNumber ∧
    ∀ (σ : Type) (next : Reporter σ) (heard : Statistics × σ),
      let s := ((Reporter.counting next).tellEach heard (l.classifyEach packets).1).1
      let t := ((Reporter.counting next).tellEach heard (l.classifyEach order).1).1
      s.SameFigures t ∧
      ∀ now later a b, s.summarize now = some a → t.summarize later = some b →
        a.sent = b.sent ∧ a.received = b.received ∧ a.minRtt = b.minRtt ∧ a.avgRtt = b.avgRtt ∧
          a.maxRtt = b.maxRtt := by
  have houtcomes := outcomes_classifyEach happart l
  have hordered := outcomes_classifyEach (happart.of_perm hperm) l
  have hsame : (l.classifyEach packets).1.Perm (l.classifyEach order).1 := by
    rw [houtcomes, hordered]
    exact hperm.symm.map _
  refine ⟨houtcomes, hordered, ledger_classifyEach_of_perm hperm l,
    nextSequenceNumber_classifyEach l order, ?_⟩
  intro σ next heard
  have hcounts := Reporter.counts_counting next
  have hfigures : Statistics.SameFigures
      ((Reporter.counting next).tellEach heard (l.classifyEach packets).1).1
      ((Reporter.counting next).tellEach heard (l.classifyEach order).1).1 := by
    rw [hcounts.tellEach, hcounts.tellEach]
    exact (Statistics.rearranged_foldl_addOutcome hsame heard.1).sameFigures
  exact ⟨hfigures, fun _ _ _ _ ha hb => hfigures.summarize ha hb⟩

/-- A packet that arrives from the probed host, so many nanoseconds after the zero of the clock. -/
def arriving (bytes : Bytes) (n : Nat) : Packet :=
  ⟨bytes, .v4 ⟨10, 0, 0, 1⟩, ⟨64⟩, Time.zero.add (.ofNanos n), .zero⟩

/-- An echo reply that carries no time. -/
def bareEcho (header : EchoHeader) : Bytes :=
  Wire.sealed ([0, 0, 0, 0] ++ Wire.toBigEndian 2 header.identifier.number.toNat ++
    Wire.toBigEndian 2 header.sequenceNumber.number.toNat)

/-- Two probes to one host, the second sent when the first was under way for 300 nanoseconds. -/
def twoUnderWay : Ledger :=
  ((empty.record ⟨21⟩ ⟨10, 0, 0, 1⟩ .zero).2.record ⟨22⟩ ⟨10, 0, 0, 1⟩
    (Time.zero.add (.ofNanos 300))).2

/-- The second probe is answered first, and the answers come between pieces of no message. -/
def crossedEchoes : List Packet :=
  [arriving [] 350, arriving (bareEcho ⟨⟨22⟩, ⟨1⟩⟩) 400, arriving [] 350,
    arriving (bareEcho ⟨⟨21⟩, ⟨0⟩⟩) 700]

/-- From last to first, the packets are read as from first to last: there are two replies, and the
    average of their round trips of 100 and 700 nanoseconds is the same. -/
theorem outcomes_independent_of_order_crossedEchoes :
    Packet.Apart crossedEchoes ∧ crossedEchoes.reverse.Perm crossedEchoes ∧
    (twoUnderWay.classifyEach crossedEchoes).1 ≠ (twoUnderWay.classifyEach crossedEchoes.reverse).1 ∧
    (twoUnderWay.classifyEach crossedEchoes.reverse).2 =
      (twoUnderWay.classifyEach crossedEchoes).2 ∧
    (let s := ((Reporter.counting Reporter.silent).tellEach (Statistics.startingAt .zero, ())
        (twoUnderWay.classifyEach crossedEchoes).1).1
      let t := ((Reporter.counting Reporter.silent).tellEach (Statistics.startingAt .zero, ())
        (twoUnderWay.classifyEach crossedEchoes.reverse).1).1
      s.SameFigures t ∧ t.roundTrips = [.ofNanos 700, .ofNanos 100] ∧
        Statistics.average s.size s.roundTrips = .ofNanos 400) := by
  have happart : Packet.Apart crossedEchoes := by decide +kernel
  have hperm : crossedEchoes.reverse.Perm crossedEchoes := List.reverse_perm _
  obtain ⟨hall, hreversed, hledger, -, hfigures⟩ :=
    outcomes_independent_of_order happart hperm twoUnderWay
  obtain ⟨hsame, -⟩ := hfigures Unit Reporter.silent (Statistics.startingAt .zero, ())
  exact ⟨happart, hperm, by decide +kernel, hledger, hsame, by decide +kernel, by decide +kernel⟩

end Ledger

end EchoProbe
