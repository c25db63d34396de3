import EchoProbe.Proofs.Classification
import EchoProbe.Proofs.Statistics
import EchoProbe.Session
import Mathlib.Data.List.Induction

/-!
# Packets from strangers

A stranger slips packets into a session with one target: arbitrary bytes, at any place, but
from another address. The session with these packets runs in the *shadow* of the session
without them (`Shadow`): its ledger is part of the other's, it has given out the same
numbers, and it has had no reply that the other did not have.

A stranger may take probes out of the ledger, so the shadow can lose replies, and each is
then a loss. It cannot win one: a request that the shadow finds, the other finds too, and a
packet that does not come from the target is a reply to none.

* `Shadow.step`: the same step leaves a shadow a shadow;
* `Shadow.packet`: so does a packet from elsewhere, taken by the shadow alone;
* `spoofing_fabricates_no_reply`: what follows for whole sessions.
-/

namespace EchoProbe.Session

open Ledger

/-- The session after steps. -/
def after (s : Session) (steps : List Step) : Session := steps.foldl (fun s a => (s.step a).1) s

@[simp]
theorem after_nil (s : Session) : s.after [] = s := rfl

@[simp]
theorem after_concat (s : Session) (steps : List Step) (a : Step) :
    s.after (steps ++ [a]) = ((s.after steps).step a).1 := by
  simp [after]

/-- How many probes the statistics and the ledger account for. -/
def probes (s : Session) : Nat := s.statistics.size + s.ledger.size

/-- How many replies there were. -/
def received (s : Session) : Nat := s.statistics.roundTrips.length

/-- An update counts the outcomes that are about probes of the session. -/
theorem probes_update (s : Session) (ledger : Ledger) (outcomes : List Outcome) :
    (s.update ledger outcomes).probes =
      s.statistics.size + outcomes.countP (·.isCounted) + ledger.size := by
  rw [probes, update, Statistics.size_foldl_addOutcome]

/-- An update counts the outcomes that are replies as received. -/
theorem received_update (s : Session) (ledger : Ledger) (outcomes : List Outcome) :
    (s.update ledger outcomes).received = s.received + outcomes.countP (·.isReply) :=
  Statistics.length_roundTrips_foldl_addOutcome _ _

theorem step_packet (s : Session) (p : Packet) : (s.step (.packet p)).1 =
    s.update (s.ledger.classify p).ledger [(s.ledger.classify p).outcome] := rfl

theorem step_timeout (s : Session) (now : Instant) : (s.step (.timeout now)).1 =
    s.update (s.ledger.sweep now s.settings.maxRtt).2
      ((s.ledger.sweep now s.settings.maxRtt).1.map (·.lost .timeout)) := rfl

theorem step_finish (s : Session) : (s.step .finish).1 =
    s.update s.ledger.drain.2 (s.ledger.drain.1.map (·.lost .unanswered)) := rfl

/-- An insertion under a free identifier records the probe and tells nothing. -/
theorem step_insert {s : Session} {i : Identifier} (h : s.ledger.find? i = none) (target : IPv4)
    (sentAt : Instant) : (s.step (.insert i target sentAt)).1 =
      s.update (s.ledger.record i target sentAt).2 [] := by
  have : s.ledger.insertAt i target sentAt = .ok (s.ledger.record i target sentAt) :=
    insertAt_eq_ok_iff.2 ⟨h, rfl⟩
  simp only [step, this]

/-! ## What a step does to the count of probes -/

/-- A probe that is recorded is one more to account for. -/
theorem probes_insert {s : Session} {i : Identifier} (h : s.ledger.find? i = none) (target : IPv4)
    (sentAt : Instant) : (s.step (.insert i target sentAt)).1.probes = s.probes + 1 := by
  rw [step_insert h, probes_update, size_record h, probes]
  simp only [List.countP_nil]
  omega

/-- A packet takes a probe out of the ledger exactly if it counts one. -/
theorem probes_packet (s : Session) (p : Packet) : (s.step (.packet p)).1.probes = s.probes := by
  rw [step_packet, probes_update, List.countP_singleton, isCounted_classify, probes]
  -- A packet that consumes no probe leaves the ledger as it is; one that does takes it out of the
  -- ledger into the statistics.
  cases h : s.ledger.consumed? p with
  | none => simp [(classify_of_not_consumed? h).1]
  | some r =>
    obtain ⟨⟨i, hi, hl⟩, -⟩ := classify_of_consumed? h
    have := (requests_erase hi).length_eq
    simp only [length_requests, List.length_cons] at this
    rw [hl, Option.isSome_some, if_pos rfl]
    omega

/-- A test of the deadlines counts every probe that it takes out of the ledger. -/
theorem probes_timeout (s : Session) (now : Instant) :
    (s.step (.timeout now)).1.probes = s.probes := by
  have := (requests_sweep s.ledger now s.settings.maxRtt).length_eq
  simp only [length_requests, List.length_append] at this
  rw [step_timeout, probes_update, countP_isCounted_lost (by rfl), probes]
  omega

/-- So does the drain, which takes all of them. -/
theorem probes_finish (s : Session) : (s.step .finish).1.probes = s.probes := by
  have := (requests_drain s.ledger).length_eq
  have hnil : s.ledger.drain.2.size = 0 := by
    rw [← length_requests, requests_drain_snd, List.length_nil]
  simp only [length_requests] at this
  rw [step_finish, probes_update, countP_isCounted_lost (by rfl), probes]
  omega

/-! ## The shadow of a session -/

/-- The identifier under which a step records a probe. -/
def Step.recorded? : Step → Option Identifier
  | .insert i _ _ => some i
  | _ => none

/-- Whether a step records a probe to `target`, classifies a packet or tests the
    deadlines. -/
def Step.isOrdinary (target : IPv4) : Step → Bool
  | .insert _ t _ => t = target
  | .packet _ | .timeout _ => true
  | .finish | .send .. => false

/-- `u` is in the shadow of `t`, a session in which probes were recorded to `target` under
    the identifiers `ids`. -/
structure Shadow (target : IPv4) (ids : List Identifier) (t u : Session) : Prop where
  settings : u.settings = t.settings
  ledger : u.ledger ⊆ t.ledger
  next : u.ledger.nextSequenceNumber = t.ledger.nextSequenceNumber
  probes : u.probes = t.probes
  received : u.received ≤ t.received
  target : ∀ i r, t.ledger.find? i = some r → r.target = target
  known : ∀ i r, t.ledger.find? i = some r → i ∈ ids

namespace Shadow

variable {target : IPv4} {ids : List Identifier} {t u : Session}

/-- Only the ledgers and the replies can go wrong when both sessions are updated. -/
theorem update (h : Shadow target ids t u) {lt lu : Ledger} {ot ou : List Outcome}
    (ledger : lu ⊆ lt) (part : lt ⊆ t.ledger) (next : lu.nextSequenceNumber = lt.nextSequenceNumber)
    (probes : (u.update lu ou).probes = (t.update lt ot).probes)
    (received : ou.countP (·.isReply) ≤ ot.countP (·.isReply)) :
    Shadow target ids (t.update lt ot) (u.update lu ou) where
  settings := h.settings
  ledger := ledger
  next := next
  probes := probes
  received := by
    rw [received_update, received_update]
    exact Nat.add_le_add h.received received
  target i r hr := h.target i r (part i r hr)
  known i r hr := h.known i r (part i r hr)

/-- Both sessions record the probe, under an identifier that neither has in flight, with the same
    number. -/
theorem step_insert (h : Shadow target ids t u) {i : Identifier} (hi : i ∉ ids)
    (sentAt : Instant) :
    Shadow target (ids ++ [i]) (t.step (.insert i target sentAt)).1
      (u.step (.insert i target sentAt)).1 := by
  -- The identifier is new to the session, so it is free in both ledgers, and both record.
  have ht : t.ledger.find? i = none :=
    Option.eq_none_iff_forall_ne_some.2 fun r hr => hi (h.known i r hr)
  have hu := find?_eq_none_of_subset h.ledger ht
  have probes : (u.step (.insert i target sentAt)).1.probes =
      (t.step (.insert i target sentAt)).1.probes := by
    rw [probes_insert ht, probes_insert hu, h.probes]
  have found : ∀ j r, (t.ledger.record i target sentAt).2.find? j = some r →
      r.target = target ∧ j ∈ ids ++ [i] := by
    intro j r hr
    rw [find?_record] at hr
    split at hr
    · subst j
      rw [← Option.some.inj hr]
      exact ⟨rfl, List.mem_append_right _ (List.mem_singleton_self i)⟩
    · exact ⟨h.target j r hr, List.mem_append_left _ (h.known j r hr)⟩
  rw [Session.step_insert ht, Session.step_insert hu] at *
  exact {
    settings := h.settings
    ledger := record_subset_record h.ledger h.next i target sentAt
    next := congrArg SequenceNumber.next h.next
    probes := probes
    received := h.received
    target := fun j r hr => (found j r hr).1
    known := fun j r hr => (found j r hr).2 }

/-- A packet that both sessions take: what is a reply to the shadow is one to the other. -/
theorem step_packet (h : Shadow target ids t u) (p : Packet) :
    Shadow target ids (t.step (.packet p)).1 (u.step (.packet p)).1 := by
  have probes : (u.step (.packet p)).1.probes = (t.step (.packet p)).1.probes := by
    rw [probes_packet, probes_packet, h.probes]
  rw [Session.step_packet, Session.step_packet] at *
  -- The ledgers stay in their order, and a reply to the shadow, whose ledger is the smaller one, is
  -- the same reply to the other.
  refine h.update (classify_subset_classify h.ledger p) (classify_subset _ p) ?_ probes ?_
  · simp [h.next]
  · cases hu : (u.ledger.classify p).outcome with
    | reply reply =>
      exact Nat.le_of_eq (by rw [classify_reply_mono h.ledger hu])
    | failure f => exact Nat.zero_le _

/-- The shadow tests the deadlines of fewer probes. What it takes out, the other takes out too. -/
theorem step_timeout (h : Shadow target ids t u) (now : Instant) :
    Shadow target ids (t.step (.timeout now)).1 (u.step (.timeout now)).1 := by
  have probes : (u.step (.timeout now)).1.probes = (t.step (.timeout now)).1.probes := by
    rw [probes_timeout, probes_timeout, h.probes]
  rw [Session.step_timeout, Session.step_timeout, h.settings] at *
  refine h.update (sweep_subset_sweep h.ledger _ _) (sweep_subset _ _ _) ?_ probes ?_
  · simp [h.next]
  · rw [countP_isReply_lost]
    exact Nat.zero_le _

/-- Both ledgers are drained, and nothing is a reply. -/
theorem step_finish (h : Shadow target ids t u) :
    Shadow target ids (t.step .finish).1 (u.step .finish).1 := by
  have probes : (u.step .finish).1.probes = (t.step .finish).1.probes := by
    rw [probes_finish, probes_finish, h.probes]
  rw [Session.step_finish, Session.step_finish] at *
  refine h.update (fun i r hr => ?_) (drain_subset _) ?_ probes ?_
  · simp at hr
  · simp [h.next]
  · rw [countP_isReply_lost]
    exact Nat.zero_le _

/-- A packet that only the shadow takes is a reply to no probe, if it comes from
    elsewhere. -/
theorem not_reply (h : Shadow target ids t u) {p : Packet} (hp : p.source ≠ target)
    (reply : Reply) : (u.ledger.classify p).outcome ≠ .reply reply := by
  intro hr
  obtain ⟨header, _, r, -, hf, hsource, -⟩ := classify_eq_reply_iff.1 hr
  rw [h.target _ r (h.ledger _ r hf)] at hsource
  exact hp hsource

/-- A packet from elsewhere may take a probe out of the shadow, but is no reply. -/
theorem packet (h : Shadow target ids t u) {p : Packet} (hp : p.source ≠ target) :
    Shadow target ids t (u.step (.packet p)).1 where
  settings := h.settings
  ledger := Subset.trans (classify_subset _ p) h.ledger
  next := (nextSequenceNumber_classify _ p).trans h.next
  probes := (probes_packet u p).trans h.probes
  received := by
    have : (u.step (.packet p)).1.received = u.received := by
      rw [Session.step_packet, received_update]
      cases hu : (u.ledger.classify p).outcome with
      | reply reply => exact absurd hu (h.not_reply hp reply)
      | failure f => rfl
    rw [this]
    exact h.received
  target := h.target
  known := h.known

/-- The same step leaves a shadow a shadow, if it does not record under an identifier that
    was recorded before. -/
theorem step (h : Shadow target ids t u) {a : Step} (ha : a.isOrdinary target ∨ a = .finish)
    (hnew : ∀ i, a.recorded? = some i → i ∉ ids) :
    Shadow target (ids ++ a.recorded?.toList) (t.step a).1 (u.step a).1 := by
  cases a with
  | insert i host sentAt =>
    obtain rfl : host = target := by simpa [Step.isOrdinary] using ha
    exact h.step_insert (hnew i rfl) sentAt
  | packet p => simpa [Step.recorded?] using h.step_packet p
  | timeout now => simpa [Step.recorded?] using h.step_timeout now
  | finish => simpa [Step.recorded?] using h.step_finish
  | send host sendTime sentAt draws results => simp [Step.isOrdinary] at ha

end Shadow

/-! ## Whole sessions -/

/-- The steps of a session with a target: probes are recorded to it under pairwise different
    identifiers, packets are classified and deadlines tested in any order, and in the end
    the ledger is drained. -/
structure HasTarget (target : IPv4) (steps : List Step) : Prop where
  drained : ∃ body, steps = body ++ [.finish] ∧ ∀ a ∈ body, a.isOrdinary target
  nodup : (steps.filterMap Step.recorded?).Nodup

/-- The steps of a session, and between them the packets that a stranger slips in. -/
abbrev Trace := List (Step ⊕ Packet)

/-- The steps without the packets that were slipped in. -/
def Trace.original (trace : Trace) : List Step := trace.filterMap Sum.getLeft?

/-- The steps with the packets that were slipped in. -/
def Trace.extended (trace : Trace) : List Step := trace.map (Sum.elim id .packet)

/-- A session that has not done anything yet. -/
def fresh (settings : Settings) (filler : Wire.Filler) (startTime : Instant) : Session :=
  { settings, filler, statistics := .startingAt startTime }

/-- A session that has not done anything is its own shadow. -/
theorem shadow_fresh (target : IPv4) (settings : Settings) (filler : Wire.Filler)
    (startTime : Instant) : Shadow target [] (fresh settings filler startTime)
      (fresh settings filler startTime) where
  settings := rfl
  ledger := Subset.refl _
  next := rfl
  probes := rfl
  received := Nat.le_refl _
  target i r hr := by simp [fresh] at hr
  known i r hr := by simp [fresh] at hr

/-- The session with the packets that were slipped in stays in the shadow of the session without
    them. -/
theorem shadow_after {target : IPv4} {s : Session} (h : Shadow target [] s s) {trace : Trace}
    (hordinary : ∀ a, .inl a ∈ trace → a.isOrdinary target ∨ a = .finish)
    (hnodup : (trace.original.filterMap Step.recorded?).Nodup)
    (hforeign : ∀ p : Packet, .inr p ∈ trace → p.source ≠ target) :
    Shadow target (trace.original.filterMap Step.recorded?) (s.after trace.original)
      (s.after trace.extended) := by
  -- By induction on the trace from its end, as a session is what its last step makes of the session
  -- before.
  induction trace using List.reverseRecOn with
  | nil => exact h
  | append_singleton trace x ih =>
    have hordinary' := fun a ha => hordinary a (List.mem_append_left _ ha)
    have hforeign' := fun p hp => hforeign p (List.mem_append_left _ hp)
    have hlast : x ∈ trace ++ [x] := List.mem_append_right _ (List.mem_singleton_self x)
    cases x with
    | inl a =>
      -- Both sessions take the step.
      have horiginal : Trace.original (trace ++ [.inl a]) = Trace.original trace ++ [a] := by
        simp [Trace.original]
      have hextended : Trace.extended (trace ++ [.inl a]) = Trace.extended trace ++ [a] := by
        simp [Trace.extended]
      rw [horiginal, List.filterMap_append] at hnodup
      rw [horiginal, hextended, after_concat, after_concat, List.filterMap_append]
      have hids : [a].filterMap Step.recorded? = a.recorded?.toList := by
        cases h : a.recorded? <;> simp [h]
      rw [hids] at hnodup ⊢
      obtain ⟨hnodup, -, hdisjoint⟩ := List.nodup_append.1 hnodup
      refine (ih hordinary' hnodup hforeign').step (hordinary a hlast) fun i hi hmem => ?_
      exact hdisjoint i hmem i (by simp [hi]) rfl
    | inr p =>
      -- Only the session in the shadow takes the packet.
      have horiginal : Trace.original (trace ++ [.inr p]) = Trace.original trace := by
        simp [Trace.original]
      have hextended :
          Trace.extended (trace ++ [.inr p]) = Trace.extended trace ++ [.packet p] := by
        simp [Trace.extended]
      rw [horiginal] at hnodup ⊢
      rw [hextended, after_concat]
      exact (ih hordinary' hnodup hforeign').packet (hforeign p hlast)

/-- The steps without the packets are those of the trace that are no packets of the stranger. -/
theorem mem_original {trace : Trace} {a : Step} : a ∈ trace.original ↔ .inl a ∈ trace := by
  simp [Trace.original, List.mem_filterMap, Sum.getLeft?_eq_some_iff]

/-- Every point of a session with a target is in the shadow of the same point without the
    packets of a stranger. -/
theorem shadow_before {target : IPv4} {trace before after : Trace}
    (honest : HasTarget target trace.original)
    (foreign : ∀ p : Packet, .inr p ∈ trace → p.source ≠ target) (settings : Settings)
    (filler : Wire.Filler) (startTime : Instant) (htrace : trace = before ++ after) :
    Shadow target (before.original.filterMap Step.recorded?)
      ((fresh settings filler startTime).after before.original)
      ((fresh settings filler startTime).after before.extended) := by
  subst htrace
  obtain ⟨body, hbody, hordinary⟩ := honest.drained
  have hnodup := honest.nodup
  rw [Trace.original, List.filterMap_append, List.filterMap_append] at hnodup
  refine shadow_after (shadow_fresh _ _ _ _) (fun a ha => ?_) (List.nodup_append.1 hnodup).1
    fun p hp => foreign p (List.mem_append_left _ hp)
  have : a ∈ body ++ [.finish] := hbody ▸ mem_original.2 (List.mem_append_left _ ha)
  rcases List.mem_append.1 this with ha | ha
  · exact .inl (hordinary a ha)
  · exact .inr (List.mem_singleton.1 ha)

/-- A lost probe is reported as a failure. -/
theorem lost_ne_reply {requests : List Request} {kind : FailureKind} {reply : Reply} :
    .reply reply ∉ requests.map (·.lost kind) := by
  simp [Request.lost]

/-- Only packets are replies. -/
theorem reply_mem_outcomes {s : Session} {a : Step} {reply : Reply} :
    .reply reply ∈ (s.step a).2.outcomes ↔
      ∃ p, a = .packet p ∧ (s.ledger.classify p).outcome = .reply reply := by
  cases a with
  | insert i host sentAt =>
    simp only [step]
    split <;> simp
  | packet p => simp [step, eq_comm]
  | timeout now => simp [step, lost_ne_reply]
  | finish => simp [step, lost_ne_reply]
  | send host sendTime sentAt draws results =>
    simp only [step]
    split <;> simp

/-- A session that ends with the drain leaves nothing in the ledger. -/
theorem requests_after_finish (s : Session) (body : List Step) :
    (s.after (body ++ [.finish])).ledger.requests = [] := by
  rw [after_concat, step_finish]
  exact requests_drain_snd _

/-- A stranger who slips packets into a session with a target fabricates no reply: whatever
    is a reply then was the same reply to the same packet without them, and the packets
    themselves are none. At every point the ledger is part of what it would be. In the end
    as many probes are counted, and no more of them as received. -/
theorem spoofing_fabricates_no_reply {target : IPv4} {trace : Trace}
    (honest : HasTarget target trace.original)
    (foreign : ∀ p : Packet, .inr p ∈ trace → p.source ≠ target) (settings : Settings)
    (filler : Wire.Filler) (startTime : Instant) :
    let s := fresh settings filler startTime
    (∀ before after : Trace, trace = before ++ after →
      (s.after before.extended).ledger ⊆ (s.after before.original).ledger) ∧
    (∀ (before : Trace) a after, trace = before ++ .inl a :: after →
      ∀ reply, .reply reply ∈ ((s.after before.extended).step a).2.outcomes →
        .reply reply ∈ ((s.after before.original).step a).2.outcomes) ∧
    (∀ (before : Trace) p after, trace = before ++ .inr p :: after →
      ∀ reply, .reply reply ∉ ((s.after before.extended).step (.packet p)).2.outcomes) ∧
    (s.after trace.extended).statistics.size = (s.after trace.original).statistics.size ∧
    (s.after trace.extended).received ≤ (s.after trace.original).received := by
  intro s
  -- Everything is read off the shadow: before each step, and after the last.
  have shadow : ∀ before after : Trace, trace = before ++ after → Shadow target
      (before.original.filterMap Step.recorded?) (s.after before.original)
      (s.after before.extended) :=
    fun before after h => shadow_before honest foreign settings filler startTime h
  have last := shadow trace [] (List.append_nil _).symm
  refine ⟨fun before after h => (shadow before after h).ledger, ?_, ?_, ?_, last.received⟩
  · intro before a after h reply hreply
    obtain ⟨p, ha, hp⟩ := reply_mem_outcomes.1 hreply
    exact reply_mem_outcomes.2 ⟨p, ha, classify_reply_mono (shadow before _ h).ledger hp⟩
  · intro before p after h reply hreply
    obtain ⟨q, hq, hr⟩ := reply_mem_outcomes.1 hreply
    obtain rfl := Step.packet.inj hq
    have hp : p.source ≠ target :=
      foreign p (h ▸ List.mem_append_right _ List.mem_cons_self)
    exact (shadow before _ h).not_reply hp reply hr
  · -- Both ledgers are empty in the end, so the statistics alone account for the probes.
    obtain ⟨body, hbody, -⟩ := honest.drained
    have ht : (s.after trace.original).ledger.requests = [] := by
      rw [hbody]
      exact requests_after_finish s body
    have hu := requests_eq_nil_of_subset last.ledger ht
    have := last.probes
    simp only [probes, ← length_requests, ht, hu, List.length_nil] at this
    exact this

/-- A probe that is answered by a stranger and then by its target. -/
def stolenProbe : Trace :=
  let target : IPv4 := ⟨10, 0, 0, 1⟩
  let stranger : IPv4 := ⟨10, 0, 0, 66⟩
  let probe := Wire.probe ⟨⟨7⟩, .first⟩ ⟨1500, by decide, by decide⟩ (Vector.replicate 48 0)
  let echo (source : IPv4) : Packet :=
    ⟨Wire.echoOf probe, source, ⟨64⟩, .zero, ⟨4500, by decide, by decide⟩⟩
  [.inl (.insert ⟨7⟩ target .zero), .inr (echo stranger), .inl (.packet (echo target)),
    .inl .finish]

/-- The stranger takes the probe, and the reply of its target comes too late. -/
theorem spoofing_fabricates_no_reply_stolenProbe :
    let s := fresh default (Vector.replicate 48 0) .zero
    (HasTarget ⟨10, 0, 0, 1⟩ stolenProbe.original ∧
      ∀ p : Packet, .inr p ∈ stolenProbe → p.source ≠ (⟨10, 0, 0, 1⟩ : IPv4)) ∧
    (s.after stolenProbe.extended).statistics.size =
      (s.after stolenProbe.original).statistics.size ∧
    (s.after stolenProbe.extended).received ≤ (s.after stolenProbe.original).received ∧
    (s.after stolenProbe.extended).received = 0 ∧ (s.after stolenProbe.original).received = 1 := by
  have honest : HasTarget ⟨10, 0, 0, 1⟩ stolenProbe.original :=
    ⟨⟨stolenProbe.original.dropLast, rfl, by decide +kernel⟩, by decide +kernel⟩
  have foreign : ∀ p : Packet, .inr p ∈ stolenProbe → p.source ≠ (⟨10, 0, 0, 1⟩ : IPv4) := by
    simp [stolenProbe]
  have h := spoofing_fabricates_no_reply honest foreign default (Vector.replicate 48 0) .zero
  exact ⟨⟨honest, foreign⟩, h.2.2.2.1, h.2.2.2.2, by decide +kernel, by decide +kernel⟩

end EchoProbe.Session
