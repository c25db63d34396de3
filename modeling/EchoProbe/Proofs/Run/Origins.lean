import EchoProbe.Proofs.Run.Balance
import EchoProbe.Proofs.Run.Order

/-!
# Where requests and packets come from

What the activities of a run work on was seen before.

* `Interleaving.numbered`: the recorded requests are numbered one after the other; as long as
  there are no more of them than numbers, no two have the same (`Interleaving.nodup_numbers`);
* `Interleaving.lastUnder`: a request in flight is the last one that was recorded under its
  identifier;
* `Interleaving.read_of_holding`: a packet that the processor holds was read;
* `Interleaving.exists_step`: what was seen was seen at some step.
-/

namespace EchoProbe.Run

/-- The request is the last one that was recorded under its identifier; the probe was built
    at `t`. -/
def LastUnder (events : List Event) (r : Request) (t : WallTime) : Prop :=
  ∃ before after, events = before ++ .recorded r t :: after ∧
    ∀ s ∈ recorded after, s.identifier ≠ r.identifier

theorem LastUnder.append {events seen : List Event} {r : Request} {t : WallTime}
    (h : LastUnder events r t) (hseen : ∀ s ∈ recorded seen, s.identifier ≠ r.identifier) :
    LastUnder (events ++ seen) r t := by
  obtain ⟨before, after, rfl, hafter⟩ := h
  refine ⟨before, after ++ seen, by simp, ?_⟩
  rw [recorded_append, List.forall_mem_append]
  exact ⟨hafter, hseen⟩

namespace Machine

variable {σ : Type} {R : Reporter σ} {m m' : Machine σ} {seen : List Event}

/-- A packet in the hands of an activity was there before, was handed over, or was just read. -/
theorem packets_of_move (move : Move R m m' seen) :
    (∀ p, m'.receiver = .handing p → m.receiver = .handing p ∨ .read p ∈ seen) ∧
      ∀ p, m'.processor = .holding p → m.processor = .holding p ∨ m.receiver = .handing p := by
  have hafter (outcomes : List Outcome) (next : AfterReports) (p : Packet) :
      Processor.afterReports outcomes next ≠ .holding p := by
    cases outcomes <;> cases next <;> simp [Processor.afterReports]
  cases move with
  | clock now => exact ⟨fun _ => .inl, fun _ => .inl⟩
  | caller move => cases move <;> exact ⟨fun _ => .inl, fun _ => .inl⟩
  | sender move => cases move <;> simp +contextual [afterFailure]
  | receiver move => cases move <;> simp_all [afterFailure]
  | processor move => cases move <;> simp_all

section Interleaving

variable {settings : Settings} {filler : Wire.Filler} {reporter : σ} {flags : Flags}
  {handle : Handle} {clock : Instant} {events : List Event}

/-- Requests are numbered in the order of their recording. -/
theorem Interleaving.numbered
    (run : Interleaving R (init settings filler reporter flags handle clock) events m) :
    (recorded events).map (·.sequenceNumber) =
      (List.range (recorded events).length).map (SequenceNumber.advance .first) ∧
    m.ledger.nextSequenceNumber = .advance .first (recorded events).length := by
  refine run.invariant (P := fun events m => (recorded events).map (·.sequenceNumber) =
      (List.range (recorded events).length).map (SequenceNumber.advance .first) ∧
    m.ledger.nextSequenceNumber = .advance .first (recorded events).length) ⟨rfl, rfl⟩ ?_
  rintro events m m' seen ⟨hnumbers, hnext⟩ move
  rcases (ledgerMove_of_move move).subset_or_record with
    ⟨-, hkept, hseen⟩ | ⟨request, sendTime, -, hrecord, rfl⟩
  · rw [recorded_append, hseen, List.append_nil, hkept]
    exact ⟨hnumbers, hnext⟩
  · -- The new request takes the number of the counter, which goes on by one.
    have hnumber : request.sequenceNumber = m.ledger.nextSequenceNumber :=
      (congrArg (·.1.sequenceNumber) hrecord).symm
    have hnext' : m'.ledger.nextSequenceNumber = m.ledger.nextSequenceNumber.next :=
      (congrArg (·.2.nextSequenceNumber) hrecord).symm
    have hrecorded : recorded (events ++ [.recorded request sendTime]) =
        recorded events ++ [request] := by simp [Event.recorded?]
    rw [hrecorded, hnext', hnext, List.length_append, List.length_singleton, List.range_succ,
      List.map_append, List.map_append, hnumbers, SequenceNumber.next_advance]
    exact ⟨by rw [List.map_singleton, List.map_singleton, hnumber, hnext], rfl⟩

/-- Up to `65536` requests have different numbers. -/
theorem Interleaving.nodup_numbers
    (run : Interleaving R (init settings filler reporter flags handle clock) events m)
    (few : (recorded events).length ≤ 65536) :
    ((recorded events).map (·.sequenceNumber)).Nodup := by
  rw [run.numbered.1]
  refine List.pairwise_map.2 (List.nodup_range.imp_of_mem ?_)
  intro j k hj hk hne h
  rw [List.mem_range] at hj hk
  exact hne (SequenceNumber.advance_inj (by omega) (by omega) h)

/-- A request in flight is the last one recorded under its identifier. -/
theorem Interleaving.lastUnder
    (run : Interleaving R (init settings filler reporter flags handle clock) events m)
    {i : Identifier} {r : Request} (h : m.ledger.find? i = some r) :
    r.identifier = i ∧ ∃ t, LastUnder events r t := by
  refine run.invariant (P := fun events m => ∀ i r, m.ledger.find? i = some r →
    r.identifier = i ∧ ∃ t, LastUnder events r t) (fun i r h => by simp [init] at h) ?_ i r h
  intro events m m' seen hbefore move i r h
  rcases (ledgerMove_of_move move).subset_or_record with
    ⟨hpart, -, hseen⟩ | ⟨request, sendTime, -, hrecord, rfl⟩
  · obtain ⟨hi, t, ht⟩ := hbefore i r (hpart i r h)
    exact ⟨hi, t, ht.append (by simp [hseen])⟩
  · have hfound := Ledger.find?_record m.ledger request.identifier i m.target m.clock
    rw [hrecord, h] at hfound
    split at hfound
    · -- The request is the one that was just recorded.
      obtain rfl := Option.some.inj hfound
      exact ⟨‹_›, sendTime, events, [], rfl, by simp⟩
    · -- It was recorded before, under another identifier than the new one.
      obtain ⟨hi, t, ht⟩ := hbefore i r hfound.symm
      refine ⟨hi, t, ht.append ?_⟩
      rw [hi]
      simpa [Event.recorded?] using ‹¬ request.identifier = i›

/-- A packet that the processor holds was read. -/
theorem Interleaving.read_of_holding
    (run : Interleaving R (init settings filler reporter flags handle clock) events m)
    {p : Packet} (h : m.processor = .holding p) : .read p ∈ events := by
  suffices h : (∀ p, m.receiver = .handing p → .read p ∈ events) ∧
      ∀ p, m.processor = .holding p → .read p ∈ events from h.2 p ‹_›
  refine run.invariant (P := fun events m => (∀ p, m.receiver = .handing p → .read p ∈ events) ∧
    ∀ p, m.processor = .holding p → .read p ∈ events) (by simp [init]) ?_
  rintro events m m' seen ⟨hhanding, hholding⟩ move
  obtain ⟨hreceiver, hprocessor⟩ := packets_of_move move
  refine ⟨fun p hp => ?_, fun p hp => ?_⟩
  · rcases hreceiver p hp with hp | hp
    · exact List.mem_append_left _ (hhanding p hp)
    · exact List.mem_append_right _ hp
  · rcases hprocessor p hp with hp | hp
    · exact List.mem_append_left _ (hholding p hp)
    · exact List.mem_append_left _ (hhanding p hp)

end Interleaving

/-- What was seen was seen at some step. -/
theorem Interleaving.exists_step {start : Machine σ} {events before after : List Event} {e : Event}
    (run : Interleaving R start events m) (h : events = before ++ e :: after) :
    ∃ events₀ m₀ a m₁ left right, Interleaving R start events₀ m₀ ∧
      m₀.stepAnytime R a = some (m₁, left ++ e :: right) ∧ before = events₀ ++ left := by
  induction run generalizing after with
  | refl => simp at h
  | @step events₀ seen m₀ m₁ a run taken ih =>
    rcases List.append_eq_append_iff.1 h with ⟨left, hbefore, rfl⟩ | ⟨rest, rfl, hseen⟩
    · exact ⟨events₀, m₀, a, m₁, left, after, run, taken, hbefore⟩
    · -- The event was seen before the last step, or is the first that was seen at it.
      cases rest with
      | nil =>
        rw [List.nil_append] at hseen
        rw [List.append_nil] at run
        rw [← hseen] at taken
        exact ⟨before, m₀, a, m₁, [], after, run, taken, (List.append_nil _).symm⟩
      | cons e' rest =>
        obtain ⟨rfl, -⟩ := List.cons.inj hseen
        exact ih rfl

end Machine

end EchoProbe.Run
