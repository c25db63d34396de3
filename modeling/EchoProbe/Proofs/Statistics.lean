import EchoProbe.Reporter

/-!
# What statistics count

Statistics count each outcome at most once: as a probe sent if it is counted, and as a probe
received if it is a reply (`size_foldl_addOutcome`, `length_roundTrips_foldl_addOutcome`). A
summary says no more and no less (`sent_summarize`).

A reporter *counts* if a part of its state is statistics, to which it adds every outcome that
it is told (`Reporter.Counts`).
-/

namespace EchoProbe

namespace Statistics

/-- An outcome is recorded exactly if it counts as a probe sent. -/
theorem size_addOutcome (s : Statistics) (o : Outcome) :
    (s.addOutcome o).size = s.size + if o.isCounted then 1 else 0 := by
  cases o with
  | reply r => simp [addOutcome, Outcome.record?, add, size, Outcome.isCounted, Outcome.isReply]
  | failure f =>
    by_cases h : f.kind.isLoss <;>
      simp [addOutcome, Outcome.record?, add, size, Outcome.isCounted, Outcome.isReply,
        Outcome.isLoss, h]

/-- A reply has a round trip, and nothing else has one. -/
theorem length_roundTrips_addOutcome (s : Statistics) (o : Outcome) :
    (s.addOutcome o).roundTrips.length = s.roundTrips.length + if o.isReply then 1 else 0 := by
  cases o with
  | reply r =>
    simp [addOutcome, Outcome.record?, add, roundTrips, Record.roundTrip?, Outcome.isReply]
  | failure f =>
    by_cases h : f.kind.isLoss <;>
      simp [addOutcome, Outcome.record?, add, roundTrips, Record.roundTrip?, Outcome.isReply, h]

theorem size_foldl_addOutcome (s : Statistics) (outcomes : List Outcome) :
    (outcomes.foldl addOutcome s).size = s.size + outcomes.countP (·.isCounted) := by
  induction outcomes generalizing s with
  | nil => rfl
  | cons o outcomes ih =>
    rw [List.foldl_cons, ih, size_addOutcome, List.countP_cons]
    omega

theorem length_roundTrips_foldl_addOutcome (s : Statistics) (outcomes : List Outcome) :
    (outcomes.foldl addOutcome s).roundTrips.length =
      s.roundTrips.length + outcomes.countP (·.isReply) := by
  induction outcomes generalizing s with
  | nil => rfl
  | cons o outcomes ih =>
    rw [List.foldl_cons, ih, length_roundTrips_addOutcome, List.countP_cons]
    omega

/-- A summary tells as many probes sent and received as were recorded. -/
theorem sent_summarize {s : Statistics} {now : Instant} {summary : Summary}
    (h : s.summarize now = some summary) :
    summary.sent = s.size ∧ summary.received = s.roundTrips.length := by
  rw [summarize] at h
  split at h
  · rename_i hempty
    obtain rfl := Option.some.inj h
    have : s.records = #[] := Array.isEmpty_iff.1 hempty
    simp [Summary.zero, size, roundTrips, this]
  · obtain ⟨deviation, -, rfl⟩ := Option.map_eq_some_iff.1 h
    exact ⟨rfl, rfl⟩

/-- It does not matter when the clock starts. -/
theorem restart_addOutcome (s : Statistics) (now : Instant) (o : Outcome) :
    (s.addOutcome o).restart now = (s.restart now).addOutcome o := by
  rw [addOutcome, addOutcome]
  cases o.record? <;> rfl

theorem restart_foldl_addOutcome (s : Statistics) (now : Instant) (outcomes : List Outcome) :
    (outcomes.foldl addOutcome s).restart now = outcomes.foldl addOutcome (s.restart now) := by
  induction outcomes generalizing s with
  | nil => rfl
  | cons o outcomes ih => rw [List.foldl_cons, ih, restart_addOutcome, List.foldl_cons]

end Statistics

/-- Part of the reporter's state are statistics: they start their clock when a run starts, and
    count every outcome that the reporter is told. -/
structure Reporter.Counts {σ : Type} (R : Reporter σ) (view : σ → Statistics) : Prop where
  start : ∀ now s, view (R.start now s) = (view s).restart now
  report : ∀ o s, view (R.report o s).state = (view s).addOutcome o

theorem Reporter.counts_counting {σ : Type} (next : Reporter σ) : (counting next).Counts Prod.fst :=
  ⟨fun _ _ => rfl, fun _ _ => rfl⟩

end EchoProbe
