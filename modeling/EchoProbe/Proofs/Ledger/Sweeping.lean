import EchoProbe.Proofs.Ledger.Requests

/-!
# Sweeps

A sweep hands out the requests whose deadline has passed (`Request.Overdue`), oldest first, and
leaves the others. What is overdue stays overdue, so it does not matter how often the ledger is
swept, as long as the deadline is the same.

* `Request.isExpired_iff`: a request sent later than now has no age, and is never overdue;
* `fst_sweep_perm`, `find?_sweep_iff`: what is handed out, and what is left;
* `sweep_sweep`: after an earlier sweep, a sweep leaves what it would have left without it;
* `sentAt_lt_of_mem_sweep`: whatever an earlier sweep took is older than all that it left;
* `sweeping_independent_of_schedule`: so any number of sweeps take together what the last of them
  would have taken alone.
-/

namespace EchoProbe

namespace Request

variable {r s : Request} {now later : Instant} {deadline : Duration}

/-- At `now`, the request was sent more than `deadline` ago. -/
def Overdue (r : Request) (now : Instant) (deadline : Duration) : Prop :=
  (deadline.nanos : Int) < now.nanos - r.sentAt.nanos

instance : Decidable (r.Overdue now deadline) := inferInstanceAs (Decidable (_ < _))

/-- The requests go from the oldest to the youngest. -/
def InOrder (requests : List Request) : Prop := requests.Pairwise fun r s => r.sentAt ≤ s.sentAt

/-- The age is cut off at zero, which is not beyond any deadline. -/
theorem isExpired_iff : r.isExpired now deadline = true ↔ r.Overdue now deadline := by
  rw [isExpired, decide_eq_true_iff, age, Time.nanos_since, Overdue]
  omega

theorem isExpired_eq_false_iff : r.isExpired now deadline = false ↔ ¬ r.Overdue now deadline := by
  rw [← isExpired_iff, Bool.not_eq_true]

/-- What is expired stays expired. -/
theorem isExpired_mono (hle : now ≤ later) (h : r.isExpired now deadline = true) :
    r.isExpired later deadline = true := by
  rw [isExpired_iff, Overdue] at h ⊢
  have hle := Time.le_def.1 hle
  omega

/-- A request that is sent later than now has no age. -/
theorem age_of_le (h : now ≤ r.sentAt) : r.age now = .zero := by
  have h := Time.le_def.1 h
  refine Duration.ext ?_
  rw [age, Time.nanos_since, Duration.nanos_zero]
  omega

/-- A request that is overdue is older than one that is not. -/
theorem sentAt_lt_of_overdue (hr : r.Overdue now deadline) (hs : ¬ s.Overdue now deadline) :
    r.sentAt < s.sentAt := by
  rw [Overdue] at hr hs
  rw [Time.lt_def]
  omega

theorem inOrder_oldestFirst (requests : List Request) : InOrder (oldestFirst requests) := by
  have htrans (r s t : Request) : decide (r.sentAt ≤ s.sentAt) = true →
      decide (s.sentAt ≤ t.sentAt) = true → decide (r.sentAt ≤ t.sentAt) = true := by
    simp only [decide_eq_true_iff, Time.le_def]
    exact Int.le_trans
  have htotal (r s : Request) :
      (decide (r.sentAt ≤ s.sentAt) || decide (s.sentAt ≤ r.sentAt)) = true := by
    simp only [Bool.or_eq_true, decide_eq_true_iff, Time.le_def]
    exact Int.le_total _ _
  exact (List.pairwise_mergeSort htrans htotal requests).imp of_decide_eq_true

/-- Two arrangements of the same requests in their order differ only in the places of those that
    were sent at the same time. -/
theorem InOrder.map_sentAt_eq {requests others : List Request} (h : InOrder requests)
    (hothers : InOrder others) (hperm : requests.Perm others) :
    requests.map (·.sentAt) = others.map (·.sentAt) := by
  refine (hperm.map (·.sentAt)).eq_of_pairwise ?_ (List.pairwise_map.2 h) (List.pairwise_map.2 hothers)
  intro s t _ _ hst hts
  exact Time.ext (Int.le_antisymm hst hts)

end Request

namespace Ledger

variable {l : Ledger} {now later : Instant} {deadline : Duration}

/-! ## One sweep -/

/-- A sweep hands out the oldest request first. -/
theorem inOrder_sweep (l : Ledger) (now : Instant) (deadline : Duration) :
    Request.InOrder (l.sweep now deadline).1 :=
  Request.inOrder_oldestFirst _

/-- What is overdue is handed out, each request as often as the ledger holds it. -/
theorem fst_sweep_perm (l : Ledger) (now : Instant) (deadline : Duration) :
    (l.sweep now deadline).1.Perm (l.requests.filter fun r => decide (r.Overdue now deadline)) := by
  have hoverdue : l.requests.filter (fun r => decide (r.Overdue now deadline)) =
      l.requests.filter (·.isExpired now deadline) :=
    List.filter_congr fun r _ => (Bool.eq_iff_iff.2 (by simp [Request.isExpired_iff]))
  rw [hoverdue]
  exact Request.oldestFirst_perm _

/-- All other requests stay. -/
theorem find?_sweep_iff {i : Identifier} {r : Request} :
    (l.sweep now deadline).2.find? i = some r ↔
      l.find? i = some r ∧ ¬ r.Overdue now deadline := by
  rw [find?_sweep, Option.filter_eq_some_iff, Bool.not_eq_true', Request.isExpired_eq_false_iff]

/-! ## One sweep after another -/

/-- A sweep leaves the same whether or not there was one before. -/
theorem sweep_sweep (hle : now ≤ later) :
    ((l.sweep now deadline).2.sweep later deadline).2 = (l.sweep later deadline).2 := by
  ext i : 1
  · ext r
    rw [find?_sweep_iff, find?_sweep_iff, find?_sweep_iff, and_assoc]
    refine and_congr_right fun _ => and_iff_right_of_imp fun hlater hnow => hlater ?_
    exact Request.isExpired_iff.1 (Request.isExpired_mono hle (Request.isExpired_iff.2 hnow))
  · rfl

/-- The two sweeps take together what the later one would have taken alone. -/
theorem sweep_append_sweep_perm (hle : now ≤ later) :
    ((l.sweep now deadline).1 ++ ((l.sweep now deadline).2.sweep later deadline).1).Perm
      (l.sweep later deadline).1 := by
  have htwo := (requests_sweep l now deadline).trans
    ((requests_sweep (l.sweep now deadline).2 later deadline).append_left _)
  rw [← List.append_assoc, sweep_sweep hle] at htwo
  -- Both leave the same, so what they take is the same too.
  exact (List.perm_append_right_iff _).1 (htwo.symm.trans (requests_sweep l later deadline))

theorem mem_sweep_iff {r : Request} :
    r ∈ (l.sweep now deadline).1 ↔ r ∈ l.requests ∧ r.Overdue now deadline := by
  rw [mem_sweep, mem_requests, Request.isExpired_iff]

/-- What a sweep takes is older than all that it leaves. -/
theorem sentAt_lt_of_mem_sweep {r s : Request} (hr : r ∈ (l.sweep now deadline).1)
    (hs : s ∈ (l.sweep now deadline).2.requests) : r.sentAt < s.sentAt := by
  obtain ⟨i, hi⟩ := mem_requests.1 hs
  exact Request.sentAt_lt_of_overdue (mem_sweep_iff.1 hr).2 (find?_sweep_iff.1 hi).2

/-! ## Many sweeps -/

/-- Sweeps at each of the times, and keeps together what is handed out. -/
def sweepEach (l : Ledger) (deadline : Duration) : List Instant → List Request × Ledger
  | [] => ([], l)
  | now :: others =>
    let (taken, l) := l.sweep now deadline
    let (takenLater, l) := l.sweepEach deadline others
    (taken ++ takenLater, l)

theorem sweepEach_cons (l : Ledger) (deadline : Duration) (now : Instant) (others : List Instant) :
    l.sweepEach deadline (now :: others) =
      ((l.sweep now deadline).1 ++ ((l.sweep now deadline).2.sweepEach deadline others).1,
        ((l.sweep now deadline).2.sweepEach deadline others).2) := rfl

/-- At the end of a schedule, the ledger has been swept as by the last sweep alone. -/
structure SweptBy (l : Ledger) (deadline : Duration) (last : Instant)
    (swept : List Request × Ledger) : Prop where
  ledger : swept.2 = (l.sweep last deadline).2
  taken : swept.1.Perm (l.sweep last deadline).1
  inOrder : Request.InOrder swept.1

theorem sweptBy_sweep (l : Ledger) (deadline : Duration) (last : Instant) :
    SweptBy l deadline last (l.sweep last deadline) :=
  ⟨rfl, .refl _, inOrder_sweep l last deadline⟩

/-- An earlier sweep makes no difference. -/
theorem SweptBy.after {last : Instant} {swept : List Request × Ledger} (hle : now ≤ last)
    (h : SweptBy (l.sweep now deadline).2 deadline last swept) :
    SweptBy l deadline last ((l.sweep now deadline).1 ++ swept.1, swept.2) where
  ledger := h.ledger.trans (sweep_sweep hle)
  taken := (h.taken.append_left _).trans (sweep_append_sweep_perm hle)
  inOrder := by
    refine List.pairwise_append.2 ⟨inOrder_sweep l now deadline, h.inOrder, ?_⟩
    intro r hr s hs
    have hkept : s ∈ (l.sweep now deadline).2.requests :=
      (mem_sweep_iff.1 (h.taken.mem_iff.1 hs)).1
    exact Int.le_of_lt (sentAt_lt_of_mem_sweep hr hkept)

/-- Any number of sweeps comes to the same, if the last of them is the latest. -/
theorem sweptBy_sweepEach {times : List Instant} {last : Instant} (hle : ∀ t ∈ times, t ≤ last)
    (l : Ledger) (deadline : Duration) :
    SweptBy l deadline last (l.sweepEach deadline (times ++ [last])) := by
  induction times generalizing l with
  | nil =>
    have halone : l.sweepEach deadline [last] = l.sweep last deadline := by
      rw [sweepEach_cons, sweepEach, List.append_nil]
    exact halone ▸ sweptBy_sweep l deadline last
  | cons t times ih =>
    rw [List.cons_append, sweepEach_cons]
    exact .after (hle t List.mem_cons_self) (ih (fun u hu => hle u (List.mem_cons_of_mem _ hu)) _)

/-- A sweep takes exactly what is overdue, oldest first, and leaves all else and the counter as
    they were; a request sent later than now has no age and is not taken. If the ledger was swept
    before with the same deadline, at any times up to now, then the same is left as if it had not
    been, and the same was taken in all, also oldest first: at most requests that were sent at the
    same time have changed places. -/
theorem sweeping_independent_of_schedule (l : Ledger) (now : Instant) (deadline : Duration) :
    let swept := l.sweep now deadline
    (swept.1.Perm (l.requests.filter fun r => decide (r.Overdue now deadline)) ∧
      Request.InOrder swept.1) ∧
    (∀ i r, swept.2.find? i = some r ↔ l.find? i = some r ∧ ¬ r.Overdue now deadline) ∧
    swept.2.nextSequenceNumber = l.nextSequenceNumber ∧
    (∀ r : Request, now ≤ r.sentAt → r.age now = .zero ∧ r ∉ swept.1) ∧
    ∀ earlier : List Instant, (∀ t ∈ earlier, t ≤ now) →
      let sweptEach := l.sweepEach deadline (earlier ++ [now])
      sweptEach.2 = swept.2 ∧ sweptEach.1.Perm swept.1 ∧ Request.InOrder sweptEach.1 ∧
        sweptEach.1.map (·.sentAt) = swept.1.map (·.sentAt) := by
  intro swept
  refine ⟨⟨fst_sweep_perm l now deadline, inOrder_sweep l now deadline⟩, fun _ _ => find?_sweep_iff,
    rfl, ?_, ?_⟩
  · intro r hlater
    refine ⟨Request.age_of_le hlater, fun hr => ?_⟩
    have hoverdue := (mem_sweep_iff.1 hr).2
    have hlater := Time.le_def.1 hlater
    rw [Request.Overdue] at hoverdue
    omega
  · intro earlier hle
    have hswept := sweptBy_sweepEach hle l deadline
    exact ⟨hswept.ledger, hswept.taken, hswept.inOrder,
      hswept.inOrder.map_sentAt_eq (inOrder_sweep l now deadline) hswept.taken⟩

/-- The clock `n` nanoseconds after its zero. -/
def clockAt (n : Nat) : Instant := Time.zero.add (.ofNanos n)

/-- Four probes, two of them sent at the same time and one that is sent later than all sweeps. -/
def fourProbes : Ledger :=
  let sent (l : Ledger) (identifier : UInt16) (n : Nat) : Ledger :=
    (l.record ⟨identifier⟩ ⟨10, 0, 0, 1⟩ (clockAt n)).2
  sent (sent (sent (sent empty 9 0) 6 30) 4 30) 2 200

/-- A probe that is exactly as old as the deadline stays. The next sweeps take it alone and then
    the two probes that were sent together; one sweep would have taken all three. -/
theorem sweeping_independent_of_schedule_exactDeadline :
    let deadline : Duration := .ofNanos 100
    let times := [clockAt 100, clockAt 120]
    (fourProbes.sweep (clockAt 100) deadline).1 = [] ∧
    (fourProbes.sweep (clockAt 120) deadline).1.map (·.identifier) = [⟨9⟩] ∧
    (∀ t ∈ times, t ≤ clockAt 140) ∧
    (fourProbes.sweep (clockAt 140) deadline).1.length = 3 ∧
    (fourProbes.sweepEach deadline (times ++ [clockAt 140])).1.Perm
      (fourProbes.sweep (clockAt 140) deadline).1 ∧
    (fourProbes.sweepEach deadline (times ++ [clockAt 140])).2 =
      (fourProbes.sweep (clockAt 140) deadline).2 := by
  intro deadline times
  have hle : ∀ t ∈ times, t ≤ clockAt 140 := by decide
  obtain ⟨⟨htaken, -⟩, -, -, -, heach⟩ :=
    sweeping_independent_of_schedule fourProbes (clockAt 140) deadline
  obtain ⟨hledger, hperm, -, -⟩ := heach times hle
  have hthree : (fourProbes.sweep (clockAt 140) deadline).1.length = 3 :=
    htaken.length_eq.trans (by decide +kernel)
  exact ⟨by decide +kernel, by decide +kernel, hle, hthree, hperm, hledger⟩

end Ledger

end EchoProbe
