import EchoProbe.Proofs.Statistics.Order
import Mathlib.Order.Bounds.Defs

/-!
# What a summary tells

A summary is held against what it should tell of the records (`Summary.Tells`), where the sum of the
round trips is any number, and the least and the greatest of them are that in the order of the
durations. The deviation, which is computed in floating-point numbers, is left aside.

* `total_le`, `mul_le_total`: the sum lies between the least and the greatest round trip, each taken
  once for every record; below, if nothing is lost;
* `addEach?_eq_some`: a sum in so many bits is the sum, if that fits;
* `tells_summarize`: a summary tells what it should;
* `summary_tells_records`: and so its figures are in order, and do not depend on the order of the
  records.
-/

namespace EchoProbe

variable {records others : List Record} {start now : Instant} {m : Duration} {bits n : Nat}

namespace Record

/-- The sum of the round trips in nanoseconds. -/
def total : List Record → Nat
  | [] => 0
  | received roundTrip :: rest => roundTrip.nanos + total rest
  | lost :: rest => total rest

/-- The durations added to a number of so many bits, one after another; `none` if a sum is not of
    so many bits. -/
def addEach? (bits n : Nat) : List Duration → Option Nat
  | [] => some n
  | d :: rest => if n + d.nanos < Nat.pow 2 bits then addEach? bits (n + d.nanos) rest else none

/-- Summing the round trips up from a number adds their sum to it. -/
theorem foldl_roundTrips (records : List Record) (n : Nat) :
    (records.filterMap roundTrip?).foldl (fun sum d => sum + d.nanos) n = n + total records := by
  induction records generalizing n with
  | nil => rfl
  | cons r rest ih =>
    cases r with
    | received d => exact (ih (n + d.nanos)).trans (Nat.add_assoc _ _ _)
    | lost => exact ih n

/-- If the last sum fits, so do all the sums before it, as none is greater. -/
theorem addEach?_eq_some (fits : n + total records < Nat.pow 2 bits) :
    addEach? bits n (records.filterMap roundTrip?) = some (n + total records) := by
  induction records generalizing n with
  | nil => rfl
  | cons r rest ih =>
    cases r with
    | received d =>
      have hrest : n + d.nanos + total rest = n + total (received d :: rest) := Nat.add_assoc _ _ _
      rw [← hrest] at fits ⊢
      have hfirst : n + d.nanos < Nat.pow 2 bits := Nat.lt_of_le_of_lt (Nat.le_add_right _ _) fits
      exact (if_pos hfirst).trans (ih fits)
    | lost => exact ih fits

/-- No round trip is longer than the greatest, and those of lost probes are not in the sum. -/
theorem total_le (h : ∀ d, received d ∈ records → d ≤ m) :
    total records ≤ records.length * m.nanos := by
  induction records with
  | nil => exact Nat.zero_le _
  | cons r rest ih =>
    have hrest := ih fun d hd => h d (List.mem_cons_of_mem _ hd)
    rw [List.length_cons, Nat.succ_mul]
    cases r with
    | received d =>
      have hd : d.nanos ≤ m.nanos := h d List.mem_cons_self
      rw [total]
      omega
    | lost =>
      rw [total]
      omega

/-- If nothing is lost, each record adds at least the least round trip. -/
theorem mul_le_total (h : ∀ r ∈ records, ∃ d, r = received d ∧ m ≤ d) :
    records.length * m.nanos ≤ total records := by
  induction records with
  | nil => exact Nat.le_of_eq (Nat.zero_mul _)
  | cons r rest ih =>
    have hrest := ih fun r hr => h r (List.mem_cons_of_mem _ hr)
    obtain ⟨d, rfl, hd⟩ := h r List.mem_cons_self
    rw [Duration.le_def] at hd
    rw [List.length_cons, Nat.succ_mul, total]
    omega

/-- Fewer than `2^34` round trips come to less than `2^128` nanoseconds. -/
theorem total_lt (few : records.length < 17179869184) : total records < Nat.pow 2 128 := by
  -- A duration has less than `2^94` nanoseconds, so `2^34` of them stay below `2^128`.
  let longest : Duration := ⟨18446744073709551616 * 1000000000 - 1, by decide⟩
  have hlongest (d : Duration) : d ≤ longest := Nat.le_sub_one_of_lt d.nanos_lt
  calc total records ≤ records.length * longest.nanos := total_le fun d _ => hlongest d
    _ ≤ 17179869184 * longest.nanos := Nat.mul_le_mul_right _ (Nat.le_of_lt few)
    _ < Nat.pow 2 128 := by decide

end Record

namespace Summary

open Record

/-- The summary tells what it should at `now` of records that started to be kept at `start`, the
    deviation left aside. -/
structure Tells (start now : Instant) (records : List Record) (a : Summary) : Prop where
  sent : a.sent = records.length
  received : a.received = records.countP (·.roundTrip?.isSome)
  elapsed : (a.elapsed.nanos : Int) = max 0 (now.nanos - start.nanos)
  least : (∃ d, .received d ∈ records) → IsLeast {d | .received d ∈ records} a.minRtt
  greatest : (∃ d, .received d ∈ records) → IsGreatest {d | .received d ∈ records} a.maxRtt
  avgRtt : a.avgRtt.nanos = min (total records / records.length) 18446744073709551615
  allLost : (∀ d, .received d ∉ records) → a.minRtt = .zero ∧ a.maxRtt = .zero

variable {a : Summary}

/-- The average does not exceed the greatest round trip, as it is divided by the probes sent. -/
theorem Tells.avgRtt_le_maxRtt (h : a.Tells start now records) : a.avgRtt ≤ a.maxRtt := by
  have hbound : ∀ d, .received d ∈ records → d ≤ a.maxRtt := fun d hd => (h.greatest ⟨d, hd⟩).2 hd
  calc a.avgRtt.nanos = min (total records / records.length) 18446744073709551615 := h.avgRtt
    _ ≤ total records / records.length := Nat.min_le_left _ _
    _ ≤ a.maxRtt.nanos := Nat.div_le_of_le_mul (total_le hbound)

/-- If nothing is lost and the average is not cut off, it is not below the least round trip. -/
theorem Tells.minRtt_le_avgRtt (h : a.Tells start now records) (nonempty : records ≠ [])
    (answered : ∀ r ∈ records, r ≠ .lost)
    (fits : total records / records.length ≤ 18446744073709551615) : a.minRtt ≤ a.avgRtt := by
  have hbound : ∀ r ∈ records, ∃ d, r = .received d ∧ a.minRtt ≤ d := by
    intro r hr
    cases r with
    | received d => exact ⟨d, rfl, (h.least ⟨d, hr⟩).2 hr⟩
    | lost => exact absurd rfl (answered _ hr)
  have hpos : 0 < records.length := List.length_pos_iff.2 nonempty
  rw [Duration.le_def, h.avgRtt, Nat.min_eq_left fits, Nat.le_div_iff_mul_le hpos, Nat.mul_comm]
  exact mul_le_total hbound

/-- The share of the lost probes is a number unless more probes are received than sent. -/
theorem isSome_lossPercent? (h : a.received ≤ a.sent) : a.lossPercent?.isSome = true := by
  rw [lossPercent?]
  split
  · rfl
  · rw [if_neg (Nat.not_lt.2 h)]
    rfl

end Summary

namespace Statistics

open Record

/-- The records, kept since `start` one after another. -/
def recorded (start : Instant) (records : List Record) : Statistics :=
  records.foldl add (startingAt start)

/-- The records are kept as they come, behind one another. -/
theorem recorded_eq (start : Instant) (records : List Record) :
    recorded start records = ⟨start, records.toArray⟩ := by
  have hadd : ∀ s : Statistics, records.foldl add s = { s with records := s.records ++ records } := by
    induction records with
    | nil => exact fun s => by simp
    | cons r rest ih => exact fun s => by rw [List.foldl_cons, ih]; simp [add]
  rw [recorded, hadd, startingAt]
  simp

theorem size_recorded : (recorded start records).size = records.length := by
  rw [recorded_eq]
  rfl

theorem roundTrips_recorded :
    (recorded start records).roundTrips = records.filterMap roundTrip? := by
  rw [recorded_eq]
  rfl

theorem mem_roundTrips {d : Duration} :
    d ∈ (recorded start records).roundTrips ↔ .received d ∈ records := by
  rw [roundTrips_recorded, List.mem_filterMap]
  constructor
  · rintro ⟨_ | _, hr, hd⟩
    · exact Option.some.inj hd ▸ hr
    · cases hd
  · exact fun hd => ⟨_, hd, rfl⟩

/-- The average is the sum divided by the probes sent, cut off at the greatest number of 64 bits. -/
theorem nanos_average (sent : Nat) (records : List Record) :
    (average sent (records.filterMap roundTrip?)).nanos =
      min (total records / sent) 18446744073709551615 := by
  rw [average, foldl_roundTrips, Nat.zero_add]
  exact Duration.nanos_ofNanos (Nat.lt_of_le_of_lt (Nat.min_le_right _ _) (by decide))

/-- Of records there is a summary, if the deviation is a duration. -/
theorem summarize_recorded (nonempty : records ≠ []) :
    let s := recorded start records
    let avgRtt := average s.size s.roundTrips
    s.summarize now = (deviation? s.size avgRtt s.roundTrips).map fun sdevRtt =>
      { sent := s.size
        received := s.roundTrips.length
        elapsed := now.since start
        minRtt := s.roundTrips.min?.getD .zero
        avgRtt
        maxRtt := s.roundTrips.max?.getD .zero
        sdevRtt } := by
  intro s avgRtt
  have hempty : ¬ s.isEmpty = true := by
    simp only [s, recorded_eq, isEmpty, List.isEmpty_toArray, List.isEmpty_iff]
    exact nonempty
  have hstart : s.startTime = start := by simp only [s, recorded_eq]
  rw [summarize, if_neg hempty, hstart]

/-- With no record, the summary is zero at any time. -/
theorem summarize_recorded_nil : (recorded start []).summarize now = some .zero := rfl

/-- Each figure of a summary is what it should be. The least and the greatest round trip are looked
    up among those received, if there are any. -/
theorem tells_summarize (nonempty : records ≠ []) {a : Summary}
    (h : (recorded start records).summarize now = some a) : a.Tells start now records := by
  rw [summarize_recorded nonempty] at h
  obtain ⟨sdevRtt, -, rfl⟩ := Option.map_eq_some_iff.1 h
  refine ⟨size_recorded, ?_, ?_, ?_, ?_, ?_, ?_⟩
  · rw [roundTrips_recorded, List.length_filterMap_eq_countP]
  · rw [Time.nanos_since]
    omega
  · rintro ⟨d, hd⟩
    obtain ⟨least, hleast⟩ := Option.isSome_iff_exists.1
      (List.isSome_min?_of_mem (mem_roundTrips.2 hd : d ∈ (recorded start records).roundTrips))
    obtain ⟨hmem, hbound⟩ := min?_roundTrips_eq_some_iff.1 hleast
    rw [hleast]
    exact ⟨mem_roundTrips.1 hmem, fun e he => hbound e (mem_roundTrips.2 he)⟩
  · rintro ⟨d, hd⟩
    obtain ⟨greatest, hgreatest⟩ := Option.isSome_iff_exists.1
      (List.isSome_max?_of_mem (mem_roundTrips.2 hd : d ∈ (recorded start records).roundTrips))
    obtain ⟨hmem, hbound⟩ := max?_roundTrips_eq_some_iff.1 hgreatest
    rw [hgreatest]
    exact ⟨mem_roundTrips.1 hmem, fun e he => hbound e (mem_roundTrips.2 he)⟩
  · rw [size_recorded, roundTrips_recorded, nanos_average]
  · intro lost
    have hnone : (recorded start records).roundTrips = [] :=
      List.eq_nil_iff_forall_not_mem.2 fun d hd => lost d (mem_roundTrips.1 hd)
    rw [hnone]
    exact ⟨rfl, rfl⟩

/-- Of fewer than `2^34` records the round trips are added in 128 bits without an overflow. With no
    record, a summary is zero throughout. Otherwise there is one exactly if the deviation is a
    duration, and then it tells what it should. In every summary no more probes are received than
    sent, so that the share of the lost ones is a number; the average does not exceed the greatest
    round trip; if nothing is lost and the average is not cut off, it is not below the least one; and
    these figures are the same for the same records in another order, at any time. -/
theorem summary_tells_records (start now : Instant) (records : List Record)
    (few : records.length < 17179869184) :
    let s := recorded start records
    addEach? 128 0 s.roundTrips = some (total records) ∧
    (records = [] → s.summarize now = some .zero) ∧
    (records ≠ [] → ((s.summarize now).isSome =
      (deviation? s.size (average s.size s.roundTrips) s.roundTrips).isSome)) ∧
    ∀ a, s.summarize now = some a →
      (records ≠ [] → a.Tells start now records) ∧
      (a.received ≤ a.sent ∧ a.lossPercent?.isSome = true) ∧
      a.avgRtt ≤ a.maxRtt ∧
      ((∀ r ∈ records, r ≠ .lost) → total records / records.length ≤ 18446744073709551615 →
        a.minRtt ≤ a.avgRtt) ∧
      ∀ others, records.Perm others → ∀ start' now' b,
        (recorded start' others).summarize now' = some b →
        a.sent = b.sent ∧ a.received = b.received ∧ a.minRtt = b.minRtt ∧ a.avgRtt = b.avgRtt ∧
          a.maxRtt = b.maxRtt := by
  intro s
  refine ⟨?_, ?_, ?_, fun a ha => ?_⟩
  · have fits : 0 + total records < Nat.pow 2 128 := by
      rw [Nat.zero_add]
      exact total_lt few
    show addEach? 128 0 (recorded start records).roundTrips = some (total records)
    rw [roundTrips_recorded, addEach?_eq_some fits, Nat.zero_add]
  · rintro rfl
    exact summarize_recorded_nil
  · intro nonempty
    rw [summarize_recorded nonempty, Option.isSome_map]
  · have hle : a.received ≤ a.sent := by
      -- A record is counted as sent in any case, and as received only if it has a round trip.
      obtain ⟨hsent, hreceived⟩ := sent_summarize ha
      rw [hsent, hreceived, size_recorded, roundTrips_recorded]
      exact List.length_filterMap_le _ _
    have hperm : ∀ others, records.Perm others → ∀ start' now' b,
        (recorded start' others).summarize now' = some b →
        a.sent = b.sent ∧ a.received = b.received ∧ a.minRtt = b.minRtt ∧ a.avgRtt = b.avgRtt ∧
          a.maxRtt = b.maxRtt := by
      intro others h start' now' b hb
      have hrearranged : Rearranged s (recorded start' others) := by
        simp only [Rearranged, s, recorded_eq]
        exact h
      exact hrearranged.sameFigures.summarize ha hb
    -- Without records all figures are zero, and no bound says anything.
    rcases Decidable.em (records = []) with rfl | nonempty
    · obtain rfl := Option.some.inj (summarize_recorded_nil.symm.trans ha)
      exact ⟨fun h => absurd rfl h, ⟨hle, Summary.isSome_lossPercent? hle⟩, Nat.le_refl _,
        fun _ _ => Nat.le_refl _, hperm⟩
    · have htells := tells_summarize nonempty ha
      exact ⟨fun _ => htells, ⟨hle, Summary.isSome_lossPercent? hle⟩, htells.avgRtt_le_maxRtt,
        htells.minRtt_le_avgRtt nonempty, hperm⟩

/-- Of three probes one is lost, and the others take so long that the average is cut off: it is
    below the least round trip. -/
theorem summary_tells_records_cutOff :
    let brief : Duration := .ofNanos 73786976294838206464
    let long : Duration := .ofNanos 147573952589676412928
    let records := [.lost, .received long, .received brief]
    records.length < 17179869184 ∧
      addEach? 128 0 (recorded .zero records).roundTrips = some 221360928884514619392 ∧
      ∃ a, (recorded .zero records).summarize .zero = some a ∧ a.sent = 3 ∧ a.received = 2 ∧
        a.elapsed = .zero ∧ a.minRtt = brief ∧ a.maxRtt = long ∧
        a.avgRtt.nanos = 18446744073709551615 ∧ ¬ a.minRtt ≤ a.avgRtt := by
  intro brief long records
  obtain ⟨hsum, -, hsome, hall⟩ := summary_tells_records .zero .zero records (by decide)
  have hdeviation : (deviation? 3 (average 3 [long, brief]) [long, brief]).isSome = true := by
    decide +kernel
  obtain ⟨a, ha⟩ := Option.isSome_iff_exists.1
    ((hsome (List.cons_ne_nil _ _)).trans hdeviation)
  have htells := (hall a ha).1 (List.cons_ne_nil _ _)
  have hlong : .received long ∈ records := by simp [records]
  have hbrief : .received brief ∈ records := by simp [records]
  have hmem {d : Duration} (hd : .received d ∈ records) :
      brief.nanos ≤ d.nanos ∧ d.nanos ≤ long.nanos := by
    have hcases : d = long ∨ d = brief := by simpa [records] using hd
    rcases hcases with rfl | rfl <;> decide
  have hmin : a.minRtt = brief :=
    Duration.ext (Nat.le_antisymm ((htells.least ⟨_, hlong⟩).2 hbrief)
      (hmem (htells.least ⟨_, hlong⟩).1).1)
  have hmax : a.maxRtt = long :=
    Duration.ext (Nat.le_antisymm (hmem (htells.greatest ⟨_, hlong⟩).1).2
      ((htells.greatest ⟨_, hlong⟩).2 hlong))
  have havg : a.avgRtt.nanos = 18446744073709551615 := htells.avgRtt.trans (by decide)
  refine ⟨by decide, hsum.trans (by decide), a, ha, htells.sent, htells.received,
    Duration.ext (Int.ofNat.inj (htells.elapsed.trans (by decide))), hmin, hmax, havg, ?_⟩
  rw [hmin, Duration.le_def, havg]
  decide

end Statistics

end EchoProbe
