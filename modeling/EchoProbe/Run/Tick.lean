import EchoProbe.Time

/-!
# Ticks

Probes are sent at ticks, a fixed interval apart from the start of the run. Ticks that
pass while a probe is being sent are skipped: the next probe waits for the first tick
that is still to come (`catchUp`). The clock may end before that tick.

* `lt_of_catchUp`: the tick that is waited for is still to come;
* `catchUp_of_lt`, `catchUp_of_le`: it is found by going on from tick to tick as long as
  they have come, and only to find it is the interval added.
-/

namespace EchoProbe

/-- How many of the ticks `next`, `next + interval`, … have come at `now`. -/
def ticksPassed (interval : Duration) (next now : Instant) : Nat :=
  if next ≤ now then (now.since next).nanos / interval.nanos + 1 else 0

/-- The first of the ticks `next`, `next + interval`, … that is later than `now`; `none`
    if the clock does not reach it. -/
def catchUp (interval : Duration) (next now : Instant) : Option Instant :=
  Time.ofNanos? (next.nanos + ticksPassed interval next now * interval.nanos)

/-- A tick that is still to come is waited for. -/
theorem catchUp_of_lt {interval : Duration} {next now : Instant} (h : now < next) :
    catchUp interval next now = some next := by
  have : ¬ next ≤ now := by
    rw [Time.le_def]
    have := Time.lt_def.1 h
    omega
  simp [catchUp, ticksPassed, this, Time.ofNanos?_eq_some_iff]

theorem ticksPassed_add? {interval : Duration} (pos : 0 < interval.nanos)
    {next now later : Instant} (h : next ≤ now) (hl : next.add? interval = some later) :
    ticksPassed interval next now = ticksPassed interval later now + 1 := by
  have hl := Time.add?_eq_some_iff.1 hl
  have h' := Time.le_def.1 h
  simp only [ticksPassed, h, if_true, Time.le_def, Time.nanos_since, Nat.add_right_cancel_iff]
  split
  · have : (now.nanos - next.nanos).toNat = (now.nanos - later.nanos).toNat + interval.nanos := by
      omega
    rw [this, Nat.add_div_right _ pos]
  · exact Nat.div_eq_of_lt (by omega)

/-- A tick that has come is skipped. -/
theorem catchUp_of_le {interval : Duration} (pos : 0 < interval.nanos) {next now : Instant}
    (h : next ≤ now) :
    catchUp interval next now =
      (next.add? interval).bind fun later => catchUp interval later now := by
  cases hl : next.add? interval with
  | none =>
    simp only [Time.add?, Time.ofNanos?, dite_eq_right_iff, reduceCtorEq, imp_false] at hl
    have : interval.nanos ≤ ticksPassed interval next now * interval.nanos := by
      apply Nat.le_mul_of_pos_left
      simp [ticksPassed, h]
    have := next.le_nanos
    simp only [catchUp, Time.ofNanos?, Option.bind_none, dite_eq_right_iff, reduceCtorEq, imp_false]
    omega
  | some later =>
    simp only [catchUp, Option.bind_some, ticksPassed_add? pos h hl, Time.add?_eq_some_iff.1 hl]
    congr 1
    push_cast
    rw [Int.add_mul]
    omega

theorem lt_of_catchUp {interval : Duration} (pos : 0 < interval.nanos) {next now tick : Instant}
    (h : catchUp interval next now = some tick) : now < tick := by
  have h := Time.ofNanos?_eq_some_iff.1 h
  rw [Time.lt_def, h]
  simp only [ticksPassed, Time.le_def, Time.nanos_since]
  split
  · have := Nat.lt_div_mul_add pos (a := (now.nanos - next.nanos).toNat)
    generalize (now.nanos - next.nanos).toNat / interval.nanos = passed at this
    push_cast
    rw [Int.add_mul]
    omega
  · omega

end EchoProbe
