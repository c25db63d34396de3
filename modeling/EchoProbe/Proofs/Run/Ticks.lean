import EchoProbe.Run.Tick

/-!
# Ticks and slots

The ticks of a run lie an interval apart, from its start on. Between one tick and the next is a slot,
to which the first of the two belongs. As the ticks are numbers, they go on beyond the end of the
clock.

* `InSlot`: the slot of a point in time. There is one from the start on (`exists_inSlot`), and just
  one (`InSlot.unique`); a tick between two points separates their slots (`InSlot.lt_of_onTick`);
* `SkipsTo`: the loop that goes on from tick to tick as long as they have come. It ends if the
  interval is positive (`skipsTo_iff`), and only then (`not_skipsTo`);
* `catchUp_eq_some_iff`, `catchUp_eq_none_iff`: where it ends.
-/

namespace EchoProbe

variable {interval : Duration} {start now next t u between : Instant} {j k : Nat}

/-- The tick of number `k`: so many intervals after the start. -/
def tickAt (start : Instant) (interval : Duration) (k : Nat) : Int :=
  start.nanos + k * interval.nanos

/-- There is a tick at `t`. -/
def OnTick (start : Instant) (interval : Duration) (t : Instant) : Prop :=
  ∃ k, t.nanos = tickAt start interval k

/-- `t` is in the slot of number `k`: that tick has come, and the next has not. -/
structure InSlot (start : Instant) (interval : Duration) (k : Nat) (t : Instant) : Prop where
  come : tickAt start interval k ≤ t.nanos
  ahead : t.nanos < tickAt start interval (k + 1)

theorem onTick_start (start : Instant) (interval : Duration) : OnTick start interval start :=
  ⟨0, by simp [tickAt]⟩

theorem tickAt_add (start : Instant) (interval : Duration) (k n : Nat) :
    tickAt start interval (k + n) = tickAt start interval k + n * interval.nanos := by
  rw [tickAt, tickAt, Int.natCast_add, Int.add_mul, Int.add_assoc]

theorem tickAt_le_tickAt (start : Instant) (interval : Duration) (h : j ≤ k) :
    tickAt start interval j ≤ tickAt start interval k := by
  obtain ⟨n, rfl⟩ := Nat.exists_eq_add_of_le h
  rw [tickAt_add]
  have : 0 ≤ (n : Int) * interval.nanos := Int.mul_nonneg (Int.natCast_nonneg _) (Int.natCast_nonneg _)
  omega

/-- An earlier tick has a smaller number. -/
theorem lt_of_tickAt_lt (h : tickAt start interval j < tickAt start interval k) : j < k :=
  Nat.lt_of_not_le fun hle => Int.not_lt.2 (tickAt_le_tickAt start interval hle) h

/-! ## Slots -/

/-- If a tick comes after `t` and not after `u`, the slot of `t` is before that of `u`. -/
theorem InSlot.lt_of_onTick (ht : InSlot start interval j t) (hu : InSlot start interval k u)
    (tick : OnTick start interval between) (after : t < between) (upTo : between ≤ u) : j < k := by
  -- The tick between them has a number, which is above that of the one slot and not above that of
  -- the other.
  obtain ⟨i, hi⟩ := tick
  have after := Time.lt_def.1 after
  have upTo := Time.le_def.1 upTo
  rw [hi] at after upTo
  have hj : j < i := lt_of_tickAt_lt (Int.lt_of_le_of_lt ht.come after)
  have hk : i < k + 1 := lt_of_tickAt_lt (Int.lt_of_le_of_lt upTo hu.ahead)
  omega

theorem InSlot.unique (hj : InSlot start interval j t) (hk : InSlot start interval k t) : j = k := by
  have hjk : j < k + 1 := lt_of_tickAt_lt (Int.lt_of_le_of_lt hj.come hk.ahead)
  have hkj : k < j + 1 := lt_of_tickAt_lt (Int.lt_of_le_of_lt hk.come hj.ahead)
  omega

/-- The number of a slot is how often the interval goes into the time since the start. -/
theorem inSlot_since (pos : 0 < interval.nanos) (h : start ≤ t) :
    InSlot start interval ((t.since start).nanos / interval.nanos) t := by
  have hlast := Nat.div_mul_le_self (t.since start).nanos interval.nanos
  have hnext := Nat.lt_div_mul_add pos (a := (t.since start).nanos)
  have h := Time.le_def.1 h
  generalize (t.since start).nanos / interval.nanos = n at hlast hnext
  rw [Time.nanos_since] at hlast hnext
  constructor
  · rw [tickAt, ← Int.natCast_mul]
    omega
  · rw [tickAt, ← Int.natCast_mul, Nat.succ_mul]
    omega

/-- Every time since the start is in a slot. -/
theorem exists_inSlot (pos : 0 < interval.nanos) (h : start ≤ t) :
    ∃ k, InSlot start interval k t :=
  ⟨_, inSlot_since pos h⟩

/-- Slots that are counted from a later tick. -/
theorem InSlot.add (hnext : next.nanos = tickAt start interval k)
    (h : InSlot next interval j t) : InSlot start interval (k + j) t := by
  have hcount (i : Nat) : tickAt start interval (k + i) = tickAt next interval i := by
    rw [tickAt_add, ← hnext, tickAt]
  exact ⟨hcount j ▸ h.come, hcount (j + 1) ▸ h.ahead⟩

/-! ## The loop -/

/-- What the loop comes to that starts with the tick `next`: a tick that is not yet come is the one
    to wait for; otherwise it goes on to the following tick, if the clock reaches it. -/
inductive SkipsTo (interval : Duration) (now : Instant) : Instant → Option Instant → Prop
  | wait {next : Instant} (ahead : now < next) : SkipsTo interval now next (some next)
  | skip {next later : Instant} {r : Option Instant} (come : next ≤ now)
      (added : next.add? interval = some later) (rest : SkipsTo interval now later r) :
      SkipsTo interval now next r
  | strand {next : Instant} (come : next ≤ now) (beyond : next.add? interval = none) :
      SkipsTo interval now next none

/-- The loop ends, and always in the same way: every tick it skips is one less of those that have
    come. -/
theorem skipsTo_iff (pos : 0 < interval.nanos) {r : Option Instant} :
    SkipsTo interval now next r ↔ catchUp interval next now = r := by
  constructor
  · intro h
    induction h with
    | wait ahead => exact catchUp_of_lt ahead
    | skip come added rest ih => rw [catchUp_of_le pos come, added, Option.bind_some, ih]
    | strand come beyond => rw [catchUp_of_le pos come, beyond, Option.bind_none]
  · rintro rfl
    -- The ticks that have come from `next` on are finitely many, and the loop skips one each time.
    induction hpassed : ticksPassed interval next now using Nat.strongRecOn generalizing next with
    | ind passed ih =>
      by_cases come : next ≤ now
      · rw [catchUp_of_le pos come]
        cases added : next.add? interval with
        | none => exact .strand come added
        | some later =>
          have hless := ticksPassed_add? pos come added
          exact .skip come added (ih _ (by omega) rfl)
      · have ahead : now < next := Int.not_le.1 come
        rw [catchUp_of_lt ahead]
        exact .wait ahead

/-- With no time between the ticks, the loop would not end. -/
theorem not_skipsTo (zero : interval.nanos = 0) (come : next ≤ now) {r : Option Instant} :
    ¬ SkipsTo interval now next r := by
  have hadd (u : Instant) : u.add? interval = some u :=
    Time.add?_eq_some_iff.2 (by rw [zero]; simp)
  intro h
  induction h with
  | wait ahead => exact Int.not_le.2 ahead come
  | skip come' added rest ih =>
    rw [hadd] at added
    exact ih (Option.some.inj added ▸ come)
  | strand come' beyond =>
    rw [hadd] at beyond
    cases beyond

/-! ## The next tick -/

/-- `n` is the first of the ticks that are later than `now`. -/
structure IsNextTick (start : Instant) (interval : Duration) (now : Instant) (n : Int) : Prop where
  tick : ∃ k, n = tickAt start interval k
  later : now.nanos < n
  first : ∀ k, now.nanos < tickAt start interval k → n ≤ tickAt start interval k

/-- The first tick later than `now` lies beyond the end of the clock. -/
def TickBeyond (start : Instant) (interval : Duration) (now : Instant) : Prop :=
  ∃ n, IsNextTick start interval now n ∧ 9223372036854775808 * 1000000000 ≤ n

/-- There is only one such tick. -/
theorem IsNextTick.unique {n p : Int} (hn : IsNextTick start interval now n)
    (hp : IsNextTick start interval now p) : n = p := by
  obtain ⟨j, rfl⟩ := hn.tick
  obtain ⟨k, rfl⟩ := hp.tick
  exact Int.le_antisymm (hn.first k hp.later) (hp.first j hn.later)

/-- The next tick ends the slot. -/
theorem InSlot.isNextTick (h : InSlot start interval k now) :
    IsNextTick start interval now (tickAt start interval (k + 1)) where
  tick := ⟨_, rfl⟩
  later := h.ahead
  first _ hj := tickAt_le_tickAt _ _ (lt_of_tickAt_lt (Int.lt_of_le_of_lt h.come hj))

/-- From a tick that has come, it is as many intervals to the next tick as ticks have come. -/
theorem isNextTick_ticksPassed (pos : 0 < interval.nanos) (tick : OnTick start interval next)
    (come : next ≤ now) :
    IsNextTick start interval now (next.nanos + ticksPassed interval next now * interval.nanos) := by
  obtain ⟨k, hk⟩ := tick
  -- Counted from `next`, the slot of `now` is known; it is the same slot counted from the start.
  have hslot := (inSlot_since pos come).add hk
  have hpassed : ticksPassed interval next now = (now.since next).nanos / interval.nanos + 1 :=
    if_pos come
  rw [hpassed, hk, ← tickAt_add]
  exact hslot.isNextTick

/-- From a tick that has come, the loop ends with the next one, -/
theorem catchUp_eq_some_iff (pos : 0 < interval.nanos) (tick : OnTick start interval next)
    (come : next ≤ now) :
    catchUp interval next now = some t ↔ IsNextTick start interval now t.nanos := by
  have hnext := isNextTick_ticksPassed pos tick come
  rw [catchUp, Time.ofNanos?_eq_some_iff]
  exact ⟨fun h => h ▸ hnext, fun h => h.unique hnext⟩

/-- or, if that lies beyond the end of the clock, without one. -/
theorem catchUp_eq_none_iff (pos : 0 < interval.nanos) (tick : OnTick start interval next)
    (come : next ≤ now) :
    catchUp interval next now = none ↔ TickBeyond start interval now := by
  have hnext := isNextTick_ticksPassed pos tick come
  have hlater := hnext.later
  have hnow := now.le_nanos
  rw [catchUp, Time.ofNanos?, dite_eq_right_iff]
  constructor
  · -- Nothing is lost at the other end of the clock, as the next tick is later than a reading of
    -- it.
    intro hout
    refine ⟨_, hnext, Int.not_lt.1 fun hlt => ?_⟩
    cases hout ⟨by omega, hlt⟩
  · rintro ⟨n, hn, hbeyond⟩ hin
    rw [hn.unique hnext] at hbeyond
    omega

end EchoProbe
