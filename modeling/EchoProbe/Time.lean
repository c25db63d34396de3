/-!
# Time

Lengths of time and points in time, both in whole nanoseconds.

* `Duration`: a length of less than `2^64` seconds, never negative;
* `Time c`: a point on the clock `c`, with signed 64-bit seconds. The monotonic
  clock (`Instant`) orders what happens on this host; the wall clock
  (`WallTime`) counts from the Unix epoch and is what a probe carries on the
  wire. The two are different types, so they are never subtracted.

A difference of two points always fits a duration (`Time.since`); a sum of a
point and a duration may leave the range of the clock (`Time.add?`).
-/

namespace EchoProbe

/-- A length of time in nanoseconds, below `2^64` seconds. -/
structure Duration where
  nanos : Nat
  nanos_lt : nanos < 18446744073709551616 * 1000000000
  deriving DecidableEq, Repr

namespace Duration

def zero : Duration := ⟨0, by decide⟩

instance : Inhabited Duration := ⟨zero⟩

/-- The length of `n` nanoseconds, cut off at the longest duration. -/
def ofNanos (n : Nat) : Duration :=
  ⟨min n (18446744073709551616 * 1000000000 - 1), by omega⟩

/-- The length of `n` nanoseconds, if it is a duration. -/
def ofNanos? (n : Nat) : Option Duration :=
  if h : n < 18446744073709551616 * 1000000000 then some ⟨n, h⟩ else none

/-- The length of `n` milliseconds. -/
def ofMillis (n : UInt64) : Duration :=
  ⟨n.toNat * 1000000, by have := n.toNat_lt; omega⟩

/-- The length of `n` seconds. -/
def ofSeconds (n : UInt64) : Duration :=
  ⟨n.toNat * 1000000000, by have := n.toNat_lt; omega⟩

/-- The whole seconds of `d`. -/
def seconds (d : Duration) : Nat := d.nanos / 1000000000

/-- What `d` has beyond its whole seconds, in nanoseconds. -/
def subsecNanos (d : Duration) : Nat := d.nanos % 1000000000

theorem seconds_lt (d : Duration) : d.seconds < 18446744073709551616 := by
  have := d.nanos_lt
  unfold seconds
  omega

@[ext]
theorem ext {d e : Duration} (h : d.nanos = e.nanos) : d = e := by
  cases d
  cases e
  congr

@[simp]
theorem nanos_zero : zero.nanos = 0 := rfl

/-- A length that fits is not cut off. -/
theorem nanos_ofNanos {n : Nat} (h : n < 18446744073709551616 * 1000000000) :
    (ofNanos n).nanos = n := by
  simp only [ofNanos]
  omega

end Duration

/-- The clocks that this host reads. -/
inductive Clock
  | monotonic
  | wall
  deriving DecidableEq, Repr

/-- A point on the clock `c`, in nanoseconds from its zero: the Unix epoch for
    the wall clock, a fixed point for the monotonic clock. -/
structure Time (c : Clock) where
  nanos : Int
  le_nanos : -(9223372036854775808 * 1000000000) ≤ nanos
  nanos_lt : nanos < 9223372036854775808 * 1000000000
  deriving DecidableEq, Repr

/-- A reading of the monotonic clock. -/
abbrev Instant := Time .monotonic

/-- A reading of the wall clock. -/
abbrev WallTime := Time .wall

namespace Time

variable {c : Clock}

/-- The zero of a clock; on the wall clock, the Unix epoch. -/
def zero : Time c := ⟨0, by decide, by decide⟩

instance : Inhabited (Time c) := ⟨zero⟩

/-- The point `n` nanoseconds from the zero, if the clock reaches it. -/
def ofNanos? (n : Int) : Option (Time c) :=
  if h : -(9223372036854775808 * 1000000000) ≤ n ∧ n < 9223372036854775808 * 1000000000 then
    some ⟨n, h.1, h.2⟩
  else none

instance : LE (Time c) := ⟨fun s t => s.nanos ≤ t.nanos⟩

instance : DecidableLE (Time c) := fun s t => inferInstanceAs (Decidable (s.nanos ≤ t.nanos))

instance : LT (Time c) := ⟨fun s t => s.nanos < t.nanos⟩

instance : DecidableLT (Time c) := fun s t => inferInstanceAs (Decidable (s.nanos < t.nanos))

theorem le_def {s t : Time c} : s ≤ t ↔ s.nanos ≤ t.nanos := Iff.rfl

theorem lt_def {s t : Time c} : s < t ↔ s.nanos < t.nanos := Iff.rfl

@[ext]
theorem ext {s t : Time c} (h : s.nanos = t.nanos) : s = t := by
  cases s
  cases t
  congr

/-- How much later `t` is than `s`; zero if it is not later. -/
def since (t s : Time c) : Duration :=
  ⟨(t.nanos - s.nanos).toNat, by
    have := t.nanos_lt
    have := s.le_nanos
    omega⟩

/-- How much later `t` is than `s`, if `s` is not after `t`. -/
def since? (t s : Time c) : Option Duration :=
  if s ≤ t then some (t.since s) else none

/-- The point `d` after `t`, if the clock reaches it. -/
def add? (t : Time c) (d : Duration) : Option (Time c) := ofNanos? (t.nanos + d.nanos)

/-- The point `d` after `t`, or the last point of the clock. -/
def add (t : Time c) (d : Duration) : Time c :=
  ⟨min (t.nanos + d.nanos) (9223372036854775808 * 1000000000 - 1),
    by have := t.le_nanos; omega, by omega⟩

theorem nanos_since (t s : Time c) : (t.since s).nanos = (t.nanos - s.nanos).toNat := rfl

theorem since?_eq_some_iff {t s : Time c} {d : Duration} :
    t.since? s = some d ↔ s ≤ t ∧ t.since s = d := by
  simp [since?]

theorem ofNanos?_eq_some_iff {n : Int} {t : Time c} : ofNanos? n = some t ↔ t.nanos = n := by
  constructor
  · intro h
    simp only [ofNanos?] at h
    split at h
    · simp only [Option.some.injEq] at h
      rw [← h]
    · simp at h
  · rintro rfl
    rw [ofNanos?, dif_pos ⟨t.le_nanos, t.nanos_lt⟩]

theorem add?_eq_some_iff {t u : Time c} {d : Duration} :
    t.add? d = some u ↔ u.nanos = t.nanos + d.nanos :=
  ofNanos?_eq_some_iff

end Time

end EchoProbe
