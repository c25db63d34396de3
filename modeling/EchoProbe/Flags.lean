import EchoProbe.Time

/-!
# Stop requests

A run stops when somebody raises its flag. A handle names a flag; copies of a handle
name the same flag, handles of different runs different ones. A flag is never lowered.

Whoever waits on a handle wakes up when the flag is raised or when the deadline comes
(`waitUntil`): with true in the first case, with false in the second.

* `Handle.Copies.eq`: a copy of a handle is the same handle;
* `isStopped_stop`: to stop by a handle raises its flag and no other;
* `waitUntil_of_isStopped`: who waits on a raised flag learns of it;
* `le_of_waitUntil`: who waits in vain waits until the deadline.
-/

namespace EchoProbe

/-- The name of a flag. -/
structure Handle where
  index : Nat
  deriving DecidableEq, Repr

/-- All flags, raised or not. -/
structure Flags where
  raised : List Bool
  deriving DecidableEq, Repr

namespace Handle

/-- A copy of a handle. It names the same flag. -/
def copy (h : Handle) : Handle := ⟨h.index⟩

/-- The handles that were copied from a handle, or from a copy of it, and so on. -/
inductive Copies (h : Handle) : Handle → Prop
  | self : Copies h h
  | copy {c : Handle} (of : Copies h c) : Copies h c.copy

theorem Copies.eq {h c : Handle} (copies : h.Copies c) : c = h := by
  induction copies with
  | self => rfl
  | copy _ ih => exact ih

end Handle

namespace Flags

/-- No flags. -/
def empty : Flags := ⟨[]⟩

/-- A new flag, not raised, and its handle. -/
def create (f : Flags) : Flags × Handle := (⟨f.raised ++ [false]⟩, ⟨f.raised.length⟩)

/-- Whether the flag of a handle is raised. -/
def isStopped (f : Flags) (h : Handle) : Bool := f.raised.getD h.index false

/-- Raises the flag of a handle. -/
def stop (f : Flags) (h : Handle) : Flags := ⟨f.raised.set h.index true⟩

/-- What one who waits for a deadline sees at `now`: true if the flag is raised, false
    if the deadline has come; `none` if the wait goes on. -/
def waitUntil (f : Flags) (h : Handle) (deadline now : Instant) : Option Bool :=
  if f.isStopped h then some true
  else if deadline ≤ now then some false
  else none

/-- Whether there is a flag of that name. -/
def Has (f : Flags) (h : Handle) : Prop := h.index < f.raised.length

instance (f : Flags) (h : Handle) : Decidable (f.Has h) :=
  inferInstanceAs (Decidable (h.index < f.raised.length))

theorem has_of_isStopped {f : Flags} {h : Handle} (stopped : f.isStopped h = true) : f.Has h := by
  refine Nat.lt_of_not_le fun hout => ?_
  rw [isStopped, List.getD_eq_getElem?_getD, List.getElem?_eq_none hout] at stopped
  cases stopped

@[simp]
theorem has_stop {f : Flags} {h other : Handle} : (f.stop h).Has other ↔ f.Has other := by
  rw [Has, stop, List.length_set, Has]

/-- To stop by a handle raises its flag, if there is one, and no other. -/
theorem isStopped_stop {f : Flags} {h other : Handle} :
    (f.stop h).isStopped other = true ↔ f.isStopped other = true ∨ other = h ∧ f.Has h := by
  simp only [isStopped, stop, List.getD_eq_getElem?_getD, List.getElem?_set]
  by_cases hindex : h.index = other.index
  · obtain rfl : h = other := congrArg Handle.mk hindex
    by_cases has : f.Has h
    · simp [has, show h.index < f.raised.length from has]
    · simp [has, show ¬ h.index < f.raised.length from has]
  · have hne : other ≠ h := fun heq => hindex (congrArg Handle.index heq.symm)
    simp [hindex, hne]

/-- Who waits on a raised flag learns of it, whatever the deadline. -/
theorem waitUntil_of_isStopped {f : Flags} {h : Handle} (stopped : f.isStopped h = true)
    (deadline now : Instant) : f.waitUntil h deadline now = some true :=
  if_pos stopped

/-- Who wakes up to a stop request finds the flag raised. -/
theorem isStopped_of_waitUntil {f : Flags} {h : Handle} {deadline now : Instant}
    (woken : f.waitUntil h deadline now = some true) : f.isStopped h = true := by
  unfold waitUntil at woken
  split at woken
  · assumption
  · split at woken <;> cases woken

/-- Who waits without being told to stop has waited until the deadline. -/
theorem le_of_waitUntil {f : Flags} {h : Handle} {deadline now : Instant}
    (woken : f.waitUntil h deadline now = some false) : deadline ≤ now := by
  unfold waitUntil at woken
  split at woken
  · cases woken
  · split at woken
    · assumption
    · cases woken

/-- The result of a wait during which nobody raises the flag. -/
def waitAlone (f : Flags) (h : Handle) (deadline now : Instant) : Option Bool :=
  f.waitUntil h deadline (if deadline ≤ now then now else deadline)

/-- The result of a wait during which the flag is raised, if it is not raised
    already. -/
def waitWhileStopping (f : Flags) (h : Handle) (deadline now : Instant) :
    Option Bool × Flags :=
  let raised := f.stop h
  ((f.waitUntil h deadline now).or (raised.waitUntil h deadline now), raised)

end Flags

end EchoProbe
