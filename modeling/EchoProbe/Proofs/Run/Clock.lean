import EchoProbe.Proofs.Ledger.Sweeping
import EchoProbe.Proofs.Run.Move

/-!
# Up to a reading of the clock

In an interleaving the activities read the clock in no order. Still, up to any point of a run
all readings were made by then. An `InterleavingUpTo` some limit is an interleaving with no
later reading, so what a sweep takes for expired is expired at the limit.

* `step_cases_upTo`: a step makes a move at a reading up to the limit;
* `Execution.upTo`: an execution has read the clock up to where it stands at last.
-/

namespace EchoProbe

namespace Run.Machine

variable {σ : Type} {R : Reporter σ} {m m' start : Machine σ} {events seen : List Event}
  {limit : Instant}

/-- An interleaving in which the clock is read up to `limit`. -/
inductive InterleavingUpTo (R : Reporter σ) (start : Machine σ) (limit : Instant) :
    List Event → Machine σ → Prop
  | refl (early : start.clock ≤ limit) : InterleavingUpTo R start limit [] start
  | step {events seen : List Event} {m m' : Machine σ} (a : Action)
      (before : InterleavingUpTo R start limit events m)
      (early : ∀ now, a.reading? = some now → now ≤ limit)
      (taken : m.stepAnytime R a = some (m', seen)) :
      InterleavingUpTo R start limit (events ++ seen) m'

theorem InterleavingUpTo.interleaving (run : InterleavingUpTo R start limit events m) :
    Interleaving R start events m := by
  induction run with
  | refl => exact .refl
  | step a before early taken ih => exact ih.step a taken

theorem InterleavingUpTo.mono {later : Instant} (hle : limit ≤ later)
    (run : InterleavingUpTo R start limit events m) : InterleavingUpTo R start later events m := by
  induction run with
  | refl early => exact .refl (Int.le_trans early hle)
  | step a before early taken ih =>
    exact ih.step a (fun now hnow => Int.le_trans (early now hnow) hle) taken

/-- A step makes a move at its own reading of the clock, or at the latest one. -/
theorem step_cases_upTo {a : Action} (hclock : m.clock ≤ limit)
    (early : ∀ now, a.reading? = some now → now ≤ limit)
    (taken : m.stepAnytime R a = some (m', seen)) :
    ∃ now, now ≤ limit ∧ Move R { m with clock := now } m' seen ∧ m'.clock = now := by
  unfold stepAnytime at taken
  split at taken
  · have hreading : ∀ now, a.reading? = some now → now = m.clock := by simp [*]
    exact ⟨m.clock, hclock, move_of_stepAt taken hreading, clock_of_stepAt taken hreading⟩
  · rename_i now hnow
    have hreading : ∀ t, a.reading? = some t → t = now := by simp [*]
    exact ⟨now, early now hnow, move_of_stepAt taken hreading, clock_of_stepAt taken hreading⟩

theorem InterleavingUpTo.clock_le (run : InterleavingUpTo R start limit events m) :
    m.clock ≤ limit := by
  induction run with
  | refl early => exact early
  | step a before early taken ih =>
    obtain ⟨now, hnow, -, hclock⟩ := step_cases_upTo ih early taken
    rwa [hclock]

/-- An execution reads the clock up to where it stands at last. -/
theorem Execution.upTo (run : Execution R start events m) :
    InterleavingUpTo R start m.clock events m := by
  induction run with
  | refl => exact .refl (Int.le_refl _)
  | @step events seen m m' a before taken ih =>
    have hstep := stepAnytime_of_step taken
    unfold Machine.step at taken
    split at taken
    · have hclock := clock_of_stepAt taken (by simp [*])
      rw [hclock]
      exact ih.step a (by simp [*]) hstep
    · rename_i now hnow
      split at taken
      · have hclock : m'.clock = now := clock_of_stepAt taken (by simp [*])
        rw [hclock]
        refine (ih.mono ‹m.clock ≤ now›).step a ?_ hstep
        intro t ht
        rw [hnow] at ht
        exact Int.le_of_eq (congrArg Time.nanos (Option.some.inj ht)).symm
      · cases taken

end Run.Machine

end EchoProbe
