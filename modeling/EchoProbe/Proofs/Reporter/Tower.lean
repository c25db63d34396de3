import EchoProbe.Proofs.Statistics.Order

/-!
# Towers of reporters

Counting reporters are stacked on a reporter, each passing on to the next one below. Whatever a
tower is told, its topmost reporter does its own part, and then all the others do theirs, as the
tower of one storey less does (`tell_succ`). At the bottom, the reporter does what it does without
a tower (`tell_zero`).

So every storey counts as if it was told everything itself (`storey_stateAfter`), and the reporter
at the bottom hears everything (`bottom_stateAfter`): nothing is dropped, told twice, or told in
another order. `tower_counts_and_passes_on` sums this up.
-/

namespace EchoProbe

namespace Reporter

/-- What reporters are told: that a run starts, or an outcome. When a run starts, each reads the
    clock itself: it shows `readings 0` to the reporter at the bottom, `readings 1` to the one that
    passes on to it, and so on. -/
inductive Call
  | start (readings : Nat → Instant)
  | report (outcome : Outcome)

namespace Call

/-- The lines that a counting reporter logs. -/
def lines : Call → List LogLine
  | start _ => []
  | report o => Reporter.lines o

/-- The record that is left: the round trip of a reply, or a loss. -/
def record? : Call → Option Record
  | start _ => none
  | report (.reply r) => some (.received r.roundTrip)
  | report (.failure f) => if f.kind.isLoss then some .lost else none

/-- When the clocks of the reporters started, if they had started at `origins` before. -/
def restarted (origins : Nat → Instant) : Call → Nat → Instant
  | start readings => readings
  | report _ => origins

theorem record?_report (o : Outcome) : (report o).record? = o.record? := by
  cases o <;> rfl

end Call

variable {σ : Type}

/-- What a reporter does. -/
def hear (R : Reporter σ) : Call → σ → Reported σ
  | .start readings, s => { state := R.start (readings 0) s }
  | .report o, s => R.report o s

/-- Tells the reporters of a tower and the one at the bottom that a run starts. -/
def startEach (R : Reporter σ) (readings : Nat → Instant) : (n : Nat) → Tower σ n → Tower σ n
  | 0, s => R.start (readings 0) s
  | n + 1, (own, rest) => (own.restart (readings (n + 1)), startEach R readings n rest)

/-- What a tower does. -/
def tell (R : Reporter σ) (n : Nat) : Call → Tower σ n → Reported (Tower σ n)
  | .start readings, t => { state := startEach R readings n t }
  | .report o, t => (tower R n).report o t

/-- The state after several calls. -/
def stateAfter (respond : Call → σ → Reported σ) (calls : List Call) (s : σ) : σ :=
  calls.foldl (fun s c => (respond c s).state) s

/-- A tower of new reporters on one in the state `s`. -/
def newTower (created : Nat → Instant) (s : σ) : (n : Nat) → Tower σ n
  | 0 => s
  | n + 1 => (.startingAt (created (n + 1)), newTower created s n)

/-- The state of the reporter at the bottom. -/
def bottom : (n : Nat) → Tower σ n → σ
  | 0, s => s
  | n + 1, (_, rest) => bottom n rest

/-- The statistics of the reporters of a tower, numbered from below. -/
def storey : (n : Nat) → Tower σ n → Fin n → Statistics
  | 0, _, i => i.elim0
  | n + 1, (own, rest), i => Fin.lastCases own (storey n rest) i

end Reporter

namespace Statistics

open Reporter

/-- The statistics of a reporter after it was told something; it is the one with that number. -/
def told (s : Statistics) (number : Nat) : Call → Statistics
  | .start readings => s.restart (readings number)
  | .report o => s.addOutcome o

/-- A call may leave a record, and changes nothing else but the start of the clock. -/
theorem told_eq (origins : Nat → Instant) (records : Array Record) (number : Nat) (c : Call) :
    (⟨origins number, records⟩ : Statistics).told number c =
      ⟨c.restarted origins number, records ++ c.record?.toList.toArray⟩ := by
  cases c with
  | start readings => exact congrArg _ Array.append_empty.symm
  | report o =>
    rw [told, addOutcome, Call.record?_report]
    cases o.record? with
    | none => exact congrArg _ Array.append_empty.symm
    | some r => rfl

/-- What a counting reporter has kept after several calls, started and filled as it may be before:
    the records that the calls leave come behind those that it had. -/
theorem foldl_told (origins : Nat → Instant) (records : Array Record) (number : Nat)
    (calls : List Call) :
    calls.foldl (told · number ·) ⟨origins number, records⟩ =
      ⟨calls.foldl Call.restarted origins number,
        records ++ (calls.filterMap Call.record?).toArray⟩ := by
  induction calls generalizing origins records with
  | nil => exact congrArg _ Array.append_empty.symm
  | cons c calls ih =>
    rw [List.foldl_cons, told_eq, ih, List.foldl_cons, Array.append_assoc, List.filterMap_cons]
    cases c.record? <;> simp

end Statistics

namespace Reporter

variable {σ : Type} (R : Reporter σ) (n : Nat) (c : Call) (t : Tower σ n)

/-! ## One call -/

theorem tell_zero (s : σ) : R.tell 0 c s = R.hear c s := by
  cases c <;> rfl

/-- The topmost reporter does its part, and the tower below it does the rest. -/
theorem tell_succ (own : Statistics) :
    R.tell (n + 1) c (own, t) =
      { state := (own.told (n + 1) c, (R.tell n c t).state)
        log := c.lines ++ (R.tell n c t).log
        panicked := (R.tell n c t).panicked } := by
  cases c <;> rfl

/-- If the clock shows all of them the same, a tower starts as the reporter that it is. -/
theorem startEach_const (now : Instant) :
    startEach R (fun _ => now) n t = (tower R n).start now t := by
  induction n with
  | zero => rfl
  | succ n ih => exact congrArg (Prod.mk (t.1.restart now)) (ih t.2)

/-- The reporter at the bottom goes the way that it goes without a tower on it. -/
theorem bottom_tell : bottom n (R.tell n c t).state = (R.hear c (bottom n t)).state := by
  induction n with
  | zero => exact congrArg Reported.state (tell_zero R c t)
  | succ n ih =>
    obtain ⟨own, rest⟩ := t
    rw [tell_succ]
    exact ih rest

/-- A tower panics when the reporter at the bottom does. -/
theorem panicked_tell : (R.tell n c t).panicked = (R.hear c (bottom n t)).panicked := by
  induction n with
  | zero => exact congrArg Reported.panicked (tell_zero R c t)
  | succ n ih =>
    obtain ⟨own, rest⟩ := t
    rw [tell_succ]
    exact ih rest

/-- Each of the reporters logs its lines, from the top to the bottom. -/
theorem log_tell :
    (R.tell n c t).log =
      (List.replicate n c.lines).flatten ++ (R.hear c (bottom n t)).log := by
  induction n with
  | zero => exact congrArg Reported.log (tell_zero R c t)
  | succ n ih =>
    obtain ⟨own, rest⟩ := t
    rw [tell_succ, List.replicate_succ, List.flatten_cons, List.append_assoc]
    exact congrArg (c.lines ++ ·) (ih rest)

/-- Each storey goes its own way, whatever stands above and below it; it reads its own clock. -/
theorem storey_tell (i : Fin n) :
    storey n (R.tell n c t).state i = (storey n t i).told (i + 1) c := by
  induction n with
  | zero => exact i.elim0
  | succ n ih =>
    obtain ⟨own, rest⟩ := t
    rw [tell_succ]
    cases i using Fin.lastCases with
    -- The storey is the topmost one, or it is one of the tower below.
    | last => simp only [storey, Fin.lastCases_last, Fin.val_last]
    | cast i => simpa only [storey, Fin.lastCases_castSucc, Fin.val_castSucc] using ih rest i

/-! ## Several calls -/

variable (calls : List Call)

/-- The reporter at the bottom hears every call, each once and in their order. -/
theorem bottom_stateAfter :
    bottom n (stateAfter (R.tell n) calls t) = stateAfter R.hear calls (bottom n t) := by
  induction calls generalizing t with
  | nil => rfl
  | cons c calls ih =>
    have hrest := ih (R.tell n c t).state
    rwa [bottom_tell] at hrest

/-- Each storey counts as if it was told every call itself. -/
theorem storey_stateAfter (i : Fin n) :
    storey n (stateAfter (R.tell n) calls t) i =
      calls.foldl (Statistics.told · (i + 1) ·) (storey n t i) := by
  induction calls generalizing t with
  | nil => rfl
  | cons c calls ih =>
    have hrest := ih (R.tell n c t).state
    rwa [storey_tell] at hrest

theorem bottom_newTower (created : Nat → Instant) (s : σ) : bottom n (newTower created s n) = s := by
  induction n with
  | zero => rfl
  | succ n ih => exact ih

theorem storey_newTower (created : Nat → Instant) (s : σ) (i : Fin n) :
    storey n (newTower created s n) i = .startingAt (created (i + 1)) := by
  induction n with
  | zero => exact i.elim0
  | succ n ih =>
    cases i using Fin.lastCases with
    | last => simp only [newTower, storey, Fin.lastCases_last, Fin.val_last]
    | cast i => simpa only [newTower, storey, Fin.lastCases_castSucc, Fin.val_castSucc] using ih i

/-- However many counting reporters are stacked on a reporter, and whatever they are told: each of
    them has a record for every reply and for every loss that was reported, in this order, and no
    others. That a run starts changes only when their clocks started. The reporter at the bottom is
    in the state in which the same calls, in the same order, leave it without a tower. Whatever comes
    next, each of the reporters logs its lines, and then the one at the bottom logs its own; if
    that one panics, then so does the tower, and otherwise it does not. -/
theorem tower_counts_and_passes_on (created : Nat → Instant) (s : σ) :
    let t := stateAfter (R.tell n) calls (newTower created s n)
    let below := stateAfter R.hear calls s
    (∀ i : Fin n, storey n t i =
      ⟨calls.foldl Call.restarted created (i + 1), (calls.filterMap Call.record?).toArray⟩) ∧
    bottom n t = below ∧
    (∀ c, (R.tell n c t).log = (List.replicate n c.lines).flatten ++ (R.hear c below).log ∧
      (R.tell n c t).panicked = (R.hear c below).panicked) ∧
    (∀ now, (R.tell n (.start fun _ => now) t).state = (tower R n).start now t) := by
  intro t below
  have hbottom : bottom n t = below := by
    rw [bottom_stateAfter, bottom_newTower]
  refine ⟨fun i => ?_, hbottom, fun c => ⟨?_, ?_⟩, startEach_const R n t⟩
  · rw [storey_stateAfter, storey_newTower, Statistics.startingAt, Statistics.foldl_told,
      Array.empty_append]
  · rw [log_tell, hbottom]
  · rw [panicked_tell, hbottom]

/-- A timeout without a number is not logged, but it is recorded. -/
example : let c := Call.report (.failure ⟨.timeout, none, none⟩)
    c.lines = [] ∧ c.record? = some .lost :=
  ⟨rfl, rfl⟩

end Reporter

end EchoProbe
