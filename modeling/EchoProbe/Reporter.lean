import EchoProbe.Log
import EchoProbe.Statistics

/-!
# Reporters

A reporter is told when a run starts and then every outcome of it, one after the other.
It keeps a state of its own and may log; it may also panic, and then hears nothing more.

`counting next` logs each outcome, records it in its statistics and passes it on to
`next`. Such reporters can be stacked (`tower`).
-/

namespace EchoProbe

/-- What a reporter does with an outcome. -/
structure Reported (σ : Type) where
  state : σ
  log : List LogLine := []
  panicked : Bool := false

/-- A receiver of outcomes with states in `σ`. -/
structure Reporter (σ : Type) where
  /-- The run starts. -/
  start : Instant → σ → σ
  /-- An outcome. -/
  report : Outcome → σ → Reported σ

namespace Reporter

variable {σ : Type}

/-- A reporter that never panics. -/
def Steady (R : Reporter σ) : Prop := ∀ o s, (R.report o s).panicked = false

/-- The reporter that does not listen. -/
def silent : Reporter Unit := ⟨fun _ s => s, fun _ s => { state := s }⟩

/-- The reporter that applies a function to each outcome and does not ask when the run
    starts. -/
def ofFunction (f : Outcome → σ → σ) : Reporter σ := ⟨fun _ s => s, fun o s => { state := f o s }⟩

/-- The lines that tell the user about an outcome. A timeout is told by its number
    alone, and not at all without one. -/
def lines : Outcome → List LogLine
  | .reply r => [.info (s!"{r.size} bytes from {r.source}: icmp_seq={r.sequenceNumber} " ++
      s!"ttl={r.ttl} time={r.roundTrip}")]
  | .failure f =>
    if f.kind = .timeout then
      f.sequenceNumber.toList.map fun n => .warn s!"Request timeout for icmp_seq={n}"
    else [.warn (toString f)]

/-- Logs and records each outcome, then passes it on to `next`. -/
def counting (next : Reporter σ) : Reporter (Statistics × σ) where
  start now s := (s.1.restart now, next.start now s.2)
  report o s :=
    let passed := next.report o s.2
    { state := (s.1.addOutcome o, passed.state)
      log := lines o ++ passed.log
      panicked := passed.panicked }

/-- The states of `n` counting reporters over one with states in `σ`. -/
def Tower (σ : Type) : Nat → Type
  | 0 => σ
  | n + 1 => Statistics × Tower σ n

/-- `n` counting reporters, each passing on to the next and the last to `R`. -/
def tower (R : Reporter σ) : (n : Nat) → Reporter (Tower σ n)
  | 0 => R
  | n + 1 => counting (tower R n)

end Reporter

/-- What a recorder has heard. -/
structure Recording where
  starts : Nat := 0
  outcomes : Array Outcome := #[]

/-- The reporter that keeps everything. With `panicAt` it panics as soon as it has kept
    that many outcomes. -/
def recorder (panicAt : Option Nat) : Reporter Recording where
  start _ s := { s with starts := s.starts + 1 }
  report o s :=
    let s := { s with outcomes := s.outcomes.push o }
    { state := s, panicked := panicAt = some s.outcomes.size }

end EchoProbe
