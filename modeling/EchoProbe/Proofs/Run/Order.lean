import EchoProbe.Proofs.Run.Books

/-!
# The order of a run

The activities of a run come and go in an order. Nobody asks twice for a run, as the pinger
is idle only before the first time. The processor is not there before the sender has launched
it, drains the ledger only after the sender has halted it, and is gone before the sender
returns. Once the sender halts the processor, it records no more probes, so what was drained
stays empty. A probe that is being sent stays in the ledger under its identifier until it
leaves it for good.

* `Orderly`: all of this, as a property of one state;
* `Orderly.of_move`: every move keeps it;
* `Interleaving.orderly`: so it holds throughout every interleaving, and other invariants may
  rest on it (`Interleaving.invariant_of_orderly`).
-/

namespace EchoProbe.Run

/-- Whether the sender has launched the other activities. -/
def Sender.hasLaunched : Sender → Bool
  | absent | entered | launching => false
  | _ => true

/-- Whether the sender has halted the processor. -/
def Sender.hasHalted : Sender → Bool
  | joiningProcessor | closing | returning | returned _ => true
  | _ => false

/-- Whether the sender has seen the processor gone. -/
def Sender.hasJoined : Sender → Bool
  | closing | returning | returned _ => true
  | _ => false

def AfterReports.isFinish : AfterReports → Bool
  | finish => true
  | _ => false

/-- Whether the processor has begun to drain the ledger, or will do so next. -/
def Processor.isFinishing : Processor → Bool
  | draining | ended => true
  | reporting _ _ next => next.isFinish
  | _ => false

/-- Whether the processor has drained the ledger. -/
def Processor.hasDrained : Processor → Bool
  | ended => true
  | reporting _ _ next => next.isFinish
  | _ => false

theorem Processor.isFinishing_of_hasDrained {p : Processor} (h : p.hasDrained = true) :
    p.isFinishing = true := by
  cases p <;> first | exact h | cases h

theorem Processor.isFinishing_afterReports (outcomes : List Outcome) (next : AfterReports) :
    (afterReports outcomes next).isFinishing = next.isFinish := by
  cases outcomes <;> cases next <;> rfl

theorem Processor.hasDrained_afterReports (outcomes : List Outcome) (next : AfterReports) :
    (afterReports outcomes next).hasDrained = next.isFinish := by
  cases outcomes <;> cases next <;> rfl

namespace Machine

variable {σ : Type} {R : Reporter σ} {m m' : Machine σ} {seen : List Event}

/-- The activities are where the order of a run lets them be. -/
structure Orderly (m : Machine σ) : Prop where
  idle : m.phase = .idle → m.sender = .absent
  unlaunched : m.sender.hasLaunched = false → m.processor = .absent
  halted : m.processorHalted = true → m.sender.hasHalted = true
  finishing : m.processor.isFinishing = true → m.processorHalted = true
  drained : m.processor.hasDrained = true → m.ledger.requests = []
  joined : m.sender.hasJoined = true → m.processor.isGone = true
  held : ∀ r s, m.sender.request? = some r → m.ledger.find? r.identifier = some s → s = r

theorem phase_of_history {phases : List Phase} {phase : Phase} (h : m.history = phases ++ [phase]) :
    m.phase = phase := by
  simp [Machine.phase, h]

theorem phase_eq_idle_of_historyAfter {expected next : Phase} (hnext : next ≠ .idle)
    (hhistory : m'.history = m.historyAfter expected next) (h : m'.phase = .idle) :
    m.phase = .idle := by
  rw [historyAfter] at hhistory
  split at hhistory
  · exact absurd ((phase_of_history hhistory).symm.trans h) hnext
  · rwa [Machine.phase, hhistory] at h

/-- A pinger that has not been asked for a run is in order. -/
theorem orderly_init (settings : Settings) (filler : Wire.Filler) (reporter : σ) (flags : Flags)
    (handle : Handle) (clock : Instant) :
    Orderly (init settings filler reporter flags handle clock) where
  idle _ := rfl
  unlaunched _ := rfl
  halted h := by cases h
  finishing h := by cases h
  drained h := by cases h
  joined h := by cases h
  held r s h := by cases h

namespace Orderly

/-- Before the processor is halted, it is not about to drain the ledger. -/
theorem not_finishing (h : Orderly m) (running : m.sender.hasHalted = false) :
    m.processorHalted = false ∧ m.processor.isFinishing = false := by
  have hhalted : m.processorHalted = false := by
    refine eq_false_of_ne_true fun hhalted => ?_
    rw [h.halted hhalted] at running
    cases running
  refine ⟨hhalted, eq_false_of_ne_true fun hfinishing => ?_⟩
  rw [h.finishing hfinishing] at hhalted
  cases hhalted

theorem of_callerMove (h : Orderly m) (move : CallerMove m m' seen) : Orderly m' := by
  cases move with
  | enter host target idle =>
    have hsender := h.idle idle
    -- Before the run nobody is there, and nobody has halted anybody.
    have hprocessor : m.processor = .absent := h.unlaunched (by rw [hsender]; rfl)
    obtain ⟨hhalted, -⟩ := h.not_finishing (by rw [hsender]; rfl)
    exact
      { idle := fun hidle => by rw [phase_of_history rfl] at hidle; cases hidle
        unlaunched := fun _ => hprocessor
        halted := fun hhalted' => by rw [hhalted] at hhalted'; cases hhalted'
        finishing := h.finishing
        drained := h.drained
        joined := fun hjoined => by cases hjoined
        held := fun r s hr => by cases hr }
  | refuse busy => exact h
  | unresolved host => exact h
  | beginStop =>
    exact { h with
      idle := fun hidle => h.idle (phase_eq_idle_of_historyAfter (by decide) rfl hidle) }
  | completeStop n pending => exact { h with }
  | raise handle => exact { h with }

/-- The sender goes on by itself. -/
theorem of_sender (h : Orderly m) (hprocessor : m'.processor = m.processor)
    (hkept : m'.processorHalted = m.processorHalted) (hledger : m'.ledger ⊆ m.ledger)
    (hphase : m'.phase ≠ .idle)
    (hlaunched : m'.sender.hasLaunched = false → m.sender.hasLaunched = false)
    (hhalted : m.sender.hasHalted = true → m'.sender.hasHalted = true)
    (hjoined : m'.sender.hasJoined = true → m.processor.isGone = true)
    (hheld : ∀ r, m'.sender.request? = some r → m.sender.request? = some r) : Orderly m' where
  idle hidle := absurd hidle hphase
  unlaunched hl := hprocessor.trans (h.unlaunched (hlaunched hl))
  halted hm := hhalted (h.halted (hkept.symm.trans hm))
  finishing hf := hkept.trans (h.finishing (hprocessor ▸ hf))
  drained hd := Ledger.requests_eq_nil_of_subset hledger (h.drained (hprocessor ▸ hd))
  joined hj := (congrArg Processor.isGone hprocessor).trans (hjoined hj)
  held r s hr hs := h.held r s (hheld r hr) (hledger _ _ hs)

/-- The processor goes on by itself or takes a packet. -/
theorem of_processor (h : Orderly m) (there : m.processor ≠ .absent)
    (busy : m.processor.isGone = false) (hsender : m'.sender = m.sender)
    (hkept : m'.processorHalted = m.processorHalted) (hledger : m'.ledger ⊆ m.ledger)
    (hphase : m'.phase = m.phase)
    (hfinishing : m'.processor.isFinishing = true → m.processorHalted = true)
    (hdrained : m'.processor.hasDrained = true → m'.ledger.requests = []) : Orderly m' where
  idle hidle := hsender.trans (h.idle (hphase.symm.trans hidle))
  unlaunched hl := absurd (h.unlaunched (hsender ▸ hl)) there
  halted hm := (congrArg Sender.hasHalted hsender).trans (h.halted (hkept.symm.trans hm))
  finishing hf := hkept.trans (hfinishing hf)
  drained := hdrained
  joined hj := by
    -- A processor that goes on is not gone, so the sender still waits for it.
    rw [h.joined (hsender ▸ hj)] at busy
    cases busy
  held r s hr hs := h.held r s (hsender ▸ hr) (hledger _ _ hs)

theorem phase_ne_idle (h : Orderly m) (there : m.sender ≠ .absent) : m.phase ≠ .idle :=
  fun hidle => there (h.idle hidle)

theorem of_senderMove (h : Orderly m) (move : SenderMove R m m' seen) : Orderly m' := by
  have hthere : m.sender ≠ .absent := by
    cases move <;> simp [*]
  have hphase : m'.phase ≠ .idle := by
    have hbefore := h.phase_ne_idle hthere
    cases move
    case leave => exact fun hidle => hbefore (phase_eq_idle_of_historyAfter (by decide) rfl hidle)
    case close =>
      rw [phase_of_history rfl]
      decide
    all_goals exact hbefore
  cases move
  case launch place =>
    -- The processor is new, and nobody has halted it.
    obtain ⟨hhalted, -⟩ := h.not_finishing (by rw [place]; rfl)
    exact
      { idle := fun hidle => absurd hidle hphase
        unlaunched := fun hl => by cases hl
        halted := fun hhalted' => by rw [hhalted] at hhalted'; cases hhalted'
        finishing := fun hf => by cases hf
        drained := fun hd => by cases hd
        joined := fun hj => by cases hj
        held := fun r s hr => by cases hr }
  case record tick sendTime draws request ledger place recorded =>
    -- The ledger grows, but it is not drained yet.
    obtain ⟨hhalted, hfinishing⟩ := h.not_finishing (by rw [place]; rfl)
    obtain ⟨-, hrecord⟩ := Ledger.insert_eq_ok recorded
    have hfound := Ledger.find?_of_record hrecord
    exact
      { idle := fun hidle => absurd hidle hphase
        unlaunched := fun hl => by cases hl
        halted := fun hhalted' => by rw [hhalted] at hhalted'; cases hhalted'
        finishing := h.finishing
        drained := fun hd => by
          rw [Processor.isFinishing_of_hasDrained hd] at hfinishing
          cases hfinishing
        joined := fun hj => by cases hj
        held := fun r s hr hs => by
          obtain rfl := Option.some.inj hr
          exact Option.some.inj (hs.symm.trans hfound) }
  case haltProcessor place =>
    exact
      { idle := fun hidle => absurd hidle hphase
        unlaunched := fun hl => by cases hl
        halted := fun _ => rfl
        finishing := fun _ => rfl
        drained := h.drained
        joined := fun hj => by cases hj
        held := fun r s hr => by cases hr }
  case retract request e place =>
    refine h.of_sender rfl rfl (Ledger.erase_subset _ _) hphase ?_ ?_ ?_ ?_
    all_goals simp [place, Sender.hasLaunched, Sender.hasHalted, Sender.hasJoined, Sender.request?]
  case joinProcessor place gone =>
    refine h.of_sender rfl rfl (Ledger.Subset.refl _) hphase ?_ ?_ (fun _ => by rw [gone]; rfl) ?_
    all_goals simp [place, Sender.hasLaunched, Sender.hasHalted, Sender.request?]
  case joinDeadProcessor place gone =>
    refine h.of_sender rfl rfl (Ledger.Subset.refl _) hphase ?_ ?_ (fun _ => by rw [gone]; rfl) ?_
    all_goals simp [place, Sender.hasLaunched, Sender.hasHalted, Sender.request?]
  case close place =>
    refine h.of_sender rfl rfl (Ledger.Subset.refl _) hphase ?_ ?_
      (fun _ => h.joined (by rw [place]; rfl)) ?_
    all_goals simp [place, Sender.hasLaunched, Sender.hasHalted, Sender.request?]
  case «return» place result hresult =>
    refine h.of_sender rfl rfl (Ledger.Subset.refl _) hphase ?_ ?_
      (fun _ => h.joined (by rw [place]; rfl)) ?_
    all_goals simp [place, Sender.hasLaunched, Sender.hasHalted, Sender.request?]
  all_goals
    refine h.of_sender rfl rfl (Ledger.Subset.refl _) hphase ?_ ?_ ?_ ?_
    all_goals simp [*, Sender.hasLaunched, Sender.hasHalted, Sender.hasJoined, Sender.request?]

theorem of_receiverMove (h : Orderly m) (move : ReceiverMove m m' seen) : Orderly m' := by
  cases move
  case handOver packet place waiting =>
    refine h.of_processor ?_ ?_ rfl rfl (Ledger.Subset.refl _) rfl ?_ ?_
    all_goals simp [waiting, Processor.isGone, Processor.isFinishing, Processor.hasDrained]
  all_goals exact { h with }

theorem of_processorMove (h : Orderly m) (move : ProcessorMove R m m' seen) : Orderly m' := by
  have hthere : m.processor ≠ .absent := by
    cases move
    case halt place halted => rcases place with place | ⟨place, -⟩ <;> simp [place]
    all_goals simp [*]
  have hbusy : m.processor.isGone = false := by
    cases move
    case halt place halted =>
      rcases place with place | ⟨place, -⟩ <;> simp [place, Processor.isGone]
    all_goals simp [*, Processor.isGone]
  cases move
  case halt place halted =>
    exact h.of_processor hthere hbusy rfl rfl (Ledger.Subset.refl _) rfl (fun _ => halted)
      (fun hd => by cases hd)
  case classify packet place =>
    exact h.of_processor hthere hbusy rfl rfl (Ledger.classify_subset _ _) rfl
      (fun hf => by cases hf) (fun hd => by cases hd)
  case report outcome others next place alive =>
    refine h.of_processor hthere hbusy rfl rfl (Ledger.Subset.refl _) rfl ?_ ?_
    · rw [Processor.isFinishing_afterReports]
      exact fun hf => h.finishing (by rw [place]; exact hf)
    · rw [Processor.hasDrained_afterReports]
      exact fun hd => h.drained (by rw [place]; exact hd)
  case sweep place =>
    refine h.of_processor hthere hbusy rfl rfl (Ledger.sweep_subset _ _ _) rfl ?_ ?_
    · rw [Processor.isFinishing_afterReports]
      exact fun hf => by cases hf
    · rw [Processor.hasDrained_afterReports]
      exact fun hd => by cases hd
  case drain place =>
    exact h.of_processor hthere hbusy rfl rfl (Ledger.drain_subset _) rfl
      (fun _ => h.finishing (by rw [place]; rfl)) (fun _ => Ledger.requests_drain_snd _)
  all_goals
    exact h.of_processor hthere hbusy rfl rfl (Ledger.Subset.refl _) rfl
      (fun hf => by cases hf) (fun hd => by cases hd)

/-- Every move keeps the order. -/
theorem of_move (h : Orderly m) (move : Move R m m' seen) : Orderly m' := by
  cases move with
  | clock now => exact { h with }
  | caller move => exact h.of_callerMove move
  | sender move => exact h.of_senderMove move
  | receiver move => exact h.of_receiverMove move
  | processor move => exact h.of_processorMove move

end Orderly

/-- The order holds throughout every interleaving. -/
theorem Interleaving.orderly {settings : Settings} {filler : Wire.Filler} {reporter : σ}
    {flags : Flags} {handle : Handle} {clock : Instant} {events : List Event}
    (run : Interleaving R (init settings filler reporter flags handle clock) events m) :
    Orderly m :=
  run.invariant (P := fun _ m => Orderly m)
    (orderly_init settings filler reporter flags handle clock) fun _ _ _ _ h move => h.of_move move

/-- What holds at the start and is kept by every move out of an orderly state holds of every
    interleaving. -/
theorem Interleaving.invariant_of_orderly {settings : Settings} {filler : Wire.Filler}
    {reporter : σ} {flags : Flags} {handle : Handle} {clock : Instant} {P : List Event → Machine σ → Prop}
    (hstart : P [] (init settings filler reporter flags handle clock))
    (hmove : ∀ events m m' seen, Orderly m → P events m → Move R m m' seen → P (events ++ seen) m')
    {events : List Event}
    (run : Interleaving R (init settings filler reporter flags handle clock) events m) :
    P events m := by
  have h : Orderly m ∧ P events m := by
    refine run.invariant (P := fun events m => Orderly m ∧ P events m)
      ⟨orderly_init settings filler reporter flags handle clock, hstart⟩ ?_
    intro events m m' seen h move
    exact ⟨h.1.of_move move, hmove events m m' seen h.1 h.2 move⟩
  exact h.2

end Machine

end EchoProbe.Run
