import EchoProbe.Proofs.Ledger.History
import EchoProbe.Proofs.Run.Delivery
import EchoProbe.Proofs.Run.Stopping

/-!
# The end of a run

A run that is stopped can always go on to its end: no activity waits in vain for another. Its
distance from the end (`distance`) adds up what is left to do for the sender, for the receiver once
it is halted, and for the processor, and the probes that are still in flight. As long as the run has
not ended, somebody can take a step that comes closer (`exists_closer`), whatever the reporter does.

The end is that the run returns, or that the next tick lies beyond the end of the clock and the
sender dies. The clock may stand still meanwhile, and then only a sender dies that was not in time
(`InTime`) when the run was stopped.

* `exists_closer`, `exists_end`: one step towards the end, and all of them.
-/

namespace EchoProbe.Run

/-- Whether the sender makes no more steps. -/
def Sender.isOver : Sender → Bool
  | returned _ | stranded => true
  | _ => false

/-- The tick from which the sender looks for the next one, unless it is to look at the flag
    first. -/
def Sender.lastTick? : Sender → Option Instant
  | recording tick | attempting tick _ _ _ | ticking tick => some tick
  | _ => none

/-- What is left to do for the sender of a run that is stopped. The ledger may grow by the probe
    that is being recorded. -/
def Sender.rank : Sender → Nat
  | recording _ => 14
  | attempting _ _ _ _ => 12
  | entered | ticking _ => 11
  | launching | waiting _ | retracting _ _ => 10
  | looking _ | failing _ => 9
  | leaving => 8
  | haltingReceiver => 7
  | joiningReceiver => 6
  | mourning => 5
  | haltingProcessor => 4
  | joiningProcessor => 3
  | closing => 2
  | returning => 1
  | absent | returned _ | stranded => 0

/-- What is left to do for a receiver that is halted. The packet in its hands makes the processor
    begin another round. -/
def Receiver.rank : Receiver → Nat
  | absent | handing _ => 8
  | reading => 2
  | polling | failing _ => 1
  | ended | panicked => 0

/-- What is left to do after the outcomes at hand. -/
def AfterReports.rank : AfterReports → Nat
  | check => 6
  | rearm => 4
  | finish => 0

/-- What is left to do for the processor, its reports included. -/
def Processor.rank : Processor → Nat
  | absent => 9
  | holding _ => 8
  | checking => 6
  | sweeping => 5
  | starting | rearming => 4
  | turning => 3
  | waiting => 2
  | draining => 1
  | reporting _ others next => others.length + 1 + next.rank
  | ended | panicked => 0

theorem Processor.rank_afterReports (outcomes : List Outcome) (next : AfterReports) :
    (afterReports outcomes next).rank = outcomes.length + next.rank := by
  cases outcomes with
  | cons outcome others => rfl
  | nil => cases next <;> rfl

theorem Processor.afterReports_ne_absent (outcomes : List Outcome) (next : AfterReports) :
    afterReports outcomes next ≠ .absent := by
  cases outcomes <;> cases next <;> simp [afterReports]

namespace Machine

variable {σ : Type} {R : Reporter σ} {m m' : Machine σ} {seen : List Event}

/-- How far a run that is stopped is from its end. -/
def distance (m : Machine σ) : Nat :=
  m.sender.rank + m.receiver.rank + m.processor.rank + m.ledger.size

/-- Somebody can take a step that comes closer to the end, while the clock stands still. -/
def CanApproach (R : Reporter σ) (m : Machine σ) : Prop :=
  ∃ a m' seen, m.step R a = some (m', seen) ∧ Move R m m' seen ∧ m'.clock = m.clock ∧
    m'.distance < m.distance

theorem CanApproach.of_step {a : Action} {next : Next σ} (taken : m.stepAt R a = some next)
    (standing : a.reading?.getD m.clock = m.clock) (closer : next.1.distance < m.distance) :
    CanApproach R m := by
  have reading : ∀ now, a.reading? = some now → now = m.clock := fun now h => by
    simpa [h] using standing
  exact ⟨a, next.1, next.2, (step_of_standing reading).trans taken, move_of_stepAt taken reading,
    clock_of_stepAt taken reading, closer⟩

/-! ## Who can go on -/

/-- The processor can go on as long as it is there and does not wait for a packet. -/
theorem canApproach_of_processor (there : m.processor ≠ .absent)
    (busy : m.processor.isGone = false) (occupied : m.processor ≠ .waiting) :
    CanApproach R m := by
  cases h : m.processor with
  | absent => exact absurd h there
  | waiting => exact absurd h occupied
  | ended | panicked =>
    rw [h] at busy
    cases busy
  | starting =>
    refine .of_step (a := .processor (.start m.clock))
      (by simp only [stepAt, stepProcessor, h]; rfl) rfl ?_
    simp [distance, h, Processor.rank]
  | turning =>
    cases hhalted : m.processorHalted with
    | true =>
      refine .of_step (a := .processor .turn)
        (by simp only [stepAt, stepProcessor, h, hhalted]; rfl) rfl ?_
      simp [distance, h, Processor.rank]
    | false =>
      refine .of_step (a := .processor .turn)
        (by simp only [stepAt, stepProcessor, h, hhalted]; rfl) rfl ?_
      simp [distance, h, Processor.rank]
  | holding packet =>
    refine .of_step (a := .processor .classify)
      (by simp only [stepAt, stepProcessor, h]; rfl) rfl ?_
    have hsize := m.ledger.size_classify_le packet
    simp only [distance, h, Processor.rank, AfterReports.rank, List.length_nil]
    omega
  | reporting outcome others next =>
    cases hdead : (R.report outcome m.reporter).panicked with
    | true =>
      refine .of_step (a := .processor .report)
        (by simp only [stepAt, stepProcessor, h, hdead]; rfl) rfl ?_
      simp only [distance, h, ↓reduceIte, Processor.rank]
      omega
    | false =>
      refine .of_step (a := .processor .report)
        (by simp only [stepAt, stepProcessor, h, hdead]; rfl) rfl ?_
      simp only [distance, h, Bool.false_eq_true, ↓reduceIte, Processor.rank_afterReports]
      simp only [Processor.rank]
      omega
  | checking =>
    by_cases hdue : sweepPause.nanos ≤ (m.clock.since m.lastSweep).nanos
    · refine .of_step (a := .processor (.check m.clock))
        (by simp only [stepAt, stepProcessor, h, hdue]; rfl) rfl ?_
      simp [distance, h, Processor.rank]
    · refine .of_step (a := .processor (.check m.clock))
        (by simp only [stepAt, stepProcessor, h, hdue]; rfl) rfl ?_
      simp [distance, h, Processor.rank]
  | sweeping =>
    refine .of_step (a := .processor (.sweep m.clock))
      (by simp only [stepAt, stepProcessor, h]; rfl) rfl ?_
    have hsize := m.ledger.length_sweep m.clock m.settings.maxRtt
    simp only [distance, h, Processor.rank_afterReports, List.length_map]
    simp only [Processor.rank, AfterReports.rank]
    omega
  | rearming =>
    refine .of_step (a := .processor (.rearm m.clock))
      (by simp only [stepAt, stepProcessor, h]; rfl) rfl ?_
    simp [distance, h, Processor.rank]
  | draining =>
    refine .of_step (a := .processor .drain)
      (by simp only [stepAt, stepProcessor, h]; rfl) rfl ?_
    simp only [distance, h, Processor.rank_afterReports, List.length_map, Ledger.length_drain,
      Ledger.size_drain]
    simp only [Processor.rank, AfterReports.rank]
    omega

/-- A processor that is halted can go on until it is gone, once the receiver is gone. -/
theorem canApproach_of_halted (there : m.processor ≠ .absent) (busy : m.processor.isGone = false)
    (halted : m.processorHalted = true) (gone : m.receiver.isGone = true) : CanApproach R m := by
  by_cases h : m.processor = .waiting
  · refine .of_step (a := .processor .disconnect)
      (by simp only [stepAt, stepProcessor, h, gone, halted]; rfl) rfl ?_
    simp [distance, h, Processor.rank]
  · exact canApproach_of_processor there busy h

/-- A receiver that is halted can go on until it is gone, or else the processor can, for which it
    waits. -/
theorem canApproach_of_receiver (there : m.receiver ≠ .absent) (busy : m.receiver.isGone = false)
    (halted : m.receiverHalted = true) (company : m.processor ≠ .absent) : CanApproach R m := by
  cases h : m.receiver with
  | absent => exact absurd h there
  | ended | panicked =>
    rw [h] at busy
    cases busy
  | polling =>
    refine .of_step (a := .receiver .poll)
      (by simp only [stepAt, stepReceiver, h, halted]; rfl) rfl ?_
    simp [distance, h, Receiver.rank]
  | reading =>
    -- Nothing arrives in time.
    let silence : ReadResult :=
      .returned (.error (.plain .wouldBlock)) (List.replicate bufferSize 0)
    have hsize : (List.replicate bufferSize (0 : UInt8)).length = bufferSize :=
      List.length_replicate
    have hharmless : ((TransportError.plain .wouldBlock).isSilence ||
        (TransportError.plain .wouldBlock).isUnreadable) = true := by decide
    refine .of_step (a := .receiver (.read silence m.clock default))
      (by simp only [stepAt, stepReceiver, h, silence, hsize]; rfl) rfl ?_
    simp [distance, afterRead, hharmless, h, Receiver.rank]
  | handing packet =>
    by_cases hwaiting : m.processor = .waiting
    · refine .of_step (a := .receiver .handOver)
        (by simp only [stepAt, stepReceiver, h, hwaiting]; rfl) rfl ?_
      simp only [distance, h, hwaiting, Receiver.rank, Processor.rank]
      omega
    · cases hgone : m.processor.isGone with
      | true =>
        refine .of_step (a := .receiver .abandon)
          (by simp only [stepAt, stepReceiver, h, hgone]; rfl) rfl ?_
        simp [distance, h, Receiver.rank]
      | false => exact canApproach_of_processor company hgone hwaiting
  | failing e =>
    refine .of_step (a := .receiver .fail)
      (by simp only [stepAt, stepReceiver, h]; rfl) rfl ?_
    simp [distance, h, Receiver.rank, fail, raise]

/-- The sender of a run that is stopped can go on, unless it waits for another activity. -/
theorem canApproach_of_sender (stopped : m.isStopped = true) (there : m.sender ≠ .absent)
    (busy : m.sender.isOver = false)
    (alone : m.sender.hasLaunched = false → m.receiver = .absent ∧ m.processor = .absent)
    (receiver : m.sender = .joiningReceiver → m.receiver.isGone = true)
    (processor : m.sender = .joiningProcessor → m.processor.isGone = true) : CanApproach R m := by
  cases h : m.sender with
  | absent => exact absurd h there
  | returned result =>
    rw [h] at busy
    cases busy
  | stranded =>
    rw [h] at busy
    cases busy
  | entered =>
    refine .of_step (a := .sender (.start m.clock))
      (by simp only [stepAt, stepSender, h]; rfl) rfl ?_
    simp [distance, h, Sender.rank]
  | launching =>
    refine .of_step (a := .sender (.launch m.clock))
      (by simp only [stepAt, stepSender, h]; rfl) rfl ?_
    obtain ⟨hreceiver, hprocessor⟩ := alone (by rw [h]; rfl)
    simp [distance, h, hreceiver, hprocessor, Sender.rank, Receiver.rank, Processor.rank]
  | looking tick =>
    refine .of_step (a := .sender .look)
      (by simp only [stepAt, stepSender, h, stopped]; rfl) rfl ?_
    simp [distance, h, Sender.rank]
  | recording tick =>
    by_cases hfull : Identifier.count ≤ m.ledger.size
    · have hinsert : m.ledger.insert [] m.target m.clock = .error .full := if_pos hfull
      refine .of_step (a := .sender (.record default m.clock []))
        (by simp only [stepAt, stepSender, h, hinsert]; rfl) rfl ?_
      simp [distance, h, Sender.rank]
    · -- All identifiers are drawn, so one of them is free.
      obtain ⟨i, hi⟩ := Option.isSome_iff_exists.1
        (Ledger.isSome_firstFree?_all (Nat.lt_of_not_le hfull))
      have hinsert : m.ledger.insert Identifier.all m.target m.clock =
          .ok (some (m.ledger.record i m.target m.clock)) := by
        rw [Ledger.insert, if_neg hfull, hi]
        rfl
      have hsize := Ledger.size_record (Ledger.firstFree?_eq_some hi) m.target m.clock
      refine .of_step (a := .sender (.record default m.clock Identifier.all))
        (by simp only [stepAt, stepSender, h, hinsert]; rfl) rfl ?_
      simp only [distance, h, hsize, Sender.rank]
      omega
  | attempting tick request bytes attempt =>
    refine .of_step (a := .sender (.attempt (.ok ())))
      (by simp only [stepAt, stepSender, h]; rfl) rfl ?_
    simp only [afterAttempt, SendResult.next]
    split <;> simp [distance, h, Sender.rank]
  | retracting request e =>
    refine .of_step (a := .sender .retract)
      (by simp only [stepAt, stepSender, h]; rfl) rfl ?_
    have hsize := m.ledger.size_erase_le request.identifier
    simp only [distance, h, Sender.rank]
    omega
  | failing e =>
    refine .of_step (a := .sender .fail)
      (by simp only [stepAt, stepSender, h, failAs]; rfl) rfl ?_
    simp [distance, h, fail, raise, Sender.rank]
  | ticking tick =>
    cases hfound : catchUp m.settings.interval tick m.clock with
    | none =>
      refine .of_step (a := .sender (.tick m.clock))
        (by simp only [stepAt, stepSender, h, hfound]; rfl) rfl ?_
      simp [distance, h, Sender.rank]
    | some next =>
      refine .of_step (a := .sender (.tick m.clock))
        (by simp only [stepAt, stepSender, h, hfound]; rfl) rfl ?_
      simp [distance, h, Sender.rank]
  | waiting tick =>
    have hwoken := Flags.waitUntil_of_isStopped stopped tick m.clock
    refine .of_step (a := .sender (.wake m.clock))
      (by simp only [stepAt, stepSender, h, hwoken]; rfl) rfl ?_
    simp [distance, h, Sender.rank]
  | leaving =>
    refine .of_step (a := .sender .leave)
      (by simp only [stepAt, stepSender, h, enterAfter_eq]; rfl) rfl ?_
    simp [distance, h, Sender.rank]
  | haltingReceiver =>
    refine .of_step (a := .sender .haltReceiver)
      (by simp only [stepAt, stepSender, h]; rfl) rfl ?_
    simp [distance, h, Sender.rank]
  | joiningReceiver =>
    have hgone := receiver h
    cases hreceiver : m.receiver <;> rw [hreceiver] at hgone <;> cases hgone
    all_goals
      refine .of_step (a := .sender .joinReceiver)
        (by simp only [stepAt, stepSender, h, hreceiver]; rfl) rfl ?_
      simp [distance, h, hreceiver, Sender.rank]
  | mourning =>
    refine .of_step (a := .sender .fail)
      (by simp only [stepAt, stepSender, h, failAs]; rfl) rfl ?_
    simp [distance, h, fail, raise, Sender.rank]
  | haltingProcessor =>
    refine .of_step (a := .sender .haltProcessor)
      (by simp only [stepAt, stepSender, h]; rfl) rfl ?_
    simp [distance, h, Sender.rank]
  | joiningProcessor =>
    have hgone := processor h
    cases hprocessor : m.processor <;> rw [hprocessor] at hgone <;> cases hgone
    all_goals
      refine .of_step (a := .sender .joinProcessor)
        (by simp only [stepAt, stepSender, h, hprocessor]; rfl) rfl ?_
      simp [distance, h, hprocessor, Sender.rank]
  | closing =>
    refine .of_step (a := .sender .close)
      (by simp only [stepAt, stepSender, h]; rfl) rfl ?_
    simp [distance, h, Sender.rank]
  | returning =>
    refine .of_step (a := .sender .return)
      (by simp only [stepAt, stepSender, h]; rfl) rfl ?_
    simp [distance, h, Sender.rank]

/-! ## Whom the sender waits for -/

/-- After the launch there are a receiver and a processor, and the sender waits only for one that it
    has halted. -/
structure Accompanied (m : Machine σ) : Prop where
  launched : m.sender.hasLaunched = true → m.receiver ≠ .absent ∧ m.processor ≠ .absent
  receiverHalted : m.sender = .joiningReceiver → m.receiverHalted = true
  processorHalted : m.sender = .joiningProcessor → m.processorHalted = true

namespace Accompanied

theorem of_senderMove (h : Accompanied m) (move : SenderMove R m m' seen) : Accompanied m' := by
  have hlaunched := h.launched
  cases move
  all_goals constructor <;> simp_all [Sender.hasLaunched, afterFailure]

theorem of_move (h : Accompanied m) (move : Move R m m' seen) : Accompanied m' := by
  cases move with
  | clock now => exact { h with }
  | caller move =>
    cases move
    case enter => exact ⟨nofun, nofun, nofun⟩
    all_goals exact { h with }
  | sender move => exact h.of_senderMove move
  | receiver move =>
    cases move
    all_goals exact { h with launched := fun hl => by simp [h.launched hl, afterFailure] }
  | processor move =>
    cases move
    all_goals
      exact { h with
        launched := fun hl => by simp [h.launched hl, Processor.afterReports_ne_absent] }

end Accompanied

/-! ## The last tick -/

/-- The sender is not stranded and, should it have to look for another tick before it sees that the
    run is stopped, finds one that the clock still reaches. -/
structure InTime (m : Machine σ) : Prop where
  alive : m.sender ≠ .stranded
  found : ∀ tick, m.sender.lastTick? = some tick → catchUp m.settings.interval tick m.clock ≠ none

/-- While the clock stands still, the sender of a run that is stopped stays in time. -/
theorem InTime.of_move (h : InTime m) (stopped : m.isStopped = true) (move : Move R m m' seen)
    (standing : m'.clock = m.clock) : InTime m' := by
  cases move with
  | clock now =>
    obtain rfl : now = m.clock := standing
    exact h
  | caller move =>
    cases move
    case enter => exact ⟨by simp, fun tick h => by cases h⟩
    all_goals exact { h with }
  | sender move =>
    have hfound := h.found
    cases move
    case begin tick place running =>
      rw [stopped] at running
      cases running
    case strand tick place beyond => exact absurd beyond (hfound tick (by rw [place]; rfl))
    all_goals constructor <;> simp_all [Sender.lastTick?]
  | receiver move => cases move <;> exact { h with }
  | processor move => cases move <;> exact { h with }

section Interleaving

variable {settings : Settings} {filler : Wire.Filler} {reporter : σ} {flags : Flags}
  {handle : Handle} {clock : Instant} {events : List Event}

theorem Interleaving.accompanied
    (run : Interleaving R (init settings filler reporter flags handle clock) events m) :
    Accompanied m :=
  run.invariant (P := fun _ m => Accompanied m)
    ⟨fun h => (by cases h), fun h => (by cases h), fun h => (by cases h)⟩
    fun _ _ _ _ h move => h.of_move move

/-- As long as a run that is stopped has not ended, somebody can take a step that comes closer to
    the end. -/
theorem Interleaving.exists_closer
    (run : Interleaving R (init settings filler reporter flags handle clock) events m)
    (stopped : m.isStopped = true) (there : m.sender ≠ .absent) (busy : m.sender.isOver = false) :
    CanApproach R m := by
  have attended := run.attended
  have accompanied := run.accompanied
  by_cases hreceiver : m.sender = .joiningReceiver ∧ m.receiver.isGone = false
  · obtain ⟨hsender, hgone⟩ := hreceiver
    have hthere := accompanied.launched (by rw [hsender]; rfl)
    exact canApproach_of_receiver hthere.1 hgone (accompanied.receiverHalted hsender) hthere.2
  by_cases hprocessor : m.sender = .joiningProcessor ∧ m.processor.isGone = false
  · obtain ⟨hsender, hgone⟩ := hprocessor
    have hthere := accompanied.launched (by rw [hsender]; rfl)
    exact canApproach_of_halted hthere.2 hgone (accompanied.processorHalted hsender)
      (attended.joined (by rw [hsender]; rfl))
  refine canApproach_of_sender stopped there busy
    (fun hl => ⟨attended.unlaunched hl, run.orderly.unlaunched hl⟩) (fun h => ?_) (fun h => ?_)
  · exact eq_true_of_ne_false fun hgone => hreceiver ⟨h, hgone⟩
  · exact eq_true_of_ne_false fun hgone => hprocessor ⟨h, hgone⟩

theorem sender_ne_absent_of_move (move : Move R m m' seen) (there : m.sender ≠ .absent) :
    m'.sender ≠ .absent := by
  cases move with
  | clock now => exact there
  | caller move => cases move <;> simp [there]
  | sender move => cases move <;> simp
  | receiver move => cases move <;> exact there
  | processor move => cases move <;> exact there

/-- A run that is stopped can go on to its end, even while the clock stands still. The sender is
    stranded there only if it was not in time. -/
theorem Interleaving.exists_end
    (run : Interleaving R (init settings filler reporter flags handle clock) events m)
    (stopped : m.isStopped = true) (there : m.sender ≠ .absent) :
    ∃ later m', Execution R m later m' ∧ m'.sender.isOver = true ∧ (InTime m → InTime m') := by
  induction hdistance : m.distance using Nat.strongRecOn generalizing m events with
  | ind n ih =>
    cases hbusy : m.sender.isOver with
    | true => exact ⟨[], m, .refl, hbusy, id⟩
    | false =>
      obtain ⟨a, m₁, seen, taken, move, standing, closer⟩ := run.exists_closer stopped there hbusy
      have hstep : Execution R m seen m₁ := Execution.refl.step a taken
      obtain ⟨later, m', rest, hover, htime⟩ := ih m₁.distance (hdistance ▸ closer)
        (run.append hstep.interleaving) (hstep.interleaving.isStopped_of_isStopped stopped)
        (sender_ne_absent_of_move move there) rfl
      exact ⟨seen ++ later, m', hstep.append rest, hover,
        fun h => htime (h.of_move stopped move standing)⟩

end Interleaving

end Machine

end EchoProbe.Run
