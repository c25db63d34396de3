import EchoProbe.Proofs.Run.Order
import EchoProbe.Proofs.Statistics

/-!
# What is reported

The processor reports the outcomes that it makes, in order. What it has made but not reported
yet it has at hand (`Processor.atHand`). Unless the reporter panics, no outcome is dropped:
what was made is what was reported and what is at hand (`Interleaving.made_eq`).

The statistics of a reporter that counts are those of the reported outcomes
(`Interleaving.view_reporter`).
-/

namespace EchoProbe.Run

/-- The outcomes that the processor has yet to report. -/
def Processor.atHand : Processor → List Outcome
  | reporting outcome others _ => outcome :: others
  | _ => []

@[simp]
theorem Processor.atHand_afterReports (outcomes : List Outcome) (next : AfterReports) :
    (afterReports outcomes next).atHand = outcomes := by
  cases outcomes <;> cases next <;> rfl

namespace Machine

variable {σ : Type} {R : Reporter σ} {m m' : Machine σ} {seen : List Event}

/-- What a move has to do with reports. -/
inductive ReportMove (R : Reporter σ) (m m' : Machine σ) : List Event → Prop
  | rest {seen : List Event} (reported : reported seen = [])
      (reporter : m'.reporter = m.reporter ∨ ∃ now, m'.reporter = R.start now m.reporter)
      (panicked : m.processor = .panicked → m'.processor = .panicked)
      (atHand : m'.processor.atHand = m.processor.atHand ++ made seen) : ReportMove R m m' seen
  | report (outcome : Outcome) (log : List LogLine)
      (reporter : m'.reporter = (R.report outcome m.reporter).state)
      (atHand : m'.processor = .panicked ∨
        m.processor.atHand = outcome :: m'.processor.atHand) :
    ReportMove R m m' (log.map .loggedAside ++ [.reported outcome])

/-- A move that makes nothing, reports nothing and leaves the processor as it is. -/
theorem reportMove_of_rest (hseen : reported seen = []) (quiet : Quiet seen)
    (hreporter : m'.reporter = m.reporter) (hprocessor : m'.processor = m.processor) :
    ReportMove R m m' seen := by
  refine .rest hseen (.inl hreporter) (fun h => hprocessor.trans h) ?_
  rw [hprocessor, quiet.made_eq_nil, List.append_nil]

theorem reportMove_of_senderMove (h : Orderly m) (move : SenderMove R m m' seen) :
    ReportMove R m m' seen := by
  cases move
  case start place =>
    exact .rest rfl (.inr ⟨_, rfl⟩) id (List.append_nil _).symm
  case launch place =>
    -- There was no processor that could have outcomes at hand.
    have hprocessor := h.unlaunched (by rw [place]; rfl)
    refine .rest rfl (.inl rfl) (fun hm => ?_) ?_
    · rw [hprocessor] at hm
      cases hm
    · rw [hprocessor]
      rfl
  case retract => exact .rest rfl (.inl rfl) id (List.append_nil _).symm
  case record => exact .rest rfl (.inl rfl) id (List.append_nil _).symm
  all_goals
    refine reportMove_of_rest ?_ ?_ rfl rfl
    all_goals simp [Event.isQuiet, Event.reported?]

theorem reportMove_of_receiverMove (move : ReceiverMove m m' seen) : ReportMove R m m' seen := by
  cases move
  case handOver packet place waiting =>
    refine .rest rfl (.inl rfl) (fun hm => ?_) ?_
    · rw [waiting] at hm
      cases hm
    · rw [waiting]
      rfl
  all_goals
    refine reportMove_of_rest ?_ ?_ rfl rfl
    all_goals simp [Event.isQuiet, Event.reported?]

theorem reportMove_of_processorMove (move : ProcessorMove R m m' seen) :
    ReportMove R m m' seen := by
  cases move
  case report outcome others next place alive =>
    refine .report outcome _ rfl (.inr ?_)
    rw [place, Processor.atHand_afterReports]
    rfl
  case panic outcome others next place dead => exact .report outcome _ rfl (.inl rfl)
  case halt place halted =>
    rcases place with place | ⟨place, -⟩ <;>
      exact .rest rfl (.inl rfl) (by simp [place]) (by simp [place, Processor.atHand])
  case classify packet place =>
    refine .rest (by simp [Event.reported?]) (.inl rfl) (by simp [place]) ?_
    simp [place, Processor.atHand, Event.made, (quiet_map_loggedAside _).made_eq_nil]
  case sweep place =>
    refine .rest rfl (.inl rfl) (by simp [place]) ?_
    rw [Processor.atHand_afterReports, place, made_cons, made_nil, List.append_nil]
    rfl
  case drain place =>
    refine .rest rfl (.inl rfl) (by simp [place]) ?_
    rw [Processor.atHand_afterReports, place, made_cons, made_nil, List.append_nil]
    rfl
  all_goals
    refine .rest rfl (.inl rfl) (by simp [*]) ?_
    simp [*, Processor.atHand]

/-- Every move does one of these to the reports. -/
theorem reportMove_of_move (h : Orderly m) (move : Move R m m' seen) : ReportMove R m m' seen := by
  cases move with
  | clock now => exact reportMove_of_rest rfl quiet_nil rfl rfl
  | caller move =>
    cases move <;> exact reportMove_of_rest rfl (by simp [Event.isQuiet]) rfl rfl
  | sender move => exact reportMove_of_senderMove h move
  | receiver move => exact reportMove_of_receiverMove move
  | processor move => exact reportMove_of_processorMove move

section Interleaving

variable {settings : Settings} {filler : Wire.Filler} {reporter : σ} {flags : Flags}
  {handle : Handle} {clock : Instant} {events : List Event}

/-- Unless the reporter panicked, what was made is what was reported and what is at hand. -/
theorem Interleaving.made_eq
    (run : Interleaving R (init settings filler reporter flags handle clock) events m)
    (alive : m.processor ≠ .panicked) : made events = reported events ++ m.processor.atHand := by
  suffices h : m.processor = .panicked ∨ made events = reported events ++ m.processor.atHand from
    h.resolve_left alive
  refine run.invariant_of_orderly (P := fun events m =>
    m.processor = .panicked ∨ made events = reported events ++ m.processor.atHand) (.inr rfl) ?_
  intro events m m' seen horderly hmade move
  cases reportMove_of_move horderly move with
  | rest hseen _ panicked atHand =>
    refine hmade.imp panicked fun hmade => ?_
    rw [made_append, reported_append, hmade, hseen, atHand, List.append_nil, List.append_assoc]
  | report outcome log _ atHand =>
    rcases atHand with hpanicked | atHand
    · exact .inl hpanicked
    · refine .inr ?_
      -- A processor that reports has not panicked before.
      have hmade := hmade.resolve_left fun hpanicked => by
        rw [hpanicked] at atHand
        cases atHand
      rw [made_append, reported_append, hmade, atHand]
      simp [(quiet_map_loggedAside log).made_eq_nil, Event.made, Event.reported?]

/-- The statistics of a reporter that counts are those of what was reported. -/
theorem Interleaving.view_reporter {view : σ → Statistics} (hcounts : R.Counts view)
    (run : Interleaving R (init settings filler reporter flags handle clock) events m) :
    ∃ startTime, view m.reporter =
      (reported events).foldl Statistics.addOutcome ((view reporter).restart startTime) := by
  refine run.invariant_of_orderly (P := fun events m => ∃ startTime, view m.reporter =
    (reported events).foldl Statistics.addOutcome ((view reporter).restart startTime))
    ⟨(view reporter).startTime, rfl⟩ ?_
  rintro events m m' seen horderly ⟨startTime, hview⟩ move
  cases reportMove_of_move horderly move with
  | rest hseen hreporter _ _ =>
    rw [reported_append, hseen, List.append_nil]
    rcases hreporter with hreporter | ⟨now, hreporter⟩
    · exact ⟨startTime, hreporter ▸ hview⟩
    · refine ⟨now, ?_⟩
      rw [hreporter, hcounts.start, hview, Statistics.restart_foldl_addOutcome]
      rfl
  | report outcome log hreporter _ =>
    refine ⟨startTime, ?_⟩
    rw [hreporter, hcounts.report, hview]
    simp [Event.reported?]

end Interleaving

end Machine

end EchoProbe.Run
