import EchoProbe.Proofs.Run.Balance
import EchoProbe.Proofs.Run.Reports

/-!
# Every probe is settled once

A run accounts for every probe that it records, in whatever order its activities act. The
probe is consumed by one counted outcome, which tells its number, or taken back, and never
both or twice. When the run returns, nothing is left in the ledger, and the statistics of the
reporter have counted every probe but those that were taken back (`every_probe_settled_once`).
-/

namespace EchoProbe.Run

/-- The error that the sender has returned. -/
def Sender.failure? : Sender → Option RunError
  | returned (.error e) => some e
  | _ => none

theorem Sender.returned_of_failure? {s : Sender} {e : RunError} (h : s.failure? = some e) :
    s = .returned (.error e) := by
  cases s with
  | returned result =>
    rcases result with e' | _
    · obtain rfl : e' = e := Option.some.inj h
      rfl
    · cases h
  | _ => cases h

namespace Machine

variable {σ : Type} {R : Reporter σ} {m m' : Machine σ} {seen : List Event}

/-- Only a probe that is recorded, a counted outcome or a probe that is taken back changes the
    ledger. -/
theorem ledger_eq_of_nil (move : LedgerMove m m' seen) (hrecorded : recorded seen = [])
    (hcounted : counted seen = []) (htakenBack : takenBack seen = []) : m'.ledger = m.ledger := by
  cases move with
  | rest _ ledger => exact ledger
  | record => cases hrecorded
  | retract request _ ledger =>
    rw [ledger]
    refine Ledger.erase_of_find?_eq_none ?_
    simpa [Event.takenBack?] using htakenBack
  | classify packet log _ ledger =>
    -- An outcome that is not counted has consumed nothing.
    have huncounted : (m.ledger.classify packet).outcome.isCounted = false := by
      simpa [counted, Event.made, (quiet_map_loggedAside log).made_eq_nil] using hcounted
    rw [Ledger.isCounted_classify, Option.isSome_eq_false_iff, Option.isNone_iff_eq_none]
      at huncounted
    rw [ledger]
    exact (Ledger.classify_of_not_consumed? huncounted).1
  | sweep ledger =>
    rw [ledger]
    refine Ledger.sweep_of_fst_eq_nil ?_
    -- All that a sweep takes is counted, so without a counted outcome it takes nothing.
    have hall := filter_isCounted_lost (show FailureKind.timeout.isLoss = true from rfl)
    simpa [counted, Event.made, hall] using hcounted
  | drain ledger =>
    rw [ledger]
    refine Ledger.drain_of_fst_eq_nil ?_
    have hall := filter_isCounted_lost (show FailureKind.unanswered.isLoss = true from rfl)
    simpa [counted, Event.made, hall] using hcounted

section Interleaving

variable {settings : Settings} {filler : Wire.Filler} {reporter : σ} {flags : Flags}
  {handle : Handle} {clock : Instant} {events : List Event}

/-- What is taken back is the very probe that could not be sent. -/
theorem Interleaving.eq_of_retracted
    (run : Interleaving R (init settings filler reporter flags handle clock) events m)
    {request removed : Request} (h : .retracted request (some removed) ∈ events) :
    removed = request := by
  refine run.invariant_of_orderly (P := fun events _ => ∀ request removed,
    .retracted request (some removed) ∈ events → removed = request) (by simp) ?_ request removed h
  intro events m m' seen horderly hbefore move request removed h
  rcases List.mem_append.1 h with h | h
  · exact hbefore request removed h
  · cases ledgerMove_of_move move with
    | rest quiet => cases quiet _ h
    | retract request' held _ =>
      obtain ⟨rfl, hfound⟩ : request = request' ∧
          some removed = m.ledger.find? request'.identifier := by
        simpa using h
      -- Nobody but the sender records, so what is found there is the request that it holds.
      exact horderly.held _ _ held hfound.symm
    | record => simp at h
    | classify => simp at h
    | sweep => simp at h
    | drain => simp at h

/-- When the sender has returned, everything that was in the ledger was drained and reported. -/
theorem Interleaving.drained_of_returned
    (run : Interleaving R (init settings filler reporter flags handle clock) events m)
    (alive : m.processor ≠ .panicked) {result : Except RunError Unit}
    (hreturned : m.sender = .returned result) :
    m.ledger.requests = [] ∧ made events = reported events := by
  have hgone := run.orderly.joined (by rw [hreturned]; rfl)
  -- The sender has waited for the processor, which has drained the ledger before it ended.
  have hended : m.processor = .ended := by
    cases hprocessor : m.processor with
    | ended => rfl
    | panicked => exact absurd hprocessor alive
    | _ => rw [hprocessor] at hgone; cases hgone
  refine ⟨run.orderly.drained (by rw [hended]; rfl), ?_⟩
  rw [run.made_eq alive, hended]
  exact List.append_nil _

/-- Statistics that have counted nothing before the run have counted what was reported. -/
theorem Interleaving.size_statistics {view : σ → Statistics} (hcounts : R.Counts view)
    (fresh : (view reporter).records = #[])
    (run : Interleaving R (init settings filler reporter flags handle clock) events m) :
    (view m.reporter).size = (reported events).countP (·.isCounted) ∧
      (view m.reporter).roundTrips.length = (reported events).countP (·.isReply) := by
  obtain ⟨startTime, hview⟩ := run.view_reporter hcounts
  rw [hview, Statistics.size_foldl_addOutcome, Statistics.length_roundTrips_foldl_addOutcome]
  simp [Statistics.restart, Statistics.size, Statistics.roundTrips, fresh]

/-- However a run interleaves, every probe that is recorded is settled once: it is consumed by one
    counted outcome, which tells its number, or taken back because it could not be sent, or still
    in flight. A step in which none of this happens leaves the ledger as it is. When the run has
    returned, no probe is in flight, every outcome was reported, and statistics that are part of
    the reporter's state have counted every probe but those taken back, and as many answered ones
    as there were replies. -/
theorem every_probe_settled_once
    (run : Interleaving R (init settings filler reporter flags handle clock) events m)
    (alive : m.processor ≠ .panicked) :
    (Balanced [] events m.ledger.requests ∧
      (recorded events).length =
        (counted events).length + (takenBack events).length + m.ledger.size ∧
      ∀ request removed, .retracted request (some removed) ∈ events → removed = request) ∧
    (∀ a m' seen, m.stepAnytime R a = some (m', seen) →
      Balanced m.ledger.requests seen m'.ledger.requests ∧
      (recorded seen = [] → counted seen = [] → takenBack seen = [] → m'.ledger = m.ledger)) ∧
    ∀ result, m.sender = .returned result →
      m.ledger.requests = [] ∧ made events = reported events ∧
      ∀ view, R.Counts view → (view reporter).records = #[] →
        (view m.reporter).size + (takenBack events).length = (recorded events).length ∧
        (view m.reporter).roundTrips.length = (made events).countP (·.isReply) ∧
        ∀ now summary, (view m.reporter).summarize now = some summary →
          summary.sent = (view m.reporter).size ∧
          summary.received = (view m.reporter).roundTrips.length := by
  have hbalanced : Balanced [] events m.ledger.requests := by
    have := run.balanced
    rwa [init, Ledger.requests_empty] at this
  have hlength := hbalanced.length
  rw [List.length_nil, Nat.zero_add, Ledger.length_requests] at hlength
  refine ⟨⟨hbalanced, hlength, fun _ _ => run.eq_of_retracted⟩, ?_, ?_⟩
  · intro a m' seen taken
    obtain ⟨now, move⟩ := step_cases taken
    have hledger := ledger_eq_of_nil (ledgerMove_of_move move)
    exact ⟨balanced_of_step taken, hledger⟩
  · intro result hreturned
    obtain ⟨hempty, hmade⟩ := run.drained_of_returned alive hreturned
    refine ⟨hempty, hmade, ?_⟩
    intro view hcounts fresh
    obtain ⟨hsize, hreceived⟩ := run.size_statistics hcounts fresh
    have hsent : (view m.reporter).size = (counted events).length := by
      rw [hsize, ← hmade, counted, List.countP_eq_length_filter]
    refine ⟨?_, by rw [hreceived, hmade], fun _ _ => Statistics.sent_summarize⟩
    rw [← Ledger.length_requests, hempty, List.length_nil] at hlength
    omega

end Interleaving

/-- Three probes are recorded: the first is answered, the second is not, and the third cannot be
    sent, which ends the run. -/
def lostSend : List Action :=
  let target : IPv4 := ⟨10, 0, 0, 1⟩
  let sendTime : WallTime := ⟨1000, by decide, by decide⟩
  let readTime : WallTime := ⟨3000, by decide, by decide⟩
  let next : Instant := ⟨1000000000, by decide, by decide⟩
  let last : Instant := ⟨2000000000, by decide, by decide⟩
  let echo := Wire.echoOf (Wire.probe ⟨⟨1⟩, .first⟩ sendTime (Vector.replicate 48 0))
  let buffer := echo ++ List.replicate 448 0
  [.caller (.ping "10.0.0.1" target), .sender (.start .zero), .sender (.launch .zero),
    .sender .look, .sender (.record sendTime .zero [⟨1⟩]), .sender (.attempt (.ok ())),
    .processor (.start .zero), .processor .turn, .receiver .poll,
    .receiver (.read (.returned (.ok ⟨64, target, ⟨64⟩⟩) buffer) .zero readTime),
    .receiver .handOver, .processor .classify, .sender (.tick .zero), .processor .report,
    .sender (.wake next), .sender .look, .sender (.record readTime next [⟨1⟩]),
    .sender (.attempt (.ok ())), .sender (.tick next), .sender (.wake last), .sender .look,
    .sender (.record readTime last [⟨1⟩, ⟨2⟩]), .processor (.check last),
    .processor (.sweep last), .sender (.attempt (.error (.plain .permissionDenied))),
    .processor (.rearm last), .sender .retract, .sender .fail, .sender .leave,
    .sender .haltReceiver, .receiver .poll, .sender .joinReceiver, .sender .haltProcessor,
    .processor .turn, .processor .drain, .processor .report, .sender .joinProcessor,
    .sender .close, .sender .return]

/-- Of the three probes two are counted, one of them as answered. -/
theorem every_probe_settled_once_lostSend :
    ∃ events m, Execution (.counting .silent) (fresh (.startingAt .zero, ())) events m ∧
      m.processor ≠ .panicked ∧
      m.sender = .returned (.error (.transport (.plain .permissionDenied))) ∧
      m.ledger.requests = [] ∧ (recorded events).length = 3 ∧ (takenBack events).length = 1 ∧
      m.reporter.1.size = 2 ∧ m.reporter.1.roundTrips.length = 1 := by
  have hfinal : ((fresh (.startingAt .zero, ())).play (.counting .silent) lostSend).map (fun n =>
      (n.1.processor.hasDrained, n.1.sender.failure?, (recorded n.2).length,
        (takenBack n.2).length, (made n.2).countP (·.isReply))) =
      some (true, some (.transport (.plain .permissionDenied)), 3, 1, 1) := by
    decide +kernel
  obtain ⟨⟨m, events⟩, hplayed, hfinal⟩ := Option.map_eq_some_iff.1 hfinal
  simp only [Prod.mk.injEq] at hfinal
  obtain ⟨hdrained, hfailure, hrecorded, htakenBack, hreplies⟩ := hfinal
  have run := execution_of_play hplayed
  have alive : m.processor ≠ .panicked := fun hpanicked => by
    rw [hpanicked] at hdrained
    cases hdrained
  have hreturned := Sender.returned_of_failure? hfailure
  obtain ⟨-, -, hreturn⟩ := every_probe_settled_once run.interleaving alive
  obtain ⟨hempty, -, hstatistics⟩ := hreturn _ hreturned
  obtain ⟨hsize, hreceived, -⟩ := hstatistics Prod.fst (Reporter.counts_counting _) rfl
  exact ⟨events, m, run, alive, hreturned, hempty, hrecorded, htakenBack, by omega,
    hreceived.trans hreplies⟩

end Machine

end EchoProbe.Run
