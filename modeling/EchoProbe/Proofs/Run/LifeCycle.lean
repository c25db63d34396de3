import EchoProbe.Proofs.Run.Order
import EchoProbe.Simulation.Network

/-!
# The life of a pinger

A pinger is idle, running, stopping and stopped, in this order, and runs once. Callers ask for
runs and stop them whenever they like; the sender ends the running phase, unless a caller did so
before, and enters the last phase without a look at the one before it. That the phases are in
order even so is due to the stages of the sender: each allows only some phases, and at the stage
in which the sender enters the last one, the pinger can only be stopping.

* `LifeMove`: what a move does to the phases, to the reporter, and to the *milestones* of the run:
  its entry, the start of the reporter, and the reports;
* `Life`: what the stage of the sender tells about them; every move keeps it
  (`Life.of_lifeMove`);
* `pinger_runs_once`: the life of a pinger, whatever its callers do.
-/

namespace EchoProbe

namespace Phase

/-- The phases up to this one. -/
def upTo : Phase → List Phase
  | idle => [idle]
  | running => [idle, running]
  | stopping => [idle, running, stopping]
  | stopped => [idle, running, stopping, stopped]

/-- The last of the phases up to one is that one. -/
theorem getLast?_upTo (p : Phase) : p.upTo.getLast? = some p := by
  cases p <;> rfl

theorem upTo_ne_nil (p : Phase) : p.upTo ≠ [] := by
  cases p <;> exact List.cons_ne_nil _ _

/-- The phases up to any are a beginning of all four. -/
theorem upTo_prefix (p : Phase) : p.upTo <+: [idle, running, stopping, stopped] := by
  cases p <;> exact ⟨_, rfl⟩

/-- The phase after the running phase was ended. -/
def afterStop : Phase → Phase
  | running => stopping
  | p => p

end Phase

/-- Only one thing can go wrong when a host is looked up. -/
theorem error_of_resolve {directory : Directory} {host : String} {e : RunError}
    (h : resolve directory host = .error e) : e = .unknownHost host := by
  unfold resolve at h
  split at h
  · cases h
  · split at h <;> cases h
    rfl

namespace Run

/-- The stages of the sender. -/
inductive Stage
  /-- Nobody has asked for a run. -/
  | absent
  /-- The run was entered, and the reporter was not told. -/
  | entered
  /-- The reporter was told, and the running phase was not ended by the sender. -/
  | probing
  /-- The running phase was ended. -/
  | ending
  /-- The last phase was entered. -/
  | finished

namespace Stage

/-- The phases in which the pinger can be at a stage. -/
def phases : Stage → List Phase
  | absent => [.idle]
  | entered | probing => [.running, .stopping]
  | ending => [.stopping]
  | finished => [.stopped]

/-- A caller can stop the pinger at every stage. -/
theorem afterStop_mem_phases {s : Stage} {p : Phase} (h : p ∈ s.phases) :
    p.afterStop ∈ s.phases := by
  cases s <;> cases p <;> first | exact h | simp [phases, Phase.afterStop] at h ⊢

/-- The milestones up to a stage, of a run with these reports. -/
def milestones (reports : List Outcome) : Stage → List Event
  | absent => []
  | entered => [.entered]
  | _ => .entered :: .started :: reports.map .reported

/-- At no stage there are other milestones than the entry, the start and then the reports. -/
theorem milestones_prefix (s : Stage) (reports : List Outcome) :
    s.milestones reports <+: .entered :: .started :: reports.map .reported := by
  cases s with
  | absent => exact List.nil_prefix
  | entered => exact ⟨_, rfl⟩
  | _ => exact List.prefix_refl _

/-- The entry is among them at every stage but the first. -/
theorem entered_mem_milestones_iff {s : Stage} {p : Phase} (h : p ∈ s.phases)
    (reports : List Outcome) : .entered ∈ s.milestones reports ↔ p ≠ .idle := by
  cases s <;> cases p <;> simp_all [phases, milestones]

/-- What the reporter has come to at a stage, after these reports. -/
def Heard {σ : Type} (R : Reporter σ) (reporter : σ) (reports : List Outcome) (state : σ) :
    Stage → Prop
  | absent | entered => state = reporter
  | _ => ∃ now, state = reports.foldl (fun s o => (R.report o s).state) (R.start now reporter)

end Stage

/-- The stage of the sender. -/
def Sender.stage : Sender → Stage
  | absent => .absent
  | entered => .entered
  | haltingReceiver | joiningReceiver | mourning | haltingProcessor | joiningProcessor
  | closing => .ending
  | returning | returned _ => .finished
  | _ => .probing

/-- Between launch and join, the sender is probing or ending. -/
theorem Sender.stage_of_reporting {s : Sender} (launched : s.hasLaunched = true)
    (unjoined : s.hasJoined = false) : s.stage = .probing ∨ s.stage = .ending := by
  cases s <;> simp_all [Sender.hasLaunched, Sender.hasJoined, Sender.stage]

/-- Whether the event is the entry into a run, the start of the reporter, or a report. -/
def Event.isMilestone : Event → Bool
  | entered | started | reported _ => true
  | _ => false

/-- The entry into a run, the start of the reporter and the reports, as they were seen. -/
def milestones (events : List Event) : List Event := events.filter Event.isMilestone

section Lists

variable (events seen : List Event) (log : List LogLine)

@[simp]
theorem milestones_nil : milestones [] = [] := rfl

@[simp]
theorem milestones_cons (e : Event) :
    milestones (e :: seen) = (if e.isMilestone then [e] else []) ++ milestones seen := by
  rw [milestones, List.filter_cons]
  split <;> rfl

@[simp]
theorem milestones_append :
    milestones (events ++ seen) = milestones events ++ milestones seen := by
  rw [milestones, List.filter_append]
  rfl

@[simp]
theorem milestones_map_logged : milestones (log.map .logged) = [] := by
  simp [milestones, Event.isMilestone]

@[simp]
theorem milestones_map_loggedAside : milestones (log.map .loggedAside) = [] := by
  simp [milestones, Event.isMilestone]

/-- All reports are milestones. -/
theorem reported_milestones : reported (milestones events) = reported events := by
  rw [reported, milestones, List.filterMap_filter, reported]
  congr 1
  funext e
  cases e <;> rfl

/-- A milestone was seen exactly if it is among the milestones. -/
theorem mem_milestones {e : Event} (h : e.isMilestone = true) :
    e ∈ milestones events ↔ e ∈ events := by
  simp [milestones, h]

end Lists

namespace Machine

variable {σ : Type} {R : Reporter σ} {m m' : Machine σ} {seen : List Event}

/-! ## What a move does -/

/-- What a move has to do with the life of a pinger. -/
inductive LifeMove (R : Reporter σ) (m m' : Machine σ) : List Event → Prop
  | rest {seen : List Event} (unseen : milestones seen = []) (history : m'.history = m.history)
      (stage : m'.sender.stage = m.sender.stage) (reporter : m'.reporter = m.reporter) :
    LifeMove R m m' seen
  | enter (history : m'.history = m.history ++ [.running])
      (stage : m.sender.stage = .absent ∧ m'.sender.stage = .entered)
      (reporter : m'.reporter = m.reporter) : LifeMove R m m' [.entered]
  | stop (history : m'.history = m.historyAfter .running .stopping)
      (stage : m'.sender.stage = m.sender.stage) (reporter : m'.reporter = m.reporter) :
    LifeMove R m m' []
  | start (history : m'.history = m.history)
      (stage : m.sender.stage = .entered ∧ m'.sender.stage = .probing)
      (reporter : m'.reporter = R.start m.clock m.reporter) : LifeMove R m m' [.started]
  | leave (history : m'.history = m.historyAfter .running .stopping)
      (stage : m.sender.stage = .probing ∧ m'.sender.stage = .ending)
      (reporter : m'.reporter = m.reporter) : LifeMove R m m' []
  | close (line : LogLine) (history : m'.history = m.history ++ [.stopped])
      (stage : m.sender.stage = .ending ∧ m'.sender.stage = .finished)
      (reporter : m'.reporter = m.reporter) : LifeMove R m m' [.logged line]
  | report (outcome : Outcome) (log : List LogLine) (history : m'.history = m.history)
      (busy : m.sender.stage = .probing ∨ m.sender.stage = .ending)
      (stage : m'.sender.stage = m.sender.stage)
      (reporter : m'.reporter = (R.report outcome m.reporter).state) :
    LifeMove R m m' (log.map .loggedAside ++ [.reported outcome])

/-- As long as there is a processor that goes on, the sender has launched it and waits for it. -/
theorem Orderly.stage_of_reporting (h : Orderly m) {outcome : Outcome} {others : List Outcome}
    {next : AfterReports} (place : m.processor = .reporting outcome others next) :
    m.sender.stage = .probing ∨ m.sender.stage = .ending := by
  refine Sender.stage_of_reporting ?_ ?_
  · refine eq_true_of_ne_false fun hunlaunched => ?_
    have hprocessor := h.unlaunched hunlaunched
    rw [place] at hprocessor
    cases hprocessor
  · refine eq_false_of_ne_true fun hjoined => ?_
    have hgone := h.joined hjoined
    rw [place] at hgone
    cases hgone

/-- Every move does one of these. -/
theorem lifeMove_of_move (h : Orderly m) (move : Move R m m' seen) : LifeMove R m m' seen := by
  cases move with
  | clock now => exact .rest rfl rfl rfl rfl
  | caller move =>
    cases move with
    | enter host target idle => exact .enter rfl ⟨by rw [h.idle idle]; rfl, rfl⟩ rfl
    | beginStop => exact .stop rfl rfl rfl
    | refuse busy => exact .rest rfl rfl rfl rfl
    | unresolved host => exact .rest rfl rfl rfl rfl
    | completeStop n pending => exact .rest rfl rfl rfl rfl
    | raise handle => exact .rest rfl rfl rfl rfl
  | sender move =>
    cases move
    case start place => exact .start rfl ⟨by rw [place]; rfl, rfl⟩ rfl
    case leave place => exact .leave rfl ⟨by rw [place]; rfl, rfl⟩ rfl
    case close place => exact .close _ rfl ⟨by rw [place]; rfl, rfl⟩ rfl
    -- All its other moves stay within a stage.
    all_goals
      exact .rest (by simp [Event.isMilestone]) rfl (by simp [*, Sender.stage]) rfl
  | receiver move => cases move <;> exact .rest (by simp [Event.isMilestone]) rfl rfl rfl
  | processor move =>
    cases move
    case report outcome others next place alive =>
      exact .report outcome _ rfl (h.stage_of_reporting place) rfl rfl
    case panic outcome others next place dead =>
      exact .report outcome _ rfl (h.stage_of_reporting place) rfl rfl
    all_goals exact .rest (by simp [Event.isMilestone]) rfl rfl rfl

/-- A phase is added at the end, or none is. -/
theorem prefix_historyAfter (m : Machine σ) (expected next : Phase) :
    m.history <+: m.historyAfter expected next := by
  unfold historyAfter
  split
  · exact List.prefix_append _ _
  · exact List.prefix_refl _

/-- The history only grows. -/
theorem LifeMove.history_prefix (move : LifeMove R m m' seen) : m.history <+: m'.history := by
  cases move with
  | rest _ history => exact history ▸ List.prefix_refl _
  | enter history => exact history ▸ List.prefix_append _ _
  | stop history => exact history ▸ prefix_historyAfter _ _ _
  | start history => exact history ▸ List.prefix_refl _
  | leave history => exact history ▸ prefix_historyAfter _ _ _
  | close _ history => exact history ▸ List.prefix_append _ _
  | report _ _ history => exact history ▸ List.prefix_refl _

/-! ## The life of a pinger -/

/-- The phases, the milestones and the reporter are where the stage of the sender lets them be. -/
structure Life (R : Reporter σ) (reporter : σ) (events : List Event) (m : Machine σ) : Prop where
  history : ∃ p ∈ m.sender.stage.phases, m.history = p.upTo
  milestones : milestones events = m.sender.stage.milestones (reported events)
  reporter : m.sender.stage.Heard R reporter (reported events) m.reporter

/-- The phase is the last one of the history. -/
theorem phase_of_upTo {p : Phase} (h : m.history = p.upTo) : m.phase = p := by
  rw [phase, h, Phase.getLast?_upTo]
  rfl

/-- A stop adds the phase stopping in the phase running, and nothing in the others. -/
theorem historyAfter_of_upTo {p : Phase} (h : m.history = p.upTo) :
    m.historyAfter .running .stopping = p.afterStop.upTo := by
  rw [historyAfter, phase_of_upTo h, h]
  cases p <;> rfl

namespace Life

variable {reporter : σ} {events : List Event}

/-- A move that is no milestone, between stages at which the reporter has heard the same. -/
theorem of_silent (h : Life R reporter events m) (unseen : Run.milestones seen = [])
    (history : ∃ p ∈ m'.sender.stage.phases, m'.history = p.upTo)
    (told : ∀ reports, m'.sender.stage.milestones reports = m.sender.stage.milestones reports)
    (heard : ∀ reports state, m.sender.stage.Heard R reporter reports state →
      m'.sender.stage.Heard R reporter reports state)
    (hreporter : m'.reporter = m.reporter) : Life R reporter (events ++ seen) m' := by
  have hreported : reported (events ++ seen) = reported events := by
    rw [reported_append, ← reported_milestones seen, unseen, reported_nil, List.append_nil]
  refine ⟨history, ?_, ?_⟩
  · rw [milestones_append, unseen, List.append_nil, hreported, told, h.milestones]
  · rw [hreported, hreporter]
    exact heard _ _ h.reporter

/-- A move within a stage that is no milestone. -/
theorem of_same (h : Life R reporter events m) (unseen : Run.milestones seen = [])
    (history : ∃ p ∈ m.sender.stage.phases, m'.history = p.upTo)
    (stage : m'.sender.stage = m.sender.stage) (hreporter : m'.reporter = m.reporter) :
    Life R reporter (events ++ seen) m' :=
  h.of_silent unseen (stage ▸ history) (fun _ => by rw [stage])
    (fun _ _ hheard => stage ▸ hheard) hreporter

/-- Before the reporter is told of the run, there are no reports. -/
theorem reported_eq_nil (h : Life R reporter events m)
    (early : m.sender.stage = .absent ∨ m.sender.stage = .entered) : reported events = [] := by
  rw [← reported_milestones, h.milestones]
  rcases early with early | early <;> rw [early] <;> rfl

/-- Every move keeps the life in order. -/
theorem of_lifeMove (h : Life R reporter events m) (move : LifeMove R m m' seen) :
    Life R reporter (events ++ seen) m' := by
  obtain ⟨p, hp, hhistory⟩ := h.history
  have hmilestones := h.milestones
  have hreporter := h.reporter
  cases move with
  | rest unseen history stage reporter =>
    exact h.of_same unseen ⟨p, hp, history.trans hhistory⟩ stage reporter
  | stop history stage reporter =>
    refine h.of_same rfl ⟨p.afterStop, Stage.afterStop_mem_phases hp, ?_⟩ stage reporter
    rw [history, historyAfter_of_upTo hhistory]
  | enter history stage reporter =>
    -- Before there is a sender the pinger can only be idle.
    rw [stage.1] at hp hmilestones hreporter
    obtain rfl := List.mem_singleton.1 hp
    refine ⟨⟨.running, ?_, by rw [history, hhistory]; rfl⟩, ?_, ?_⟩
    · rw [stage.2]
      exact List.mem_cons_self
    · rw [milestones_append, hmilestones, stage.2]
      rfl
    · rw [stage.2]
      exact reporter.trans hreporter
  | start history stage reporter =>
    -- No report comes before the start.
    have hnone := h.reported_eq_nil (.inr stage.1)
    rw [stage.1] at hp hmilestones hreporter
    refine ⟨⟨p, by rw [stage.2]; exact hp, history.trans hhistory⟩, ?_, ?_⟩
    · rw [milestones_append, hmilestones, stage.2, reported_append, hnone]
      rfl
    · rw [stage.2, reported_append, hnone, reporter, show m.reporter = _ from hreporter]
      exact ⟨m.clock, rfl⟩
  | leave history stage reporter =>
    rw [stage.1] at hp
    refine h.of_silent rfl ⟨p.afterStop, ?_, by rw [history, historyAfter_of_upTo hhistory]⟩ ?_ ?_
      reporter
    · -- A caller may have ended the running phase before.
      rw [stage.2]
      simp only [Stage.phases, List.mem_cons, List.not_mem_nil, or_false] at hp
      -- Running becomes stopping, and stopping stays.
      rcases hp with rfl | rfl <;> exact List.mem_singleton.2 rfl
    · intro reports
      rw [stage.1, stage.2]
      rfl
    · rw [stage.1, stage.2]
      exact fun _ _ heard => heard
  | close line history stage reporter =>
    -- At this stage the pinger can only be stopping.
    rw [stage.1] at hp
    obtain rfl := List.mem_singleton.1 hp
    refine h.of_silent rfl ⟨.stopped, ?_, by rw [history, hhistory]; rfl⟩ ?_ ?_ reporter
    · rw [stage.2]
      exact List.mem_singleton.2 rfl
    · intro reports
      rw [stage.1, stage.2]
      rfl
    · rw [stage.1, stage.2]
      exact fun _ _ heard => heard
  | report outcome log history busy stage reporter =>
    have hreported : reported (events ++ (log.map .loggedAside ++ [.reported outcome])) =
        reported events ++ [outcome] := by
      simp [Event.reported?]
    -- At both stages the milestones end with the reports, and what was heard too.
    refine ⟨⟨p, stage ▸ hp, history.trans hhistory⟩, ?_, ?_⟩
    · rw [hreported, stage, milestones_append, hmilestones]
      rcases busy with busy | busy <;> rw [busy] <;> simp [Stage.milestones, Event.isMilestone]
    · rw [hreported, stage, reporter]
      rcases busy with busy | busy
      all_goals
        rw [busy] at hreporter ⊢
        obtain ⟨now, hreporter⟩ := hreporter
        exact ⟨now, by rw [hreporter, List.foldl_append]; rfl⟩

/-- A run was entered exactly if the pinger is not idle any more. -/
theorem entered_mem_iff (h : Life R reporter events m) :
    .entered ∈ events ↔ m.phase ≠ .idle := by
  obtain ⟨p, hp, hhistory⟩ := h.history
  rw [← mem_milestones events rfl, h.milestones, phase_of_upTo hhistory]
  exact Stage.entered_mem_milestones_iff hp _

/-- The reporter has heard of no run, or of its start and then of each outcome in turn. -/
theorem heard (h : Life R reporter events m) :
    (.started ∉ events ∧ reported events = [] ∧ m.reporter = reporter) ∨
    (.started ∈ events ∧ ∃ now, m.reporter =
      (reported events).foldl (fun s o => (R.report o s).state) (R.start now reporter)) := by
  have hreporter := h.reporter
  have hnone := h.reported_eq_nil
  rw [← mem_milestones events rfl, h.milestones]
  cases hstage : m.sender.stage <;> rw [hstage] at hreporter
  case absent => exact .inl ⟨List.not_mem_nil, hnone (.inl hstage), hreporter⟩
  case entered => exact .inl ⟨by simp [Stage.milestones], hnone (.inr hstage), hreporter⟩
  all_goals exact .inr ⟨List.mem_cons_of_mem _ List.mem_cons_self, hreporter⟩

/-- Outcomes are reported only between the phases running and stopped. -/
theorem of_reported (h : Life R reporter events m) (move : LifeMove R m m' seen)
    {outcome : Outcome} (hmem : .reported outcome ∈ seen) :
    (m.phase = .running ∨ m.phase = .stopping) ∧ m'.history = m.history := by
  obtain ⟨p, hp, hhistory⟩ := h.history
  cases move with
  | rest unseen =>
    rw [← mem_milestones seen rfl, unseen] at hmem
    cases hmem
  | report outcome log history busy stage reporter =>
    refine ⟨?_, history⟩
    rw [phase_of_upTo hhistory]
    rcases busy with busy | busy <;> rw [busy] at hp
    · simpa [Stage.phases] using hp
    · exact .inr (List.mem_singleton.1 hp)
  | enter => simp at hmem
  | stop => cases hmem
  | start => simp at hmem
  | leave => cases hmem
  | close => simp at hmem

end Life

/-! ## Calls for a run -/

/-- The call enters the run. -/
def Enters (R : Reporter σ) (m : Machine σ) (a : CallerAction) : Prop :=
  ∃ m', m.stepAnytime R (.caller a) = some (m', [.entered]) ∧ m'.phase = .running

/-- The call gets this error and changes nothing. -/
def Rejects (R : Reporter σ) (m : Machine σ) (a : CallerAction) (e : RunError) : Prop :=
  ∃ seen, m.stepAnytime R (.caller a) = some (m, seen) ∧
    Simulation.Network.answer seen = some (.error e)

/-- The idle pinger enters the run that it is asked for. -/
theorem enters_ping (idle : m.phase = .idle) (host : String) (target : IPv4) :
    Enters R m (.ping host target) :=
  ⟨_, congrArg some (if_pos idle), phase_of_history rfl⟩

/-- Any other pinger tells its phase. -/
theorem rejects_ping (busy : m.phase ≠ .idle) (host : String) (target : IPv4) :
    Rejects R m (.ping host target) (.notIdle m.phase) :=
  ⟨_, congrArg some (if_neg busy), rfl⟩

/-- A host that cannot be resolved is told before the phase is looked at. -/
theorem rejects_pingHost {directory : Directory} {host : String}
    (unresolved : resolve directory host = .error (.unknownHost host)) :
    Rejects R m (.pingHost directory host) (.unknownHost host) :=
  ⟨[.unresolved host], by simp [stepAnytime, Action.reading?, stepAt, stepCaller, unresolved], rfl⟩

/-! ## Whole runs -/

section Interleaving

variable {settings : Settings} {filler : Wire.Filler} {reporter : σ} {flags : Flags}
  {handle : Handle} {clock : Instant} {events : List Event}

/-- The life is in order throughout every interleaving. -/
theorem Interleaving.life
    (run : Interleaving R (init settings filler reporter flags handle clock) events m) :
    Life R reporter events m := by
  refine run.invariant_of_orderly (P := Life R reporter)
    ⟨⟨.idle, List.mem_singleton.2 rfl, rfl⟩, rfl, rfl⟩ ?_
  intro events m m' seen order h move
  exact h.of_lifeMove (lifeMove_of_move order move)

/-- However its callers ask for runs and stop them, a pinger runs once. Its history is the
    beginning of idle, running, stopping, stopped, and only grows. The first call that comes with an
    address enters the run. Every later one gets the phase as an error and changes nothing; nor
    does a call for a host that cannot be resolved, whenever it comes. Entry and start are seen at
    most once, and before every report; the reporter has heard the start and then the outcomes, all
    of them while the pinger was running or stopping. -/
theorem pinger_runs_once
    (run : Interleaving R (init settings filler reporter flags handle clock) events m) :
    (m.history ≠ [] ∧ m.history <+: [.idle, .running, .stopping, .stopped] ∧
      m.history.getLast? = some m.phase) ∧
    (milestones events <+: .entered :: .started :: (reported events).map .reported ∧
      (.entered ∈ events ↔ m.phase ≠ .idle) ∧
      ((.started ∉ events ∧ reported events = [] ∧ m.reporter = reporter) ∨
        (.started ∈ events ∧ ∃ now, m.reporter =
          (reported events).foldl (fun s o => (R.report o s).state) (R.start now reporter)))) ∧
    ((∀ host target,
        (m.phase = .idle → Enters R m (.ping host target)) ∧
        (m.phase ≠ .idle → Rejects R m (.ping host target) (.notIdle m.phase))) ∧
      ∀ directory host,
        (∀ target, resolve directory host = .ok target →
          m.stepAnytime R (.caller (.pingHost directory host)) =
            m.stepAnytime R (.caller (.ping host target))) ∧
        ∀ e, resolve directory host = .error e →
          e = .unknownHost host ∧ Rejects R m (.pingHost directory host) e) ∧
    ∀ a m' seen, m.stepAnytime R a = some (m', seen) →
      m.history <+: m'.history ∧
      ∀ outcome, .reported outcome ∈ seen →
        (m.phase = .running ∨ m.phase = .stopping) ∧ m'.history = m.history := by
  have life := run.life
  obtain ⟨p, hp, hhistory⟩ := life.history
  -- Phases, milestones and reports stand in the life; the calls are read off the step.
  refine ⟨⟨?_, ?_, ?_⟩, ⟨?_, life.entered_mem_iff, life.heard⟩, ⟨?_, ?_⟩, ?_⟩
  · rw [hhistory]
    exact p.upTo_ne_nil
  · rw [hhistory]
    exact p.upTo_prefix
  · rw [phase_of_upTo hhistory, hhistory, p.getLast?_upTo]
  · rw [life.milestones]
    exact Stage.milestones_prefix _ _
  · exact fun host target => ⟨fun idle => enters_ping idle host target,
      fun busy => rejects_ping busy host target⟩
  · intro directory host
    refine ⟨fun target hresolved => ?_, fun e hunresolved => ?_⟩
    · simp [stepAnytime, Action.reading?, stepAt, stepCaller, hresolved]
    · obtain rfl := error_of_resolve hunresolved
      exact ⟨rfl, rejects_pingHost hunresolved⟩
  · -- What a step does, it does after a reading of the clock, which changes nothing in a life.
    intro a m' seen taken
    obtain ⟨now, move⟩ := step_cases taken
    have order : Orderly { m with clock := now } := { run.orderly with }
    have move := lifeMove_of_move order move
    have life : Life R reporter events { m with clock := now } := { life with }
    exact ⟨move.history_prefix, fun outcome => life.of_reported move⟩

end Interleaving

/-- A host is not found, a run is asked for three times, and the pinger is stopped three times:
    while it is idle, while a probe is in flight, and after that. -/
def manyCalls : List Action :=
  let ask : Action := .caller (.ping "10.0.0.1" ⟨10, 0, 0, 1⟩)
  let sendTime : WallTime := ⟨1400, by decide, by decide⟩
  [.caller (.pingHost (fun _ => []) "nowhere"), .caller .beginStop, ask, ask,
    .sender (.start .zero), .sender (.launch .zero), .sender .look,
    .sender (.record sendTime .zero [⟨4⟩]), .sender (.attempt (.ok ())), .processor (.start .zero),
    .caller .beginStop, .caller .completeStop, ask, .caller .beginStop, .caller .completeStop,
    .sender (.tick .zero), .sender (.wake .zero), .sender .leave, .sender .haltReceiver,
    .receiver .poll, .sender .joinReceiver, .sender .haltProcessor, .processor .turn,
    .processor .drain, .processor .report, .sender .joinProcessor, .sender .close, .sender .return,
    .caller .completeStop]

/-- After the run, which was entered once and of which one outcome was reported, a call is told that
    the pinger is stopped. -/
theorem pinger_runs_once_manyCalls :
    ∃ events m, Execution (.counting .silent) (fresh (.startingAt .zero, ())) events m ∧
      m.history = [.idle, .running, .stopping, .stopped] ∧
      milestones events <+: .entered :: .started :: (reported events).map .reported ∧
      (reported events).length = 1 ∧ .entered ∈ events ∧
      Rejects (.counting .silent) m (.ping "10.0.0.1" ⟨10, 0, 0, 1⟩) (.notIdle .stopped) := by
  have hfinal : ((fresh (.startingAt .zero, ())).play (.counting .silent) manyCalls).map (fun n =>
      (n.1.history, (reported n.2).length)) =
      some ([.idle, .running, .stopping, .stopped], 1) := by
    decide +kernel
  obtain ⟨⟨m, events⟩, hplayed, hfinal⟩ := Option.map_eq_some_iff.1 hfinal
  simp only [Prod.mk.injEq] at hfinal
  obtain ⟨hhistory, hreported⟩ := hfinal
  have run := execution_of_play hplayed
  obtain ⟨-, ⟨hmilestones, hentered, -⟩, ⟨hping, -⟩, -⟩ := pinger_runs_once run.interleaving
  have hphase : m.phase = .stopped := phase_of_upTo (p := .stopped) hhistory
  have busy : m.phase ≠ .idle := by
    rw [hphase]
    decide
  exact ⟨events, m, run, hhistory, hmilestones, hreported, hentered.2 busy,
    hphase ▸ (hping _ _).2 busy⟩

end Machine

end Run

end EchoProbe
