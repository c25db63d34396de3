import EchoProbe.Proofs.Classification.Effect
import EchoProbe.Proofs.Run.Accounting
import EchoProbe.Proofs.Run.Clock
import EchoProbe.Proofs.Run.Origins

/-!
# Probes that cannot be sent

A probe is in the ledger from before the first attempt to send it. While the sender tries, the
others go on, so the processor may find the probe there: by a packet that names it, or by a sweep
once its deadline has passed. If the transport then refuses the probe for good, the sender takes it
back and the run ends. What was counted by then stays counted.

* `Fate`: what became of a probe while it was being sent. It is still in the ledger and was not
  counted, or it was counted once, for one of the two reasons (`Cause`).
* `InterleavingUpTo.fate`: this holds of every interleaving. A sweep that reads the clock no later
  than a probe's deadline does not find it.
* `fatal_send_taken_back`: a probe whose sending fails for good is taken back and never counted,
  unless it was named by a packet or its deadline has passed while it was being sent.
* `fatal_send_counted`: a run in which the deadline passes, and in which the statistics count a
  probe that was never sent.
-/

namespace EchoProbe.Run

namespace Event

/-- The event counts a probe with this identifier, as answered or as lost. -/
def Counts (i : Identifier) : Event → Prop
  | classified p outcome => p.Names i ∧ outcome.isCounted = true
  | swept requests | drained requests => ∃ r ∈ requests, r.identifier = i
  | _ => False

/-- Whether the event can come between the recording of a probe and the end of its sending: no
    attempt has succeeded by then. -/
def isPassing : Event → Bool
  | recorded _ _ | retracted _ _ | drained _ | transmitted _ (.ok ()) => false
  | _ => true

/-- Whether a packet was read, or an attempt to send has succeeded. -/
def isTraffic : Event → Bool
  | read _ | transmitted _ (.ok ()) => true
  | _ => false

theorem not_counts_of_isQuiet {e : Event} (h : e.isQuiet = true) (i : Identifier) :
    ¬ e.Counts i := by
  intro counts
  cases e <;> first | exact counts | cases h

end Event

theorem Sender.request?_of_hasHalted {s : Sender} (h : s.hasHalted = true) : s.request? = none := by
  cases s <;> first | rfl | cases h

/-- Whether the sender will record no more probes. -/
def Sender.isLeaving : Sender → Bool
  | failing _ | leaving | haltingReceiver | joiningReceiver | mourning | haltingProcessor
  | joiningProcessor | closing | returning | returned _ => true
  | _ => false

/-- Events that can come while a probe is being sent. -/
def Passing (seen : List Event) : Prop := ∀ e ∈ seen, e.isPassing = true

@[simp]
theorem passing_nil : Passing [] := by simp [Passing]

@[simp]
theorem passing_cons {e : Event} {seen : List Event} :
    Passing (e :: seen) ↔ e.isPassing = true ∧ Passing seen :=
  List.forall_mem_cons

@[simp]
theorem passing_append {events seen : List Event} :
    Passing (events ++ seen) ↔ Passing events ∧ Passing seen :=
  List.forall_mem_append

@[simp]
theorem passing_map_logged (log : List LogLine) : Passing (log.map .logged) := by
  simp [Passing, Event.isPassing]

@[simp]
theorem passing_map_loggedAside (log : List LogLine) : Passing (log.map .loggedAside) := by
  simp [Passing, Event.isPassing]

theorem Passing.recorded_eq_nil {seen : List Event} (passing : Passing seen) :
    recorded seen = [] := by
  refine List.filterMap_eq_nil_iff.2 fun e he => ?_
  have := passing e he
  cases e <;> first | rfl | cases this

theorem Passing.not_sent {seen : List Event} (passing : Passing seen) (t : Transmission) :
    .transmitted t (.ok ()) ∉ seen := fun h => by cases passing _ h

theorem Quiet.not_counts {seen : List Event} (quiet : Quiet seen) (i : Identifier) :
    ∀ e ∈ seen, ¬ e.Counts i :=
  fun e he => Event.not_counts_of_isQuiet (quiet e he) i

/-- Why a probe was counted that is still being sent: a packet named it, or a sweep found that its
    deadline had passed, by the clock up to `limit`. -/
inductive Cause (maxRtt : Duration) (limit : Instant) (r : Request) : Event → Prop
  | named {p : Packet} {outcome : Outcome} (names : p.Names r.identifier)
      (counted : outcome.isCounted = true)
      (tells : outcome.sequenceNumber? = some r.sequenceNumber) :
    Cause maxRtt limit r (.classified p outcome)
  | late {requests : List Request} (mem : r ∈ requests)
      (expired : r.isExpired limit maxRtt = true) : Cause maxRtt limit r (.swept requests)

/-- What became of a probe while it was being sent. It is kept in the ledger and was not counted,
    or it is not there any more and was counted once. -/
inductive Fate (maxRtt : Duration) (limit : Instant) (r : Request) :
    List Event → Option Request → Prop
  | kept {during : List Event} (uncounted : ∀ e ∈ during, ¬ e.Counts r.identifier) :
    Fate maxRtt limit r during (some r)
  | counted {earlier later : List Event} {e : Event} (cause : Cause maxRtt limit r e)
      (once : ∀ e' ∈ earlier ++ later, ¬ e'.Counts r.identifier) :
    Fate maxRtt limit r (earlier ++ e :: later) none

namespace Fate

variable {maxRtt : Duration} {limit : Instant} {r : Request} {during seen : List Event}
  {found : Option Request}

/-- Before the fate of the probe was decided, it was kept. -/
theorem after_kept (uncounted : ∀ e ∈ during, ¬ e.Counts r.identifier)
    (fate : Fate maxRtt limit r seen found) : Fate maxRtt limit r (during ++ seen) found := by
  cases fate with
  | kept more => exact .kept (List.forall_mem_append.2 ⟨uncounted, more⟩)
  | counted cause once =>
    rw [← List.append_assoc]
    refine .counted cause ?_
    rw [List.append_assoc]
    exact List.forall_mem_append.2 ⟨uncounted, once⟩

/-- Once the probe was counted, it is not counted again. -/
theorem after_counted (fate : Fate maxRtt limit r during none)
    (uncounted : ∀ e ∈ seen, ¬ e.Counts r.identifier) :
    Fate maxRtt limit r (during ++ seen) none := by
  cases fate with
  | counted cause once =>
    rw [List.append_assoc, List.cons_append]
    refine .counted cause ?_
    rw [← List.append_assoc]
    exact List.forall_mem_append.2 ⟨once, uncounted⟩

theorem of_cause {e : Event} (cause : Cause maxRtt limit r e)
    (uncounted : ∀ e' ∈ seen, ¬ e'.Counts r.identifier) : Fate maxRtt limit r (e :: seen) none :=
  @counted _ _ _ [] seen e cause uncounted

/-- A probe that no packet named before its deadline is kept. -/
theorem eq_some_of_timely (fate : Fate maxRtt limit r during found)
    (timely : r.isExpired limit maxRtt = false)
    (unnamed : ∀ p outcome, .classified p outcome ∈ during → ¬ p.Names r.identifier) :
    found = some r ∧ ∀ e ∈ during, ¬ e.Counts r.identifier := by
  cases fate with
  | kept uncounted => exact ⟨rfl, uncounted⟩
  | counted cause once =>
    cases cause with
    | named names => exact absurd names (unnamed _ _ (List.mem_append_right _ List.mem_cons_self))
    | late mem expired =>
      rw [timely] at expired
      cases expired

end Fate

namespace Machine

variable {σ : Type} {R : Reporter σ} {m m' : Machine σ} {seen : List Event} {limit : Instant}
  {r : Request} {i : Identifier}

/-! ## What a move counts -/

/-- What is counted was in flight, and is not in flight any more. -/
theorem LedgerMove.find?_of_counts (move : LedgerMove m m' seen) (filed : m.ledger.Filed)
    {e : Event} (he : e ∈ seen) (counts : e.Counts i) :
    (∃ r, m.ledger.find? i = some r) ∧ m'.ledger.find? i = none := by
  cases move with
  | rest quiet => exact absurd counts (quiet.not_counts i e he)
  | record =>
    obtain rfl := List.mem_singleton.1 he
    cases counts
  | retract =>
    obtain rfl := List.mem_singleton.1 he
    cases counts
  | classify packet log held ledger =>
    rcases List.mem_cons.1 he with rfl | he
    · obtain ⟨names, hcounted⟩ := counts
      rw [Ledger.isCounted_classify, Ledger.consumed?, Packet.names_iff.1 names,
        Option.bind_some, Option.isSome_iff_exists] at hcounted
      exact ⟨hcounted, by rw [ledger, Ledger.find?_classify_of_names names]⟩
    · exact absurd counts ((quiet_map_loggedAside log).not_counts i e he)
  | sweep ledger =>
    obtain rfl := List.mem_singleton.1 he
    obtain ⟨r, hr, rfl⟩ := counts
    obtain ⟨⟨j, hj⟩, hexpired⟩ := Ledger.mem_sweep.1 hr
    rw [filed j r hj]
    refine ⟨⟨r, hj⟩, ?_⟩
    rw [ledger, Ledger.find?_sweep, hj, Option.filter_some, hexpired]
    rfl
  | drain ledger =>
    obtain rfl := List.mem_singleton.1 he
    obtain ⟨r, hr, rfl⟩ := counts
    obtain ⟨j, hj⟩ := Ledger.mem_drain.1 hr
    rw [filed j r hj]
    exact ⟨⟨r, hj⟩, by rw [ledger, Ledger.find?_drain]⟩

/-- A probe that is not in flight is not counted. -/
theorem LedgerMove.not_counts (move : LedgerMove m m' seen) (filed : m.ledger.Filed)
    (h : m.ledger.find? i = none) : ∀ e ∈ seen, ¬ e.Counts i := by
  intro e he counts
  obtain ⟨⟨r, hr⟩, -⟩ := move.find?_of_counts filed he counts
  rw [h] at hr
  cases hr

/-- A move that can come while a probe is being sent keeps the probe or counts it. -/
theorem LedgerMove.fate (move : LedgerMove m m' seen) (filed : m.ledger.Filed)
    (passing : Passing seen) (hclock : m.clock ≤ limit)
    (h : m.ledger.find? r.identifier = some r) :
    Fate m.settings.maxRtt limit r seen (m'.ledger.find? r.identifier) := by
  by_cases hkept : m'.ledger.find? r.identifier = some r
  · -- Nothing counts a probe that is still there.
    rw [hkept]
    refine .kept fun e he counts => ?_
    have hgone := (move.find?_of_counts filed he counts).2
    rw [hkept] at hgone
    cases hgone
  · -- Only a packet that names the probe or a sweep beyond its deadline can have removed it.
    cases move with
    | rest quiet ledger => exact absurd (by rw [ledger, h]) hkept
    | record => cases (passing_cons.1 passing).1
    | retract => cases (passing_cons.1 passing).1
    | drain => cases (passing_cons.1 passing).1
    | classify packet log held ledger =>
      have names : packet.Names r.identifier := by
        by_contra hother
        refine hkept ?_
        rw [ledger, Ledger.find?_classify_of_not_names hother, h]
      obtain ⟨-, hcounted, htells⟩ :=
        Ledger.classify_of_consumed? (Ledger.consumed?_of_names names h)
      rw [ledger, Ledger.find?_classify_of_names names]
      exact .of_cause (.named names hcounted htells) ((quiet_map_loggedAside log).not_counts _)
    | sweep ledger =>
      have hexpired : r.isExpired m.clock m.settings.maxRtt = true := by
        by_contra hfresh
        refine hkept ?_
        rw [ledger, Ledger.find?_sweep, h, Option.filter_some, eq_false_of_ne_true hfresh]
        rfl
      have hmem : r ∈ (m.ledger.sweep m.clock m.settings.maxRtt).1 :=
        Ledger.mem_sweep.2 ⟨⟨_, h⟩, hexpired⟩
      rw [ledger, Ledger.find?_sweep, h, Option.filter_some, hexpired]
      exact .of_cause (.late hmem (Request.isExpired_mono hclock hexpired)) (by simp)

theorem LedgerMove.fate_append {maxRtt : Duration} {during : List Event}
    (move : LedgerMove m m' seen) (filed : m.ledger.Filed)
    (passing : Passing seen) (hclock : m.clock ≤ limit)
    (hmaxRtt : m.settings.maxRtt = maxRtt)
    (fate : Fate maxRtt limit r during (m.ledger.find? r.identifier)) :
    Fate maxRtt limit r (during ++ seen) (m'.ledger.find? r.identifier) := by
  generalize hfound : m.ledger.find? r.identifier = found at fate
  cases found with
  | some s =>
    obtain ⟨rfl, uncounted⟩ : s = r ∧ ∀ e ∈ during, ¬ e.Counts r.identifier := by
      cases fate with
      | kept uncounted => exact ⟨rfl, uncounted⟩
    exact .after_kept uncounted (hmaxRtt ▸ move.fate filed passing hclock hfound)
  | none =>
    -- It was counted before, and comes back only if it is recorded again.
    rcases move.subset_or_record with ⟨part, -⟩ | ⟨request, sendTime, -, -, rfl⟩
    · rw [Ledger.find?_eq_none_of_subset part hfound]
      exact fate.after_counted (move.not_counts filed hfound)
    · cases (passing_cons.1 passing).1

/-! ## While a probe is being sent -/

/-- A probe that is being sent was so before, or was just recorded. -/
theorem request_of_move (order : Orderly m) (move : Move R m m' seen)
    (h : m'.sender.request? = some r) :
    (m.sender.request? = some r ∧ Passing seen) ∨
      ∃ t, seen = [.recorded r t] ∧ m'.ledger.find? r.identifier = some r := by
  cases move with
  | clock now => exact .inl ⟨h, by simp⟩
  | caller move =>
    cases move
    case enter => cases h
    all_goals exact .inl ⟨h, by simp [Event.isPassing]⟩
  | sender move =>
    cases move
    case record tick sendTime draws request ledger place recorded =>
      obtain rfl := Option.some.inj h
      obtain ⟨-, hrecord⟩ := Ledger.insert_eq_ok recorded
      exact .inr ⟨sendTime, rfl, Ledger.find?_of_record hrecord⟩
    case retry tick request bytes attempt result e place again left log =>
      refine .inl ⟨by rw [place]; exact h, ?_⟩
      rcases result with e | _
      · simp [Event.isPassing]
      · cases again
    case fatal tick request bytes attempt result e place fatal =>
      refine .inl ⟨by rw [place]; exact h, ?_⟩
      rcases result with e | _
      · simp [Event.isPassing]
      · cases fatal
    all_goals cases h
  | receiver move =>
    refine .inl ⟨?_, ?_⟩
    · cases move <;> exact h
    · cases move <;> simp [Event.isPassing]
  | processor move =>
    cases move
    case drain place =>
      -- The sender halts the processor only when it sends no more probes.
      have hhalted := order.halted (order.finishing (by rw [place]; rfl))
      rw [Sender.request?_of_hasHalted hhalted] at h
      cases h
    all_goals exact .inl ⟨h, by simp [Event.isPassing]⟩

section Interleaving

variable {settings : Settings} {filler : Wire.Filler} {reporter : σ} {flags : Flags}
  {handle : Handle} {clock : Instant} {events : List Event}

theorem Interleaving.filed
    (run : Interleaving R (init settings filler reporter flags handle clock) events m) :
    m.ledger.Filed := fun _ _ h => (run.lastUnder h).1

/-- The probe that is being sent was the last one to be recorded, and one of two things became of
    it. -/
theorem InterleavingUpTo.fate
    (run : InterleavingUpTo R (init settings filler reporter flags handle clock) limit events m)
    (h : m.sender.request? = some r) :
    ∃ before t during, events = before ++ .recorded r t :: during ∧ Passing during ∧
      Fate settings.maxRtt limit r during (m.ledger.find? r.identifier) := by
  induction run with
  | refl => cases h
  | @step events seen m m' a before early taken ih =>
    obtain ⟨now, hnow, move, -⟩ := step_cases_upTo before.clock_le early taken
    have order := before.interleaving.orderly.of_move (R := R) (.clock now)
    rcases request_of_move order move h with ⟨hheld, passing⟩ | ⟨t, rfl, hfound⟩
    · obtain ⟨earlier, t, during, rfl, hbefore, fate⟩ := ih hheld
      refine ⟨earlier, t, during ++ seen, by simp, passing_append.2 ⟨hbefore, passing⟩, ?_⟩
      have hmaxRtt := congrArg Settings.maxRtt before.interleaving.settings_eq
      exact (ledgerMove_of_move move).fate_append before.interleaving.filed passing hnow hmaxRtt fate
    · refine ⟨events, t, [], rfl, passing_nil, ?_⟩
      rw [hfound]
      exact .kept (by simp)

end Interleaving

/-! ## After a probe was taken back -/

theorem step_retract (taken : m.stepAnytime R (.sender .retract) = some (m', seen)) :
    ∃ request e, m.sender = .retracting request e ∧
      { m with
        ledger := m.ledger.erase request.identifier
        sender := .failing (.transport e) } = m' ∧
      [.retracted request (m.ledger.find? request.identifier)] = seen := by
  change m.stepSender R .retract = some (m', seen) at taken
  cases place : m.sender with
  | retracting request e =>
    simp only [stepSender, place, Option.some.injEq, Prod.mk.injEq] at taken
    exact ⟨request, e, rfl, taken.1, taken.2⟩
  | _ => simp [stepSender, place] at taken

theorem isLeaving_of_move (order : Orderly m) (leaving : m.sender.isLeaving = true)
    (move : Move R m m' seen) : m'.sender.isLeaving = true ∧ recorded seen = [] := by
  cases move with
  | clock now => exact ⟨leaving, rfl⟩
  | caller move =>
    cases move
    case enter host target idle =>
      -- A pinger that was asked for a run before is not idle.
      rw [order.idle idle] at leaving
      cases leaving
    all_goals exact ⟨leaving, by simp [Event.recorded?]⟩
  | sender move =>
    cases move
    -- It is at none of the places before it leaves, and no later move records a probe.
    all_goals first
      | rw [‹m.sender = _›] at leaving
        cases leaving
        done
      | exact ⟨rfl, Quiet.recorded_eq_nil (by simp [Event.isQuiet])⟩
  | receiver move =>
    refine ⟨?_, ?_⟩
    · cases move <;> exact leaving
    · cases move <;> simp [Event.recorded?]
  | processor move =>
    refine ⟨?_, ?_⟩
    · cases move <;> exact leaving
    · cases move <;> simp [Event.recorded?, (quiet_map_loggedAside _).recorded_eq_nil]

/-- A probe that is not in flight when the sender is about to leave is not counted any more. -/
theorem Interleaving.not_counts_of_isLeaving {start : Machine σ} {later : List Event}
    (run : Interleaving R start later m) (order : Orderly start) (filed : start.ledger.Filed)
    (leaving : start.sender.isLeaving = true) (h : start.ledger.find? i = none) :
    recorded later = [] ∧ ∀ e ∈ later, ¬ e.Counts i := by
  have hall : (Orderly m ∧ m.sender.isLeaving = true ∧ m.ledger ⊆ start.ledger) ∧
      recorded later = [] ∧ ∀ e ∈ later, ¬ e.Counts i := by
    refine run.invariant (P := fun later m =>
      (Orderly m ∧ m.sender.isLeaving = true ∧ m.ledger ⊆ start.ledger) ∧
        recorded later = [] ∧ ∀ e ∈ later, ¬ e.Counts i)
      ⟨⟨order, leaving, Ledger.Subset.refl _⟩, rfl, by simp⟩ ?_
    rintro later m m' seen ⟨⟨order, leaving, part⟩, hrecorded, uncounted⟩ move
    obtain ⟨leaving', hseen⟩ := isLeaving_of_move order leaving move
    have hledger := ledgerMove_of_move move
    have hpart : m'.ledger ⊆ m.ledger := by
      rcases hledger.subset_or_record with ⟨hpart, -⟩ | ⟨request, sendTime, -, -, rfl⟩
      · exact hpart
      · cases hseen
    refine ⟨⟨order.of_move move, leaving', Ledger.Subset.trans hpart part⟩, ?_, ?_⟩
    · rw [recorded_append, hrecorded, hseen, List.append_nil]
    · refine List.forall_mem_append.2 ⟨uncounted, ?_⟩
      exact hledger.not_counts (filed.of_subset part) (Ledger.find?_eq_none_of_subset part h)
  exact hall.2

section Interleaving

variable {settings : Settings} {filler : Wire.Filler} {reporter : σ} {flags : Flags}
  {handle : Handle} {clock : Instant} {events later : List Event} {m'' : Machine σ}

/-- However a run interleaves: when the sender takes a probe back, no attempt to send it has
    succeeded, and the run has failed. The probe is the last one to be recorded. Either it is taken
    out of the ledger, and was not counted while it was being sent, or it was counted once in that
    time, because a packet named it or because a sweep read the clock beyond its deadline. It is
    not counted later. So a probe that is taken back before its deadline is never counted, unless
    a packet names it. -/
theorem fatal_send_taken_back
    (run : InterleavingUpTo R (init settings filler reporter flags handle clock) limit events m)
    (taken : m.stepAnytime R (.sender .retract) = some (m', seen))
    (rest : Interleaving R m' later m'') :
    ∃ request e removed before sendTime during,
      (m.sender = .retracting request e ∧ m'.sender = .failing (.transport e)) ∧
      (events = before ++ .recorded request sendTime :: during ∧
        seen = [.retracted request removed] ∧ recorded (during ++ later) = [] ∧
        ∀ t, .transmitted t (.ok ()) ∉ during) ∧
      Fate settings.maxRtt limit request during removed ∧
      (∀ e ∈ later, ¬ e.Counts request.identifier) ∧
      (request.isExpired limit settings.maxRtt = false →
        (∀ p outcome, .classified p outcome ∈ during → ¬ p.Names request.identifier) →
        removed = some request ∧ ∀ e ∈ during ++ later, ¬ e.Counts request.identifier) := by
  obtain ⟨request, e, place, rfl, rfl⟩ := step_retract taken
  obtain ⟨before, sendTime, during, rfl, passing, fate⟩ := run.fate (by rw [place]; rfl)
  have order := run.interleaving.orderly
  have filed := run.interleaving.filed
  obtain ⟨hrecorded, uncounted⟩ := rest.not_counts_of_isLeaving
    (order.of_move (R := R) (.sender (.retract request e place)))
    (filed.of_subset (Ledger.erase_subset _ _)) rfl
    (Ledger.find?_erase_self _ _)
  refine ⟨request, e, m.ledger.find? request.identifier, before, sendTime, during, ⟨place, rfl⟩,
    ⟨rfl, rfl, ?_, passing.not_sent⟩, fate, uncounted, ?_⟩
  · rw [recorded_append, passing.recorded_eq_nil, hrecorded, List.append_nil]
  · intro timely unnamed
    obtain ⟨hkept, hduring⟩ := fate.eq_some_of_timely timely unnamed
    exact ⟨hkept, List.forall_mem_append.2 ⟨hduring, uncounted⟩⟩

end Interleaving

/-- The first probe is refused for good, after a sweep at the given time. -/
def refusedSend (sweepAt : Instant) : List Action :=
  let sendTime : WallTime := ⟨5600, by decide, by decide⟩
  [.caller (.ping "10.0.0.1" ⟨10, 0, 0, 1⟩), .sender (.start .zero), .sender (.launch .zero),
    .sender .look, .sender (.record sendTime .zero [⟨3⟩]), .processor (.start .zero),
    .processor .turn, .processor .giveUpWaiting, .processor (.check sweepAt),
    .processor (.sweep sweepAt), .sender (.attempt (.error (.plain .permissionDenied)))]

/-- The request of the refused probe. -/
def refusedRequest : Request := ⟨⟨3⟩, .first, .zero, ⟨10, 0, 0, 1⟩⟩

/-- The end of a run after a fatal error of the sender. -/
def runOut : List Action :=
  [.sender .fail, .sender .leave, .sender .haltReceiver, .receiver .poll, .sender .joinReceiver,
    .sender .haltProcessor, .processor .turn, .processor .drain, .sender .joinProcessor,
    .sender .close, .sender .return]

/-- A sweep before the deadline does not find the refused probe, and it is never counted. -/
theorem fatal_send_taken_back_early :
    ∃ events m m' seen later m'',
      InterleavingUpTo (.counting .silent) (fresh (.startingAt .zero, ())) m.clock events m ∧
      m.stepAnytime (.counting .silent) (.sender .retract) = some (m', seen) ∧
      Interleaving (.counting .silent) m' later m'' ∧
      refusedRequest.isExpired m.clock (default : Settings).maxRtt = false ∧
      seen = [.retracted refusedRequest (some refusedRequest)] ∧
      ∀ e ∈ later, ¬ e.Counts refusedRequest.identifier := by
  let sweepAt : Instant := ⟨20600000, by decide, by decide⟩
  have hfinal : ((fresh (.startingAt .zero, ())).play (.counting .silent)
      (refusedSend sweepAt)).bind (fun n =>
        (n.1.stepAnytime (.counting .silent) (.sender .retract)).bind fun n' =>
          (n'.1.play (.counting .silent) (.processor (.rearm sweepAt) :: runOut)).map fun _ =>
            (recorded n.2, made n.2,
              refusedRequest.isExpired n.1.clock (default : Settings).maxRtt)) =
      some ([refusedRequest], [], false) := by
    decide +kernel
  obtain ⟨⟨m, events⟩, hplayed, hfinal⟩ := Option.bind_eq_some_iff.1 hfinal
  obtain ⟨⟨m', seen⟩, htaken, hfinal⟩ := Option.bind_eq_some_iff.1 hfinal
  obtain ⟨⟨m'', later⟩, hrest, hfinal⟩ := Option.map_eq_some_iff.1 hfinal
  simp only [Prod.mk.injEq] at hfinal
  obtain ⟨hrecorded, hmade, htimely⟩ := hfinal
  have run := (execution_of_play hplayed).upTo
  have rest := (execution_of_play hrest).interleaving
  obtain ⟨request, e, removed, before, sendTime, during, -, ⟨hevents, hseen, -⟩, -, -, hearly⟩ :=
    fatal_send_taken_back run htaken rest
  obtain rfl : request = refusedRequest := by
    have hmem : request ∈ recorded events := mem_recorded.2 ⟨sendTime, by simp [hevents]⟩
    rwa [hrecorded, List.mem_singleton] at hmem
  obtain ⟨rfl, huncounted⟩ := hearly htimely fun p outcome hclassified => by
    -- A packet that was classified would have made an outcome.
    have hnone := List.flatMap_eq_nil_iff.1 hmade (.classified p outcome)
      (by simp [hevents, hclassified])
    cases hnone
  exact ⟨events, m, m', seen, later, m'', run, htaken, rest, htimely, hseen, fun e he =>
    huncounted e (List.mem_append_right _ he)⟩

/-- A sweep after the deadline counts the refused probe as lost, although no attempt to send it has
    succeeded and nothing was received. -/
theorem fatal_send_counted :
    ∃ events m, Execution (.counting .silent) (fresh (.startingAt .zero, ())) events m ∧
      m.sender = .returned (.error (.transport (.plain .permissionDenied))) ∧
      recorded events = [refusedRequest] ∧ takenBack events = [] ∧
      events.any Event.isTraffic = false ∧
      counted events = [refusedRequest.lost .timeout] ∧ m.reporter.1.size = 1 := by
  let sweepAt : Instant := ⟨1300600000, by decide, by decide⟩
  have hfinal : ((fresh (.startingAt .zero, ())).play (.counting .silent)
      (refusedSend sweepAt ++
        [.sender .retract, .processor .report, .processor (.rearm sweepAt)] ++ runOut)).map (fun n =>
        ((n.1.sender.failure?, n.2.any Event.isTraffic), (recorded n.2, takenBack n.2),
          counted n.2, (reported n.2).countP (·.isCounted))) =
      some ((some (.transport (.plain .permissionDenied)), false), ([refusedRequest], []),
        [refusedRequest.lost .timeout], 1) := by
    decide +kernel
  obtain ⟨⟨m, events⟩, hplayed, hfinal⟩ := Option.map_eq_some_iff.1 hfinal
  simp only [Prod.mk.injEq] at hfinal
  obtain ⟨⟨hfailure, htraffic⟩, ⟨hrecorded, htakenBack⟩, hcounted, hreported⟩ := hfinal
  have run := execution_of_play hplayed
  obtain ⟨hsize, -⟩ := run.interleaving.size_statistics (Reporter.counts_counting _) rfl
  exact ⟨events, m, run, Sender.returned_of_failure? hfailure, hrecorded, htakenBack, htraffic,
    hcounted, hsize.trans hreported⟩

end Machine

end EchoProbe.Run
