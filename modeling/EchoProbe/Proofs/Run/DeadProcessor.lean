import EchoProbe.Proofs.Run.Failures

/-!
# The death of the processor

The processor dies when the reporter panics. Nobody watches it: the receiver meets its death when
it has a packet to hand over and nobody takes it, and tells it then as a fatal error. The sender,
which in the end waits for the processor, only logs it.

So the death is told exactly if another packet was read (`Handover`). If none was, the run goes on
without sweeps and reports until it is stopped, and may return ok.

* `dead_processor_noticed_iff`: what a run returns whose processor has died;
* `dead_processor_unnoticed`: a run that returns ok although its reporter panicked when it was told
  the first of two probes.
-/

namespace EchoProbe.Run

@[simp]
theorem Processor.afterReports_ne_panicked (outcomes : List Outcome) (next : AfterReports) :
    afterReports outcomes next ≠ panicked := by
  cases outcomes <;> cases next <;> nofun

/-- The processor has died. -/
def Processor.isPanicked : Processor → Bool
  | panicked => true
  | _ => false

theorem Processor.eq_panicked_of_isPanicked {p : Processor} (h : p.isPanicked = true) :
    p = .panicked := by
  cases p with
  | panicked => rfl
  | _ => cases h

/-- The sender has returned without an error. -/
def Sender.isOk : Sender → Bool
  | returned (.ok ()) => true
  | _ => false

theorem Sender.returned_of_isOk {s : Sender} (h : s.isOk = true) : s = .returned (.ok ()) := by
  cases s with
  | returned result =>
    rcases result with e | _
    · cases h
    · rfl
  | _ => cases h

namespace Machine

variable {σ : Type} {R : Reporter σ} {m m' : Machine σ} {events seen : List Event}

/-! ## Packets that are not taken -/

/-- What becomes of the packets: either all that were read were classified or are in transit, and
    nobody has met the death of the processor; or the receiver has given up the last of them. -/
inductive Handover (events : List Event) (m : Machine σ) : Prop
  | kept (packets : readPackets events = classifiedPackets events ++ m.inTransit)
      (unmet : processorDied ∉ failures events ++ m.untold)
  | givenUp (packet : Packet)
      (packets : readPackets events = classifiedPackets events ++ [packet])
      (dead : m.processor = .panicked)
      (place : m.receiver = .failing processorDied ∨ m.receiver = .ended)
      (met : processorDied ∈ failures events ++ m.untold)

/-- Once the receiver has given up a packet, nothing is read or classified. -/
theorem receiver_of_givenUp (attended : Attended m) (dead : m.processor = .panicked)
    (place : m.receiver = .failing processorDied ∨ m.receiver = .ended)
    (move : Move R m m' seen) :
    (m'.receiver = .failing processorDied ∨ m'.receiver = .ended) ∧ readPackets seen = [] ∧
      classifiedPackets seen = [] := by
  cases move with
  | clock now => exact ⟨place, rfl, rfl⟩
  | caller move => cases move <;> exact ⟨place, rfl, rfl⟩
  | sender move =>
    cases move
    case launch hsender =>
      have habsent := attended.unlaunched (by rw [hsender]; rfl)
      simp [habsent] at place
    all_goals exact ⟨place, by simp [Event.read?], by simp [Event.classified?]⟩
  | receiver move =>
    cases move
    case fail e hreceiver => exact ⟨.inr rfl, rfl, rfl⟩
    all_goals simp_all
  | processor move =>
    -- A processor that has died makes no move.
    exfalso
    cases move
    case halt place halted => rcases place with place | ⟨place, -⟩ <;> simp [place] at dead
    all_goals simp_all

/-- When the receiver gives up a packet, it does nothing else. -/
theorem seen_of_givenUp (move : Move R m m' seen) {packet : Packet}
    (place : m.receiver = .handing packet) (givenUp : m'.receiver = .failing processorDied) :
    seen = [] := by
  cases move with
  | clock now => rfl
  | caller move => cases move <;> simp [place] at givenUp
  | sender move => cases move <;> simp [place, afterFailure] at givenUp
  | receiver move => cases move <;> simp_all
  | processor move => cases move <;> simp [place] at givenUp

/-- Every move keeps account of the packet that the receiver may have to give up. -/
theorem Handover.of_move (order : Orderly m) (attended : Attended m) (h : Handover events m)
    (move : Move R m m' seen) : Handover (events ++ seen) m' := by
  cases h with
  | givenUp packet packets dead place met =>
    -- The receiver reads no more, and the dead processor classifies no more.
    obtain ⟨place', hread, hclassified⟩ := receiver_of_givenUp attended dead place move
    refine .givenUp packet ?_ (panicked_of_move order move dead) place' ?_
    · rw [readPackets_append, classifiedPackets_append, hread, hclassified, List.append_nil,
        List.append_nil, packets]
    · rw [failures_append, List.append_assoc]
      rcases List.mem_append.1 met with met | met
      · exact List.mem_append_left _ met
      · exact List.mem_append_right _ (mem_of_mem_untold order attended move met)
  | kept packets unmet =>
    by_cases hgivenUp : ∃ packet, m.receiver = .handing packet ∧
        m'.receiver = .failing processorDied
    · obtain ⟨packet, place, givenUp⟩ := hgivenUp
      have dead := panicked_of_givenUp attended order move place givenUp
      obtain rfl := seen_of_givenUp move place givenUp
      rw [List.append_nil]
      refine .givenUp packet ?_ (panicked_of_move order move dead) (.inl givenUp) ?_
      · simp [packets, inTransit, dead, place, Processor.held?, Receiver.held?]
      · simp [untold, givenUp, Receiver.untold?]
    · -- Whatever else happens, the packets are kept, and no other death is that of the processor.
      have hkept (packet) (place : m.receiver = .handing packet) :
          m'.receiver ≠ .failing processorDied := fun givenUp => hgivenUp ⟨packet, place, givenUp⟩
      refine .kept ?_ ?_
      · rw [readPackets_append, classifiedPackets_append, packets, List.append_assoc,
          transit_of_move attended order hkept move, List.append_assoc]
      · rw [failures_append, List.append_assoc]
        intro hmet
        rcases List.mem_append.1 hmet with hmet | hmet
        · exact unmet (List.mem_append_left _ hmet)
        rcases death_of_move order attended move hmet with hmet | ⟨hreceiver, -⟩ | ⟨-, hmet⟩
        · exact unmet (List.mem_append_right _ hmet)
        · simp [receiverDied] at hreceiver
        · exact hgivenUp hmet

/-! ## Outcomes that are not told -/

/-- What was seen of a run in which the reporter panicked: it was told one outcome too many, and
    from then on no outcome was made or told. -/
def EndsReports (R : Reporter σ) (events : List Event) : Prop :=
  ∃ before outcome after, events = before ++ .reported outcome :: after ∧
    (∃ s, (R.report outcome s).panicked = true) ∧ made after = [] ∧ reported after = []

theorem EndsReports.append (h : EndsReports R events) (hmade : made seen = [])
    (hreported : reported seen = []) : EndsReports R (events ++ seen) := by
  obtain ⟨before, outcome, after, rfl, hpanicked, hafter, hsilent⟩ := h
  refine ⟨before, outcome, after ++ seen, by simp, hpanicked, ?_, ?_⟩
  · rw [made_append, hafter, hmade, List.append_nil]
  · rw [reported_append, hsilent, hreported, List.append_nil]

/-- A processor is dead after a move because the reporter panics in it, or because it was dead
    before; then no outcome is made or told. -/
theorem endsReports_of_move (move : Move R m m' seen) (dead : m'.processor = .panicked) :
    EndsReports R seen ∨ m.processor = .panicked ∧ made seen = [] ∧ reported seen = [] := by
  cases move with
  | clock now => exact .inr ⟨dead, rfl, rfl⟩
  | caller move => cases move <;> exact .inr ⟨dead, rfl, rfl⟩
  | sender move =>
    cases move
    -- A dead processor is not one that was just launched or that a packet is handed to.
    case launch => cases dead
    case record => exact .inr ⟨dead, rfl, rfl⟩
    case retract => exact .inr ⟨dead, rfl, rfl⟩
    all_goals exact .inr ⟨dead, Quiet.made_eq_nil (by simp [Event.isQuiet]),
      by simp [Event.reported?]⟩
  | receiver move =>
    cases move
    case handOver => cases dead
    all_goals exact .inr ⟨dead, rfl, rfl⟩
  | processor move =>
    cases move
    case panic outcome others next place panicked =>
      exact .inl ⟨_, outcome, [], rfl, ⟨_, panicked⟩, rfl, rfl⟩
    all_goals simp_all

/-! ## Whole runs -/

section Interleaving

variable {settings : Settings} {filler : Wire.Filler} {reporter : σ} {flags : Flags}
  {handle : Handle} {clock : Instant}

theorem Interleaving.handover
    (run : Interleaving R (init settings filler reporter flags handle clock) events m) :
    Handover events m :=
  (run.invariant_of_attended (P := Handover) (.kept rfl nofun)
    fun _ _ _ _ order attended h move => h.of_move order attended move).2

theorem Interleaving.endsReports
    (run : Interleaving R (init settings filler reporter flags handle clock) events m)
    (dead : m.processor = .panicked) : EndsReports R events := by
  refine run.invariant (P := fun events m => m.processor = .panicked → EndsReports R events)
    (fun h => by cases h) ?_ dead
  intro events m m' seen hends move dead
  rcases endsReports_of_move move dead with
    ⟨before, outcome, after, rfl, h⟩ | ⟨dead, hmade, hsilent⟩
  · exact ⟨events ++ before, outcome, after, by simp, h⟩
  · exact (hends dead).append hmade hsilent

/-- The sender tells the death of the receiver before it goes on to the processor. -/
theorem Interleaving.receiverDied_mem
    (run : Interleaving R (init settings filler reporter flags handle clock) events m)
    (joined : m.sender.hasJoinedReceiver = true) (told : m.sender ≠ .mourning)
    (dead : m.receiver = .panicked) : receiverDied ∈ failures events := by
  refine (run.invariant_of_attended (P := fun events m => m.sender.hasJoinedReceiver = true →
    m.sender ≠ .mourning → m.receiver = .panicked → receiverDied ∈ failures events)
    (fun h => by cases h) ?_).2 joined told dead
  intro events m m' seen order attended htold move joined told dead
  rw [failures_append, List.mem_append]
  cases move with
  | clock now => exact .inl (htold joined told dead)
  | caller move =>
    cases move
    case enter => cases joined
    all_goals exact .inl (htold joined told dead)
  | sender move =>
    cases move
    case joinReceiver place gone =>
      rw [gone] at dead
      cases dead
    case launch => cases dead
    case mourn => exact absurd rfl told
    case failForReceiver => exact .inr (by simp [Event.failure?, receiverDied])
    all_goals
      have hbefore : m.sender.hasJoinedReceiver = true ∧ m.sender ≠ .mourning := by
        clear htold
        simp_all [Sender.hasJoinedReceiver]
      exact .inl (htold hbefore.1 hbefore.2 dead)
  | receiver move =>
    -- A receiver that still does something is not gone, and the sender waits for it.
    have hgone := attended.joined (by cases move <;> exact joined)
    cases move <;> simp_all [Receiver.isGone]
  | processor move => cases move <;> exact .inl (htold joined told dead)

/-- When the run has returned, nothing was told exactly if no fatal error occurred and nobody met
    the death of an activity. -/
theorem Interleaving.failures_eq_nil_iff
    (run : Interleaving R (init settings filler reporter flags handle clock) events m)
    {result : Except RunError Unit} (returned : m.sender = .returned result) :
    failures events = [] ↔
      processorDied ∉ failures events ∧ fatalErrors events = [] ∧ m.receiver ≠ .panicked := by
  have hperm := run.fatalErrors_perm
  rw [run.untold_eq_nil returned, List.append_nil] at hperm
  constructor
  · intro hnil
    rw [hnil] at hperm ⊢
    refine ⟨List.not_mem_nil, hperm.symm.eq_nil, fun dead => ?_⟩
    have hmem := run.receiverDied_mem (by rw [returned]; rfl) (by simp [returned]) dead
    rw [hnil] at hmem
    cases hmem
  · rintro ⟨unmet, hfatal, alive⟩
    rw [hfatal] at hperm
    refine List.eq_nil_iff_forall_not_mem.2 fun e he => ?_
    cases e with
    | activityDied activity =>
      rcases run.hasDied_of_mem (List.mem_append_left _ he) with ⟨-, dead⟩ | ⟨rfl, -⟩
      · exact alive dead
      · exact unmet he
    | _ =>
      have hmem := hperm.mem_iff.1 (List.mem_filter.2 ⟨he, by rfl⟩)
      cases hmem

/-- When the run has returned, at most one packet was read and not classified, and the death of the
    processor was told exactly if there is one. -/
theorem Interleaving.exists_left
    (run : Interleaving R (init settings filler reporter flags handle clock) events m)
    {result : Except RunError Unit} (returned : m.sender = .returned result) :
    ∃ left, readPackets events = classifiedPackets events ++ left ∧ left.length ≤ 1 ∧
      (processorDied ∈ failures events ↔ left ≠ []) := by
  have huntold := run.untold_eq_nil returned
  cases run.handover with
  | kept packets unmet =>
    rw [run.inTransit_eq_nil returned] at packets
    rw [huntold, List.append_nil] at unmet
    exact ⟨[], packets, Nat.zero_le 1, by simp [unmet]⟩
  | givenUp packet packets _ _ met =>
    rw [huntold, List.append_nil] at met
    exact ⟨[packet], packets, Nat.le_refl 1, by simp [met]⟩

/-- However a run interleaves in which the processor has died: the reporter panicked when it was
    told an outcome, and from then on no outcome was made or told, so the probes that were in flight
    or were recorded later are dropped. The run returns the error that was told first, or ok if none
    was. The packets that were read are those that were classified and at most one more, and the
    death is told exactly if there is one more. So the run returns ok exactly if no packet was left,
    no fatal error occurred, and the receiver has not died either. If a packet was left, it returns
    the death of the processor or an error that was told before it. -/
theorem dead_processor_noticed_iff
    (run : Interleaving R (init settings filler reporter flags handle clock) events m)
    (dead : m.processor = .panicked) {result : Except RunError Unit}
    (returned : m.sender = .returned result) :
    EndsReports R events ∧
    result = (failures events).head?.elim (.ok ()) .error ∧
    (∃ left, readPackets events = classifiedPackets events ++ left ∧ left.length ≤ 1 ∧
      (processorDied ∈ failures events ↔ left ≠ [])) ∧
    (result = .ok () ↔ readPackets events = classifiedPackets events ∧ fatalErrors events = [] ∧
      m.receiver ≠ .panicked) ∧
    (readPackets events ≠ classifiedPackets events →
      result = .error processorDied ∨
      ∃ e others, failures events = e :: others ∧ processorDied ∈ others ∧ result = .error e) := by
  have hresult := run.result_eq returned
  obtain ⟨left, hpackets, hlength, hmet⟩ := run.exists_left returned
  have hnone : processorDied ∉ failures events ↔ readPackets events = classifiedPackets events := by
    rw [hmet, not_not, hpackets, List.append_right_eq_self]
  refine ⟨run.endsReports dead, hresult, ⟨left, hpackets, hlength, hmet⟩, ?_, fun hne => ?_⟩
  · have hok : result = .ok () ↔ failures events = [] := by
      rw [hresult, resultOf_eq_ok_iff]
    rw [hok, run.failures_eq_nil_iff returned, hnone]
  · have hmem : processorDied ∈ failures events := not_not.1 fun hunmet => hne (hnone.1 hunmet)
    cases hfailures : failures events with
    | nil => simp [hfailures] at hmem
    | cons e others =>
      rw [hfailures] at hmem
      rw [resultOf, hfailures] at hresult
      rcases List.mem_cons.1 hmem with rfl | hmem
      · exact .inl hresult
      · exact .inr ⟨e, others, rfl, hmem, hresult⟩

end Interleaving

/-- The reporter panics when it is told the reply to the first probe, and another packet is read. -/
def deathMet : List Action :=
  let target : IPv4 := ⟨10, 0, 0, 1⟩
  let sendTime : WallTime := ⟨1310, by decide, by decide⟩
  let readTime : WallTime := ⟨3310, by decide, by decide⟩
  let echo := Wire.echoOf (Wire.probe ⟨⟨2⟩, .first⟩ sendTime (Vector.replicate 48 0))
  let buffer := Wire.overwrite (List.replicate 512 0) echo
  let read : Action :=
    .receiver (.read (.returned (.ok ⟨64, target, ⟨64⟩⟩) buffer) .zero readTime)
  [.caller (.ping "10.0.0.1" target), .sender (.start .zero), .sender (.launch .zero),
    .sender .look, .sender (.record sendTime .zero [⟨2⟩]), .sender (.attempt (.ok ())),
    .processor (.start .zero), .processor .turn, .receiver .poll, read, .receiver .handOver,
    .processor .classify, .processor .report, .receiver .poll, read, .receiver .abandon,
    .receiver .fail, .sender (.tick .zero), .sender (.wake .zero), .sender .leave,
    .sender .haltReceiver, .sender .joinReceiver, .sender .haltProcessor, .sender .joinProcessor,
    .sender .close, .sender .return]

/-- The second packet is not classified, and the run returns that the processor has died. -/
theorem dead_processor_noticed_iff_secondPacket :
    ∃ events m, Interleaving (recorder (some 1)) (fresh {}) events m ∧ m.processor = .panicked ∧
      m.sender = .returned (.error processorDied) ∧ processorDied ∈ failures events ∧
      (readPackets events).length = 2 ∧ (classifiedPackets events).length = 1 := by
  have hfinal : ((fresh {}).play (recorder (some 1)) deathMet).map (fun n =>
      (n.1.processor.isPanicked, n.1.sender.failure?,
        (readPackets n.2).length, (classifiedPackets n.2).length)) =
      some (true, some processorDied, 2, 1) := by
    decide +kernel
  obtain ⟨⟨m, events⟩, hplayed, hfinal⟩ := Option.map_eq_some_iff.1 hfinal
  simp only [Prod.mk.injEq] at hfinal
  obtain ⟨hdead, hfailure, hread, hclassified⟩ := hfinal
  have run := (execution_of_play hplayed).interleaving
  have dead := Processor.eq_panicked_of_isPanicked hdead
  have returned := Sender.returned_of_failure? hfailure
  obtain ⟨-, -, ⟨left, hpackets, -, hmet⟩, -⟩ := dead_processor_noticed_iff run dead returned
  refine ⟨events, m, run, dead, returned, hmet.2 ?_, hread, hclassified⟩
  rintro rfl
  rw [hpackets, List.append_nil, hclassified] at hread
  cases hread

/-- A sweep after the deadline of the first probe, the reporter panics when it is told, and the
    second probe is sent before the run is stopped. -/
def deathUnmet : List Action :=
  let sendTime : WallTime := ⟨5610, by decide, by decide⟩
  let expired : Instant := ⟨1300610000, by decide, by decide⟩
  [.caller (.ping "10.0.0.1" ⟨10, 0, 0, 1⟩), .sender (.start .zero), .sender (.launch .zero),
    .sender .look, .sender (.record sendTime .zero [⟨3⟩]), .sender (.attempt (.ok ())),
    .processor (.start .zero), .processor .turn, .processor .giveUpWaiting,
    .processor (.check expired), .processor (.sweep expired), .processor .report,
    .sender (.tick expired), .sender (.wake ⟨2000010000, by decide, by decide⟩), .sender .look,
    .sender (.record sendTime ⟨2000010000, by decide, by decide⟩ [⟨4⟩]),
    .sender (.attempt (.ok ())), .caller (.raise ⟨0⟩),
    .sender (.tick ⟨2000010000, by decide, by decide⟩),
    .sender (.wake ⟨2000010000, by decide, by decide⟩), .sender .leave, .sender .haltReceiver,
    .receiver .poll, .sender .joinReceiver, .sender .haltProcessor, .sender .joinProcessor,
    .sender .close, .sender .return]

/-- The processor dies when the reporter is told the loss of the first probe; the run goes on, sends
    the second, of which nothing is ever reported, and returns ok. -/
theorem dead_processor_unnoticed :
    ∃ events m, Execution (recorder (some 1)) (fresh {}) events m ∧ m.processor = .panicked ∧
      m.sender = .returned (.ok ()) ∧ failures events = [] ∧ (recorded events).length = 2 ∧
      (reported events).length = 1 ∧ m.reporter.outcomes.size = 1 ∧
      m.ledger.requests.map (·.identifier) = [⟨4⟩] := by
  have hfinal : ((fresh {}).play (recorder (some 1)) deathUnmet).map (fun n =>
      ((n.1.processor.isPanicked, n.1.sender.isOk),
        (failures n.2, (recorded n.2).length),
        ((reported n.2).length, n.1.reporter.outcomes.size),
        n.1.ledger.requests.map (·.identifier))) =
      some ((true, true), ([], 2), (1, 1), [⟨4⟩]) := by
    decide +kernel
  obtain ⟨⟨m, events⟩, hplayed, hfinal⟩ := Option.map_eq_some_iff.1 hfinal
  simp only [Prod.mk.injEq] at hfinal
  obtain ⟨⟨hdead, hok⟩, ⟨hfailures, hrecorded⟩, ⟨hreported, hsize⟩, hkept⟩ := hfinal
  exact ⟨events, m, execution_of_play hplayed, Processor.eq_panicked_of_isPanicked hdead,
    Sender.returned_of_isOk hok, hfailures, hrecorded, hreported, hsize, hkept⟩

end Machine

end EchoProbe.Run
