import EchoProbe.Proofs.Run.Origins
import EchoProbe.Proofs.Wire.RoundTrip

/-!
# Round trips are honest

The network may delay, lose, reorder and duplicate what is sent over it, and identifiers are
used again. Still a reply never measures the round trip of one probe from the time of another:
the echo of an older probe under the same identifier carries another number, as long as there
are no more probes than numbers.

* `Measured`: the round trip is that of the probe itself, or zero after the echo of an older
  probe;
* `Interleaving.measured`: so it is when a packet is classified;
* `every_reply_measured`: so it is for all replies of a run, and no probe has two of them.
-/

namespace EchoProbe.Run

/-- The network only echoes: an echo reply that is read is the echo of a probe that was built
    before, and it is read at or after the time at which this probe was sent. -/
def OnlyEchoes (filler : Wire.Filler) (events : List Event) : Prop :=
  ∀ before p after, events = before ++ .read p :: after →
    ∀ header sendTime, Wire.decode p.bytes = .ok (.echoReply header sendTime) →
      ∃ request t, .recorded request t ∈ before ∧
        p.bytes = Wire.echoOf (request.probe t filler) ∧ t ≤ p.receivedWall

/-- All probes are sent at times that a stamp can tell. -/
def Stampable (events : List Event) : Prop :=
  ∀ request t, .recorded request t ∈ events → .zero < t ∧ t ≤ Wire.lastStamp

/-- What a reply to `request`, which was sent at `t`, tells as its round trip: the time from
    then to the reading of the packet, if the packet echoes this very probe; zero, if it echoes
    an older one with the same identifier. -/
inductive Measured (filler : Wire.Filler) (before : List Event) (p : Packet) (request : Request)
    (t : WallTime) : Duration → Prop
  | own (roundTrip : Duration) (bytes : p.bytes = Wire.echoOf (request.probe t filler))
      (difference : (roundTrip.nanos : Int) = p.receivedWall.nanos - t.nanos) :
    Measured filler before p request t roundTrip
  | older (old : Request) (u : WallTime) (first last : List Event)
      (past : before = first ++ .recorded old u :: last) (later : .recorded request t ∈ last)
      (identifier : old.identifier = request.identifier)
      (bytes : p.bytes = Wire.echoOf (old.probe u filler)) :
    Measured filler before p request t .zero

theorem OnlyEchoes.of_append {filler : Wire.Filler} {events seen : List Event}
    (h : OnlyEchoes filler (events ++ seen)) : OnlyEchoes filler events := by
  rintro before p after rfl
  exact h before p (after ++ seen) (by simp)

theorem Stampable.of_append {events seen : List Event} (h : Stampable (events ++ seen)) :
    Stampable events :=
  fun request t hr => h request t (List.mem_append_left _ hr)

theorem Stampable.stamped {events : List Event} (h : Stampable events) {request : Request}
    {t : WallTime} (hr : .recorded request t ∈ events) : Wire.stamped t = some t := by
  obtain ⟨hpos, hlast⟩ := h request t hr
  rw [Wire.stamped, if_neg, if_pos hlast]
  rw [Time.lt_def] at hpos
  rw [Time.le_def]
  omega

/-- If all numbers are different, no other recorded request has the number of this one. -/
theorem number_ne_of_recorded {past rest : List Event} {r s : Request} {t : WallTime}
    (distinct : ((recorded (past ++ .recorded r t :: rest)).map (·.sequenceNumber)).Nodup)
    (hs : s ∈ recorded (past ++ rest)) : s.sequenceNumber ≠ r.sequenceNumber := by
  rw [recorded_append, recorded_cons, Event.recorded?, Option.toList_some, List.singleton_append,
    List.map_append, List.map_cons, List.perm_middle.nodup_iff, ← List.map_append,
    ← recorded_append, List.nodup_cons] at distinct
  exact fun h => distinct.1 (List.mem_map.2 ⟨s, hs, h⟩)

/-- Requests with different numbers are told apart by their numbers. -/
theorem eq_of_recorded {events : List Event}
    (distinct : ((recorded events).map (·.sequenceNumber)).Nodup) {r s : Request} {t u : WallTime}
    (hr : .recorded r t ∈ events) (hs : .recorded s u ∈ events)
    (h : s.sequenceNumber = r.sequenceNumber) : s = r ∧ u = t := by
  obtain ⟨past, rest, rfl⟩ := List.append_of_mem hr
  by_cases hself : Event.recorded s u = .recorded r t
  · cases hself
    exact ⟨rfl, rfl⟩
  · have hs : .recorded s u ∈ past ++ rest := by
      simpa [hself] using hs
    exact absurd h (number_ne_of_recorded distinct (mem_recorded.2 ⟨u, hs⟩))

namespace Machine

variable {σ : Type} {R : Reporter σ} {m m' : Machine σ} {seen : List Event}

/-- A packet is classified in a step of its own, by the ledger before it. -/
theorem classified_of_step {a : Action} {left right : List Event} {p : Packet} {o : Outcome}
    (taken : m.stepAnytime R a = some (m', left ++ .classified p o :: right)) :
    left = [] ∧ m.processor = .holding p ∧ (m.ledger.classify p).outcome = o ∧
      m'.ledger = (m.ledger.classify p).ledger := by
  obtain ⟨now, move⟩ := step_cases taken
  have hmem : .classified p o ∈ left ++ .classified p o :: right := by simp
  generalize hseen : left ++ .classified p o :: right = seen at *
  cases ledgerMove_of_move move with
  | rest quiet => cases quiet _ hmem
  | classify packet log held ledger =>
    cases left with
    | nil =>
      simp only [List.nil_append, List.cons.injEq, Event.classified.injEq] at hseen
      obtain ⟨⟨rfl, rfl⟩, -⟩ := hseen
      exact ⟨rfl, held, rfl, ledger⟩
    | cons e left =>
      -- Behind the classified packet, there are only lines of the log.
      have hlog : Event.classified p o ∈ log.map .loggedAside := by
        rw [← (List.cons.inj hseen).2]
        simp
      simp at hlog
  | record => simp at hmem
  | retract => simp at hmem
  | sweep => simp at hmem
  | drain => simp at hmem

section Interleaving

variable {settings : Settings} {filler : Wire.Filler} {reporter : σ} {flags : Flags}
  {handle : Handle} {clock : Instant} {events before : List Event}

/-- A packet that is a reply measures the round trip of the probe that it takes out of the
    ledger, unless it echoes an older one. -/
theorem Interleaving.measured
    (run : Interleaving R (init settings filler reporter flags handle clock) before m)
    (few : (recorded before).length ≤ 65536) (stamps : Stampable before)
    (echoes : OnlyEchoes filler before) {p : Packet} {reply : Reply}
    (held : m.processor = .holding p) (h : (m.ledger.classify p).outcome = .reply reply) :
    ∃ request t, m.ledger.find? request.identifier = some request ∧
      (m.ledger.classify p).ledger = m.ledger.erase request.identifier ∧
      .recorded request t ∈ before ∧ reply.sequenceNumber = request.sequenceNumber ∧
      Measured filler before p request t reply.roundTrip := by
  obtain ⟨header, sendTime, request, hdecode, hfound, -, rfl⟩ := Ledger.classify_eq_reply_iff.1 h
  -- The packet is the echo of a probe that was recorded before it was read.
  obtain ⟨first, last, hread⟩ := List.append_of_mem (run.read_of_holding held)
  obtain ⟨echoed, u, hechoed, hbytes, hwall⟩ := echoes first p last hread header sendTime hdecode
  have hechoed : .recorded echoed u ∈ before := by
    rw [hread]
    exact List.mem_append_left _ hechoed
  -- So its header fields and its time are read back.
  have hdecoded := hdecode
  rw [hbytes, Request.probe, Wire.decode_echoOf_probe, stamps.stamped hechoed] at hdecoded
  cases hdecoded
  obtain ⟨hidentifier, t, past, rest, rfl, hrest⟩ := run.lastUnder hfound
  have hrequest : Event.recorded request t ∈ past ++ .recorded request t :: rest := by simp
  refine ⟨request, t, by rw [hidentifier]; exact hfound, ?_, hrequest, rfl, ?_⟩
  · rw [Ledger.classify_ledger, Packet.identifier?, hdecode, hidentifier]
    rfl
  · rcases List.mem_append.1 hechoed with hpast | hrest'
    · -- An older probe: its number is not the one that is expected.
      have hnumber : echoed.sequenceNumber ≠ request.sequenceNumber :=
        number_ne_of_recorded (run.nodup_numbers few)
          (mem_recorded.2 ⟨u, List.mem_append_left _ hpast⟩)
      obtain ⟨first, last, rfl⟩ := List.append_of_mem hpast
      rw [Packet.replyTo, if_neg hnumber]
      exact .older echoed u first (last ++ .recorded request t :: rest) (by simp) (by simp)
        hidentifier.symm hbytes
    · rcases List.mem_cons.1 hrest' with hself | hrest'
      · -- The probe itself: the stamp that was read is that of the request.
        cases hself
        rw [Packet.replyTo, if_pos rfl]
        refine .own _ hbytes ?_
        rw [Packet.roundTrip, Option.bind_some, Time.since?, if_pos hwall, Option.getD_some,
          Time.nanos_since]
        rw [Time.le_def] at hwall
        omega
      · -- A younger probe with this identifier would be in the ledger in its place.
        exact absurd hidentifier.symm (hrest echoed (mem_recorded.2 ⟨u, hrest'⟩))

/-- No probe is counted twice. -/
theorem Interleaving.nodup_counted
    (run : Interleaving R (init settings filler reporter flags handle clock) events m)
    (few : (recorded events).length ≤ 65536) :
    ((counted events).map (·.sequenceNumber?)).Nodup := by
  obtain ⟨consumed, htold, hperm⟩ := run.balanced
  have hrecorded : (recorded events).Perm (consumed ++ takenBack events ++ m.ledger.requests) := by
    rwa [init, Ledger.requests_empty, List.nil_append] at hperm
  have hdistinct := (hrecorded.map (·.sequenceNumber)).nodup (run.nodup_numbers few)
  rw [List.append_assoc, List.map_append] at hdistinct
  have hconsumed := List.pairwise_map.1 (List.nodup_append.1 hdistinct).1
  rw [htold]
  exact List.pairwise_map.2 (hconsumed.imp fun hne h => hne (Option.some.inj h))

/-- No probe has two replies. -/
theorem Interleaving.nodup_replies
    (run : Interleaving R (init settings filler reporter flags handle clock) events m)
    (few : (recorded events).length ≤ 65536) :
    (((made events).filter (·.isReply)).map (·.sequenceNumber?)).Nodup := by
  have hreplies : (made events).filter (·.isReply) = (counted events).filter (·.isReply) := by
    rw [counted, List.filter_filter]
    refine List.filter_congr fun o _ => ?_
    cases h : o.isReply <;> simp [Outcome.isCounted, h]
  rw [hreplies]
  exact (run.nodup_counted few).sublist (List.filter_sublist.map _)

/-- The network may delay, lose, reorder and duplicate the echoes of the probes. If there are no
    more probes than numbers, and their times can be told by a stamp, then every reply takes one
    probe out of the ledger, the only one of its number, and measures the round trip of this very
    probe; only the echo of an older probe with the same identifier makes it zero. No probe has
    two replies. -/
theorem every_reply_measured
    (run : Interleaving R (init settings filler reporter flags handle clock) events m)
    (few : (recorded events).length ≤ 65536) (stamps : Stampable events)
    (echoes : OnlyEchoes filler events) :
    (∀ before p reply after, events = before ++ .classified p (.reply reply) :: after →
      ∃ m₀ a m₁ log request t,
        Interleaving R (init settings filler reporter flags handle clock) before m₀ ∧
        m₀.stepAnytime R a = some (m₁, .classified p (.reply reply) :: log) ∧
        m₀.ledger.find? request.identifier = some request ∧
        m₁.ledger = m₀.ledger.erase request.identifier ∧
        .recorded request t ∈ before ∧ reply.sequenceNumber = request.sequenceNumber ∧
        (∀ other u, .recorded other u ∈ events → other.sequenceNumber = reply.sequenceNumber →
          other = request ∧ u = t) ∧
        Measured filler before p request t reply.roundTrip) ∧
    (((made events).filter (·.isReply)).map (·.sequenceNumber?)).Nodup := by
  refine ⟨?_, run.nodup_replies few⟩
  rintro before p reply after rfl
  obtain ⟨events₀, m₀, a, m₁, left, log, run₀, taken, hbefore⟩ := run.exists_step rfl
  obtain ⟨rfl, held, hreply, hledger⟩ := classified_of_step taken
  obtain rfl : before = events₀ := by rw [hbefore, List.append_nil]
  have few₀ : (recorded before).length ≤ 65536 := by
    rw [recorded_append, List.length_append] at few
    omega
  obtain ⟨request, t, hfound, herased, hrecorded, hnumber, hmeasured⟩ :=
    run₀.measured few₀ stamps.of_append echoes.of_append held hreply
  refine ⟨m₀, a, m₁, log, request, t, run₀, taken, hfound, hledger.trans herased, hrecorded,
    hnumber, ?_, hmeasured⟩
  intro other u hother hsame
  exact eq_of_recorded (run.nodup_numbers few) (List.mem_append_left _ hrecorded) hother
    (hsame.trans hnumber)

end Interleaving

/-- Whether all probes are sent at times that a stamp can tell. -/
def isStampable (events : List Event) : Bool :=
  events.all fun
    | .recorded _ t => .zero < t && t ≤ Wire.lastStamp
    | _ => true

theorem stampable_of_isStampable {events : List Event} (h : isStampable events = true) :
    Stampable events := by
  intro request t hr
  simpa using List.all_eq_true.1 h _ hr

/-- Whether every packet that is read echoes one of the probes, or of those built before. -/
def echoesEach (filler : Wire.Filler) : List (Request × WallTime) → List Event → Bool
  | _, [] => true
  | probes, .recorded request t :: events => echoesEach filler ((request, t) :: probes) events
  | probes, .read p :: events =>
    (probes.any fun (request, t) =>
      p.bytes = Wire.echoOf (request.probe t filler) && t ≤ p.receivedWall) &&
        echoesEach filler probes events
  | probes, _ :: events => echoesEach filler probes events

theorem exists_probe_of_echoesEach {filler : Wire.Filler} {probes : List (Request × WallTime)}
    {before after : List Event} {p : Packet}
    (h : echoesEach filler probes (before ++ .read p :: after) = true) :
    ∃ request t, ((request, t) ∈ probes ∨ .recorded request t ∈ before) ∧
      p.bytes = Wire.echoOf (request.probe t filler) ∧ t ≤ p.receivedWall := by
  induction before generalizing probes with
  | nil =>
    simp only [List.nil_append, echoesEach, Bool.and_eq_true, List.any_eq_true] at h
    obtain ⟨⟨⟨request, t⟩, hmem, hecho⟩, -⟩ := h
    exact ⟨request, t, .inl hmem, by simpa using hecho⟩
  | cons e before ih =>
    cases e with
    | recorded r u =>
      have h : echoesEach filler ((r, u) :: probes) (before ++ .read p :: after) = true := h
      obtain ⟨request, t, hmem, hecho⟩ := ih h
      refine ⟨request, t, ?_, hecho⟩
      rw [List.mem_cons, Prod.mk.injEq] at hmem
      rcases hmem with (⟨rfl, rfl⟩ | hmem) | hmem
      · exact .inr List.mem_cons_self
      · exact .inl hmem
      · exact .inr (List.mem_cons_of_mem _ hmem)
    | read q =>
      obtain ⟨request, t, hmem, hecho⟩ := ih (Bool.and_eq_true_iff.1 h).2
      exact ⟨request, t, hmem.imp_right (List.mem_cons_of_mem _), hecho⟩
    | _ =>
      obtain ⟨request, t, hmem, hecho⟩ := ih h
      exact ⟨request, t, hmem.imp_right (List.mem_cons_of_mem _), hecho⟩

theorem onlyEchoes_of_echoesEach {filler : Wire.Filler} {events : List Event}
    (h : echoesEach filler [] events = true) : OnlyEchoes filler events := by
  rintro before p after rfl header sendTime -
  obtain ⟨request, t, hmem, hecho⟩ := exists_probe_of_echoesEach h
  exact ⟨request, t, hmem.resolve_left List.not_mem_nil, hecho⟩

/-- The first probe is swept, and its echo comes when its identifier is in use again. The third
    probe, with the same identifier once more, is answered in time. -/
def staleEcho : List Action :=
  let target : IPv4 := ⟨10, 0, 0, 1⟩
  let start : WallTime := ⟨1200, by decide, by decide⟩
  let later : WallTime := ⟨2200, by decide, by decide⟩
  let stop : WallTime := ⟨7200, by decide, by decide⟩
  let late : Instant := ⟨1000000001, by decide, by decide⟩
  let next : Instant := ⟨2000000002, by decide, by decide⟩
  let last : Instant := ⟨3000000003, by decide, by decide⟩
  let buffer (number : UInt16) (sendTime : WallTime) : Bytes :=
    Wire.echoOf (Wire.probe ⟨⟨1⟩, ⟨number⟩⟩ sendTime (Vector.replicate 48 0)) ++
      List.replicate 448 0
  [.caller (.ping "10.0.0.1" target), .sender (.start .zero), .sender (.launch .zero),
    .sender .look, .sender (.record start .zero [⟨1⟩]), .sender (.attempt (.ok ())),
    .processor (.start .zero), .processor .turn, .processor .giveUpWaiting,
    .processor (.check late), .processor (.sweep late), .processor .report,
    .processor (.rearm late), .processor .turn, .sender (.tick late), .sender (.wake next),
    .sender .look, .sender (.record start next [⟨1⟩]), .sender (.attempt (.ok ())),
    .receiver .poll, .receiver (.read (.returned (.ok ⟨64, target, ⟨64⟩⟩) (buffer 0 start))
      next later),
    .receiver .handOver, .processor .classify, .processor .report, .sender (.tick next),
    .sender (.wake last), .sender .look, .sender (.record later last [⟨1⟩]),
    .sender (.attempt (.ok ())), .processor (.check last), .processor (.sweep last),
    .processor (.rearm last), .processor .turn, .receiver .poll,
    .receiver (.read (.returned (.ok ⟨64, target, ⟨64⟩⟩) (buffer 2 later)) last stop),
    .receiver .handOver, .processor .classify]

/-- The second probe loses its reply to the echo of the first one, and its round trip is zero.
    That of the third probe is measured. -/
theorem every_reply_measured_staleEcho :
    ∃ events m, Execution .silent (fresh ()) events m ∧ (recorded events).length ≤ 65536 ∧
      Stampable events ∧ OnlyEchoes (Vector.replicate 48 0) events ∧
      (made events).filter (·.isReply) =
        [.reply ⟨64, (⟨10, 0, 0, 1⟩ : IPv4), ⟨64⟩, ⟨1⟩, .zero⟩,
          .reply ⟨64, (⟨10, 0, 0, 1⟩ : IPv4), ⟨64⟩, ⟨2⟩, ⟨5000, by decide⟩⟩] ∧
      ∀ p reply, .classified p (.reply reply) ∈ events →
        ∃ before request t, .recorded request t ∈ before ∧
          reply.sequenceNumber = request.sequenceNumber ∧
          Measured (Vector.replicate 48 0) before p request t reply.roundTrip := by
  have hfinal : ((fresh ()).play .silent staleEcho).map (fun n =>
      ((recorded n.2).length, isStampable n.2, echoesEach (Vector.replicate 48 0) [] n.2,
        (made n.2).filter (·.isReply))) =
      some (3, true, true, [.reply ⟨64, (⟨10, 0, 0, 1⟩ : IPv4), ⟨64⟩, ⟨1⟩, .zero⟩,
          .reply ⟨64, (⟨10, 0, 0, 1⟩ : IPv4), ⟨64⟩, ⟨2⟩, ⟨5000, by decide⟩⟩]) := by
    decide +kernel
  obtain ⟨⟨m, events⟩, hplayed, hfinal⟩ := Option.map_eq_some_iff.1 hfinal
  simp only [Prod.mk.injEq] at hfinal
  obtain ⟨hrecorded, hstamps, hechoes, hreplies⟩ := hfinal
  have run := execution_of_play hplayed
  have few : (recorded events).length ≤ 65536 := by omega
  have stamps := stampable_of_isStampable hstamps
  have echoes := onlyEchoes_of_echoesEach hechoes
  refine ⟨events, m, run, few, stamps, echoes, hreplies, ?_⟩
  intro p reply h
  obtain ⟨before, after, hsplit⟩ := List.append_of_mem h
  obtain ⟨-, -, -, -, request, t, -, -, -, -, hmem, hnumber, -, hmeasured⟩ :=
    (every_reply_measured run.interleaving few stamps echoes).1 before p reply after hsplit
  exact ⟨before, request, t, hmem, hnumber, hmeasured⟩

end Machine

end EchoProbe.Run
