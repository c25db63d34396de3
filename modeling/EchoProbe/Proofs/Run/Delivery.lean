import EchoProbe.Proofs.Run.Accounting

/-!
# From the transport to the reporter

Every packet that the transport delivers is classified, once, in order and as it was read, and
its outcome is reported once.

Nothing is kept between receiver and processor. A packet that was read is in the hands of the
receiver until the processor takes it over, and in the hands of the processor until it is
classified (`inTransit`). What a move lets in at one end and out at the other keeps the order
(`transit_of_move`).

A packet would be lost if the processor ended while the receiver has one in its hands. But the
sender halts the receiver first, waits until it is gone, and only then halts the processor
(`Attended`).

* `arrivals`: what the transport delivered, as the actions of a schedule tell;
* `Schedule.arrivals_eq`: what was read is what the transport delivered;
* `every_packet_classified_once`: the whole way.
-/

namespace EchoProbe.Run

/-- The packet that a read makes: the bytes at the front of the buffer, as many as the transport
    tells. -/
def Action.arrival? : Action → Option Packet
  | .receiver (.read (.returned (.ok arrival) buffer) receivedAt receivedWall) =>
    if arrival.length ≤ buffer.length then
      some ⟨buffer.take arrival.length, arrival.source, arrival.ttl, receivedAt, receivedWall⟩
    else none
  | _ => none

/-- The packets that the transport delivered. -/
def arrivals (actions : List Action) : List Packet := actions.filterMap Action.arrival?

/-- Bytes that a transport puts to the front of the buffer are what is read, whatever the buffer
    held before. -/
theorem arrival?_overwrite (old bytes : Bytes) (source : IpAddress) (ttl : Ttl)
    (receivedAt : Instant) (receivedWall : WallTime) :
    (Action.receiver (.read (.returned (.ok ⟨min bytes.length old.length, source, ttl⟩)
      (Wire.overwrite old bytes)) receivedAt receivedWall)).arrival? =
    some ⟨bytes.take old.length, source, ttl, receivedAt, receivedWall⟩ := by
  have hfront : (Wire.overwrite old bytes).take (min bytes.length old.length) =
      bytes.take old.length :=
    List.take_left' (by rw [List.length_take, Nat.min_comm])
  rw [Action.arrival?, hfront, if_pos]
  rw [Wire.length_overwrite]
  exact Nat.min_le_right _ _

namespace Event

/-- The packet that was read. -/
def read? : Event → Option Packet
  | read packet => some packet
  | _ => none

/-- The packet that was classified. -/
def classified? : Event → Option Packet
  | classified packet _ => some packet
  | _ => none

/-- The outcomes that were made, each with the packet that it was made of; a probe that got no
    answer has none. -/
def sources : Event → List (Option Packet × Outcome)
  | classified packet outcome => [(some packet, outcome)]
  | swept requests => requests.map fun r => (none, r.lost .timeout)
  | drained requests => requests.map fun r => (none, r.lost .unanswered)
  | _ => []

theorem map_snd_sources (e : Event) : e.sources.map Prod.snd = e.made := by
  cases e <;> simp [sources, made]

theorem filterMap_fst_sources (e : Event) :
    e.sources.filterMap Prod.fst = e.classified?.toList := by
  cases e <;> simp [sources, classified?]

end Event

/-- The packets that were read, in order. -/
def readPackets (events : List Event) : List Packet := events.filterMap Event.read?

/-- The packets that were classified, in order. -/
def classifiedPackets (events : List Event) : List Packet := events.filterMap Event.classified?

/-- The outcomes that were made, in order, each with the packet that it was made of. -/
def sources (events : List Event) : List (Option Packet × Outcome) := events.flatMap Event.sources

section Lists

variable (e : Event) (events seen : List Event) (log : List LogLine)

@[simp]
theorem readPackets_nil : readPackets [] = [] := rfl

@[simp]
theorem classifiedPackets_nil : classifiedPackets [] = [] := rfl

@[simp]
theorem readPackets_cons : readPackets (e :: seen) = e.read?.toList ++ readPackets seen := by
  cases h : e.read? <;> simp [readPackets, h]

@[simp]
theorem classifiedPackets_cons :
    classifiedPackets (e :: seen) = e.classified?.toList ++ classifiedPackets seen := by
  cases h : e.classified? <;> simp [classifiedPackets, h]

@[simp]
theorem readPackets_append :
    readPackets (events ++ seen) = readPackets events ++ readPackets seen :=
  List.filterMap_append

@[simp]
theorem classifiedPackets_append :
    classifiedPackets (events ++ seen) = classifiedPackets events ++ classifiedPackets seen :=
  List.filterMap_append

@[simp]
theorem readPackets_map_logged : readPackets (log.map .logged) = [] := by
  simp [readPackets, Event.read?]

@[simp]
theorem classifiedPackets_map_logged : classifiedPackets (log.map .logged) = [] := by
  simp [classifiedPackets, Event.classified?]

@[simp]
theorem readPackets_map_loggedAside : readPackets (log.map .loggedAside) = [] := by
  simp [readPackets, Event.read?]

@[simp]
theorem classifiedPackets_map_loggedAside : classifiedPackets (log.map .loggedAside) = [] := by
  simp [classifiedPackets, Event.classified?]

/-- The outcomes that were made, one after the other. -/
theorem map_snd_sources : (sources events).map Prod.snd = made events := by
  rw [sources, List.map_flatMap]
  exact congrArg (List.flatMap · events) (funext Event.map_snd_sources)

/-- Of every packet that was classified, one outcome was made, in the order of the packets. -/
theorem filterMap_fst_sources : (sources events).filterMap Prod.fst = classifiedPackets events := by
  induction events with
  | nil => rfl
  | cons e events ih =>
    rw [classifiedPackets_cons, ← ih, ← Event.filterMap_fst_sources]
    exact List.filterMap_append

end Lists

/-- The packet that the receiver holds until the processor takes it. -/
def Receiver.held? : Receiver → Option Packet
  | handing packet => some packet
  | _ => none

/-- The packet that the processor holds until it is classified. -/
def Processor.held? : Processor → Option Packet
  | holding packet => some packet
  | _ => none

@[simp]
theorem Processor.held?_afterReports (outcomes : List Outcome) (next : AfterReports) :
    (afterReports outcomes next).held? = none := by
  cases outcomes <;> cases next <;> rfl

/-- Whether the sender has seen the receiver gone. -/
def Sender.hasJoinedReceiver : Sender → Bool
  | mourning | haltingProcessor | joiningProcessor | closing | returning | returned _ => true
  | _ => false

theorem Sender.hasJoinedReceiver_of_hasHalted {s : Sender} (h : s.hasHalted = true) :
    s.hasJoinedReceiver = true := by
  cases s <;> first | rfl | cases h

namespace Machine

variable {σ : Type} {R : Reporter σ} {m m' : Machine σ} {seen : List Event}

/-- The packets that were read and not classified yet, the oldest first. -/
def inTransit (m : Machine σ) : List Packet := m.processor.held?.toList ++ m.receiver.held?.toList

/-! ## The receiver in the order of a run -/

/-- The receiver is not there before the sender has launched it, and gone before the sender goes
    on to the processor. -/
structure Attended (m : Machine σ) : Prop where
  unlaunched : m.sender.hasLaunched = false → m.receiver = .absent
  joined : m.sender.hasJoinedReceiver = true → m.receiver.isGone = true

namespace Attended

theorem of_callerMove (h : Attended m) (order : Orderly m) (move : CallerMove m m' seen) :
    Attended m' := by
  cases move with
  | enter host target idle =>
    have hsender := order.idle idle
    exact
      { unlaunched := fun _ => h.unlaunched (by rw [hsender]; rfl)
        joined := fun hjoined => by cases hjoined }
  | refuse busy => exact h
  | unresolved host => exact h
  | beginStop => exact { h with }
  | completeStop n pending => exact { h with }
  | raise handle => exact { h with }

/-- The sender goes on by itself. -/
theorem of_sender (h : Attended m) (hreceiver : m'.receiver = m.receiver)
    (hlaunched : m'.sender.hasLaunched = false → m.sender.hasLaunched = false)
    (hjoined : m'.sender.hasJoinedReceiver = true → m.receiver.isGone = true) : Attended m' where
  unlaunched hl := hreceiver.trans (h.unlaunched (hlaunched hl))
  joined hj := (congrArg Receiver.isGone hreceiver).trans (hjoined hj)

theorem of_senderMove (h : Attended m) (move : SenderMove R m m' seen) : Attended m' := by
  cases move
  case launch place =>
    exact
      { unlaunched := fun hl => by cases hl
        joined := fun hj => by cases hj }
  case joinReceiver place gone =>
    exact h.of_sender rfl (fun hl => by cases hl) (fun _ => by rw [gone]; rfl)
  case mourn place gone =>
    exact h.of_sender rfl (fun hl => by cases hl) (fun _ => by rw [gone]; rfl)
  all_goals
    refine h.of_sender rfl ?_ (fun hj => h.joined ?_)
    all_goals simp_all [Sender.hasLaunched, Sender.hasJoinedReceiver]

/-- The receiver goes on by itself, or hands a packet over. -/
theorem of_receiver (h : Attended m) (hsender : m'.sender = m.sender)
    (there : m.receiver ≠ .absent) (busy : m.receiver.isGone = false) : Attended m' where
  unlaunched hl := absurd (h.unlaunched (hsender ▸ hl)) there
  joined hj := by
    -- A receiver that goes on is not gone, so the sender still waits for it.
    rw [h.joined (hsender ▸ hj)] at busy
    cases busy

theorem of_receiverMove (h : Attended m) (move : ReceiverMove m m' seen) : Attended m' := by
  have hthere : m.receiver ≠ .absent := by
    cases move <;> simp [*]
  have hbusy : m.receiver.isGone = false := by
    cases move <;> simp [*, Receiver.isGone]
  cases move <;> exact h.of_receiver rfl hthere hbusy

/-- Every move keeps the receiver in the order of a run. -/
theorem of_move (h : Attended m) (order : Orderly m) (move : Move R m m' seen) : Attended m' := by
  cases move with
  | clock now => exact { h with }
  | caller move => exact h.of_callerMove order move
  | sender move => exact h.of_senderMove move
  | receiver move => exact h.of_receiverMove move
  | processor move => cases move <;> exact { h with }

/-- Nobody leaves a packet with the receiver: the processor ends only after the receiver. -/
theorem not_ended (h : Attended m) (order : Orderly m) {packet : Packet}
    (place : m.receiver = .handing packet) : m.processor ≠ .ended := by
  intro hended
  have hhalted := order.halted (order.finishing (by rw [hended]; rfl))
  have hgone := h.joined (Sender.hasJoinedReceiver_of_hasHalted hhalted)
  rw [place] at hgone
  cases hgone

end Attended

/-! ## Packets in transit -/

/-- A processor that has died stays so. -/
theorem panicked_of_move (order : Orderly m) (move : Move R m m' seen)
    (h : m.processor = .panicked) : m'.processor = .panicked := by
  cases move with
  | clock now => exact h
  | caller move => cases move <;> exact h
  | sender move =>
    cases move
    case launch place =>
      -- Before the launch there is no processor.
      rw [order.unlaunched (by rw [place]; rfl)] at h
      cases h
    all_goals exact h
  | receiver move =>
    cases move
    case handOver packet place waiting =>
      rw [waiting] at h
      cases h
    all_goals exact h
  | processor move =>
    -- A processor that has died makes no move.
    exfalso
    cases move
    case halt place halted => rcases place with place | ⟨place, -⟩ <;> simp [place] at h
    all_goals simp_all

theorem transit_of_senderMove (h : Attended m) (order : Orderly m)
    (move : SenderMove R m m' seen) :
    m.inTransit ++ readPackets seen = classifiedPackets seen ++ m'.inTransit := by
  cases move
  case launch place =>
    -- Neither of the two that are launched was there before.
    have hlaunched : m.sender.hasLaunched = false := by rw [place]; rfl
    simp [inTransit, order.unlaunched hlaunched, h.unlaunched hlaunched, Processor.held?,
      Receiver.held?]
  all_goals simp [inTransit, afterFailure, Event.read?, Event.classified?]

/-- The receiver gives up a packet only once the processor has died. -/
theorem panicked_of_givenUp (h : Attended m) (order : Orderly m) (move : Move R m m' seen)
    {packet : Packet} (place : m.receiver = .handing packet)
    (givenUp : m'.receiver = .failing (.activityDied "processor")) : m.processor = .panicked := by
  cases move with
  | clock now => simp [place] at givenUp
  | caller move => cases move <;> simp [place] at givenUp
  | sender move => cases move <;> simp [place, afterFailure] at givenUp
  | receiver move =>
    cases move
    case abandon packet place gone =>
      cases hprocessor : m.processor with
      | panicked => rfl
      | ended => exact absurd hprocessor (h.not_ended order place)
      | _ => rw [hprocessor] at gone; cases gone
    all_goals simp_all
  | processor move => cases move <;> simp [place] at givenUp

theorem transit_of_receiverMove
    (kept : ∀ packet, m.receiver = .handing packet →
      m'.receiver ≠ .failing (.activityDied "processor"))
    (move : ReceiverMove m m' seen) :
    m.inTransit ++ readPackets seen = classifiedPackets seen ++ m'.inTransit := by
  cases move
  case abandon packet place gone => exact absurd rfl (kept packet place)
  all_goals
    simp [*, inTransit, afterFailure, Event.read?, Event.classified?, Receiver.held?,
      Processor.held?]

theorem transit_of_processorMove (move : ProcessorMove R m m' seen) :
    m.inTransit ++ readPackets seen = classifiedPackets seen ++ m'.inTransit := by
  cases move
  case classify packet place =>
    simp [place, inTransit, Event.read?, Event.classified?, Processor.held?]
  case halt place halted =>
    rcases place with place | ⟨place, -⟩ <;> simp [place, inTransit, Processor.held?]
  all_goals
    -- It holds no packet before or after, and classifies none.
    have hnone : m.processor.held? = none := by rw [‹m.processor = _›]; rfl
    simp only [inTransit, hnone, Processor.held?_afterReports]
    simp [Event.read?, Event.classified?, Processor.held?]

/-- What a move reads goes in behind the packets in transit, and what it classifies comes out in
    front of them, unless the receiver gives up its packet. -/
theorem transit_of_move (h : Attended m) (order : Orderly m)
    (kept : ∀ packet, m.receiver = .handing packet →
      m'.receiver ≠ .failing (.activityDied "processor"))
    (move : Move R m m' seen) :
    m.inTransit ++ readPackets seen = classifiedPackets seen ++ m'.inTransit := by
  cases move with
  | clock now => exact List.append_nil _
  | caller move => cases move <;> simp [inTransit, Event.read?, Event.classified?]
  | sender move => exact transit_of_senderMove h order move
  | receiver move => exact transit_of_receiverMove kept move
  | processor move => exact transit_of_processorMove move

/-! ## Whole runs -/

theorem readPackets_of_receiver {a : ReceiverAction} (taken : m.stepReceiver a = some (m', seen)) :
    readPackets seen = (Action.receiver a).arrival?.toList := by
  unfold stepReceiver at taken
  split at taken
  · split at taken <;> cases taken <;> rfl
  · -- The read succeeds or fails; a packet that does not fit the buffer is none.
    split at taken
    · rename_i result buffer _ _ _ _
      rcases result with e | arrival
      · simp only [afterRead] at taken
        split at taken <;> cases taken <;> rfl
      · simp only [afterRead] at taken
        rw [Action.arrival?]
        split at taken
        · cases taken
          rw [if_pos ‹_›]
          rfl
        · cases taken
          rw [if_neg ‹_›]
          rfl
    · cases taken
  · cases taken
    rfl
  · split at taken
    · cases taken
      rfl
    · cases taken
  · split at taken
    · cases taken
      rfl
    · cases taken
  · cases taken
    rfl
  · cases taken

/-- A step reads what the transport delivers to it. -/
theorem readPackets_of_step {a : Action} (taken : m.stepAnytime R a = some (m', seen)) :
    readPackets seen = a.arrival?.toList := by
  obtain ⟨now, taken, reading⟩ := stepAt_of_stepAnytime taken
  cases a with
  | caller a =>
    have move : CallerMove _ m' seen := callerMove_of_step taken
    cases move <;> rfl
  | sender a =>
    have move : SenderMove R _ m' seen := senderMove_of_step taken reading
    cases move <;> simp [Event.read?, Action.arrival?]
  | receiver a => exact readPackets_of_receiver taken
  | processor a =>
    have move : ProcessorMove R _ m' seen := processorMove_of_step taken reading
    cases move <;> simp [Event.read?, Action.arrival?]

theorem Schedule.arrivals_eq {start : Machine σ} {actions : List Action} {events : List Event}
    (run : Schedule R start actions events m) : readPackets events = arrivals actions := by
  induction run with
  | refl => rfl
  | step a before taken ih =>
    rw [readPackets_append, ih, readPackets_of_step taken, arrivals, arrivals,
      List.filterMap_append]
    cases h : a.arrival? <;> simp [h]

section Interleaving

variable {settings : Settings} {filler : Wire.Filler} {reporter : σ} {flags : Flags}
  {handle : Handle} {clock : Instant} {events : List Event}

/-- What holds at the start and is kept by every move, as long as the activities are in order,
    holds of every interleaving. -/
theorem Interleaving.invariant_of_attended {P : List Event → Machine σ → Prop}
    (hstart : P [] (init settings filler reporter flags handle clock))
    (hmove : ∀ events m m' seen, Orderly m → Attended m → P events m → Move R m m' seen →
      P (events ++ seen) m')
    (run : Interleaving R (init settings filler reporter flags handle clock) events m) :
    Attended m ∧ P events m := by
  refine run.invariant_of_orderly (P := fun events m => Attended m ∧ P events m)
    ⟨⟨fun _ => rfl, fun h => by cases h⟩, hstart⟩ ?_
  intro events m m' seen order h move
  exact ⟨h.1.of_move order move, hmove events m m' seen order h.1 h.2 move⟩

theorem Interleaving.attended
    (run : Interleaving R (init settings filler reporter flags handle clock) events m) :
    Attended m :=
  (run.invariant_of_attended (P := fun _ _ => True) trivial fun _ _ _ _ _ _ _ _ => trivial).1

/-- Unless the reporter panicked, the packets that were read are those that were classified and
    those that are in transit. -/
theorem Interleaving.readPackets_eq
    (run : Interleaving R (init settings filler reporter flags handle clock) events m)
    (alive : m.processor ≠ .panicked) :
    readPackets events = classifiedPackets events ++ m.inTransit := by
  refine (run.invariant_of_attended (P := fun events m => m.processor ≠ .panicked →
    readPackets events = classifiedPackets events ++ m.inTransit) (fun _ => rfl) ?_).2 alive
  intro events m m' seen order attended hread move alive'
  have alive : m.processor ≠ .panicked := fun h => alive' (panicked_of_move order move h)
  have kept (packet) (place : m.receiver = .handing packet) :
      m'.receiver ≠ .failing (.activityDied "processor") := fun givenUp =>
    alive (panicked_of_givenUp attended order move place givenUp)
  rw [readPackets_append, classifiedPackets_append, hread alive, List.append_assoc,
    transit_of_move attended order kept move, List.append_assoc]

/-- When the sender has returned, no packet is in transit. -/
theorem Interleaving.inTransit_eq_nil
    (run : Interleaving R (init settings filler reporter flags handle clock) events m)
    {result : Except RunError Unit} (hreturned : m.sender = .returned result) :
    m.inTransit = [] := by
  have hprocessor := run.orderly.joined (by rw [hreturned]; rfl)
  have hreceiver := run.attended.joined (by rw [hreturned]; rfl)
  -- Both are gone, and who is gone holds no packet.
  rw [inTransit]
  cases hp : m.processor <;> rw [hp] at hprocessor <;> cases hprocessor <;>
    cases hr : m.receiver <;> rw [hr] at hreceiver <;> cases hreceiver <;> rfl

/-- However a run interleaves, and whatever the transport answers, unless the reporter panics:
    the packets that the transport delivered are, in order, those that were classified, one that
    the processor may hold, and one that was read and not taken over yet. Each of them is as it was
    read: of a transport that puts bytes to the front of the buffer, these bytes, whatever the
    buffer held before. Of every packet that was classified, and of none else, one outcome was
    made, and the outcomes are reported in the order in which they were made. When the run has
    returned, every packet that was delivered was classified, and every outcome was reported. -/
theorem every_packet_classified_once {actions : List Action}
    (run : Schedule R (init settings filler reporter flags handle clock) actions events m)
    (alive : m.processor ≠ .panicked) :
    (arrivals actions =
      classifiedPackets events ++ m.processor.held?.toList ++ m.receiver.held?.toList) ∧
    (∀ old bytes source ttl receivedAt receivedWall,
      (Action.receiver (.read (.returned (.ok ⟨min bytes.length old.length, source, ttl⟩)
        (Wire.overwrite old bytes)) receivedAt receivedWall)).arrival? =
      some ⟨bytes.take old.length, source, ttl, receivedAt, receivedWall⟩) ∧
    ((sources events).filterMap Prod.fst = classifiedPackets events ∧
      (sources events).map Prod.snd = reported events ++ m.processor.atHand) ∧
    ∀ result, m.sender = .returned result →
      classifiedPackets events = arrivals actions ∧
      reported events = (sources events).map Prod.snd := by
  have hread := run.interleaving.readPackets_eq alive
  rw [run.arrivals_eq] at hread
  have hmade := run.interleaving.made_eq alive
  refine ⟨by rw [hread, inTransit, List.append_assoc], arrival?_overwrite,
    ⟨filterMap_fst_sources events, by rw [map_snd_sources, hmade]⟩, ?_⟩
  intro result hreturned
  obtain ⟨-, hreported⟩ := run.interleaving.drained_of_returned alive hreturned
  rw [run.interleaving.inTransit_eq_nil hreturned, List.append_nil] at hread
  exact ⟨hread.symm, by rw [map_snd_sources, hreported]⟩

end Interleaving

/-- A short packet is read after the stop, into a buffer that still holds the packet before it, and
    the processor takes it after the sender has left. The read that follows fails for good. -/
def lateRead : List Action :=
  let target : IPv4 := ⟨10, 0, 0, 1⟩
  let sendTime : WallTime := ⟨1300, by decide, by decide⟩
  let readTime : WallTime := ⟨3300, by decide, by decide⟩
  let echo := Wire.echoOf (Wire.probe ⟨⟨2⟩, .first⟩ sendTime (Vector.replicate 48 0))
  let empty : Bytes := List.replicate 512 0
  let filled := Wire.overwrite empty echo
  let refilled := Wire.overwrite filled (List.replicate 8 0xFF)
  let read (result : Except TransportError Arrival) (buffer : Bytes) : Action :=
    .receiver (.read (.returned result buffer) .zero readTime)
  [.caller (.ping "10.0.0.1" target), .sender (.start .zero), .sender (.launch .zero),
    .sender .look, .sender (.record sendTime .zero [⟨2⟩]), .sender (.attempt (.ok ())),
    .processor (.start .zero), .processor .turn,
    .receiver .poll, read (.error (.plain .wouldBlock)) empty,
    .receiver .poll, read (.error (.plain .invalidData)) empty,
    .receiver .poll, read (.ok ⟨64, target, ⟨64⟩⟩) filled, .receiver .handOver, .receiver .poll,
    .caller (.raise ⟨0⟩), read (.ok ⟨8, target, ⟨64⟩⟩) refilled,
    .processor .classify, .processor .report, .processor (.check .zero), .processor .turn,
    .sender (.tick .zero), .sender (.wake .zero), .sender .leave,
    .receiver .handOver, .receiver .poll, read (.error (.plain .permissionDenied)) refilled,
    .receiver .fail, .sender .haltReceiver, .sender .joinReceiver, .sender .haltProcessor,
    .processor .classify, .processor .report, .processor (.check .zero), .processor .turn,
    .processor .drain, .sender .joinProcessor, .sender .close, .sender .return]

/-- Both packets are classified, the short one without the bytes behind it, and reported. -/
theorem every_packet_classified_once_lateRead :
    ∃ events m, Schedule (.counting .silent) (fresh (.startingAt .zero, ())) lateRead events m ∧
      m.processor ≠ .panicked ∧
      m.sender = .returned (.error (.transport (.plain .permissionDenied))) ∧
      (classifiedPackets events).map (·.bytes) =
        [Wire.echoOf (Wire.probe ⟨⟨2⟩, .first⟩ ⟨1300, by decide, by decide⟩
          (Vector.replicate 48 0)), List.replicate 8 0xFF] ∧
      reported events = (sources events).map Prod.snd ∧ (reported events).length = 2 := by
  have hfinal : ((fresh (.startingAt .zero, ())).play (.counting .silent) lateRead).map (fun n =>
      (n.1.processor.hasDrained, n.1.sender.failure?, (made n.2).length)) =
      some (true, some (.transport (.plain .permissionDenied)), 2) := by
    decide +kernel
  have harrivals : (arrivals lateRead).map (·.bytes) =
      [Wire.echoOf (Wire.probe ⟨⟨2⟩, .first⟩ ⟨1300, by decide, by decide⟩
        (Vector.replicate 48 0)), List.replicate 8 0xFF] := by
    decide +kernel
  obtain ⟨⟨m, events⟩, hplayed, hfinal⟩ := Option.map_eq_some_iff.1 hfinal
  simp only [Prod.mk.injEq] at hfinal
  obtain ⟨hdrained, hfailure, hmade⟩ := hfinal
  have run := schedule_of_play hplayed
  have alive : m.processor ≠ .panicked := fun hpanicked => by
    rw [hpanicked] at hdrained
    cases hdrained
  have hreturned := Sender.returned_of_failure? hfailure
  obtain ⟨-, -, -, hreturn⟩ := every_packet_classified_once run alive
  obtain ⟨hclassified, hreported⟩ := hreturn _ hreturned
  refine ⟨events, m, run, alive, hreturned, by rw [hclassified, harrivals], hreported, ?_⟩
  rw [hreported, map_snd_sources, hmade]

end Machine

end EchoProbe.Run
