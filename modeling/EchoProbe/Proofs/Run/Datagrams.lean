import EchoProbe.Proofs.Run.DeadProcessor
import EchoProbe.Proofs.Wire.Bounds

/-!
# Datagrams do not end a run

Anybody can send datagrams to the socket of a run, of any length and with any bytes. In a run over a
raw socket (`SocketAction`) nothing arrives in time, or a read makes of the next datagram what
`Wire.readDatagram` does. None of these reads is one of which a receiver could die or fail
(`Action.IsHarmless`), and so the receiver goes on until it is halted, or until the processor has
died (`Unharmed`), of which only a reporter that panics can be the cause.

* `step_deliver`: the next datagram, whatever it is;
* `no_datagram_ends_run`: all of them.
-/

namespace EchoProbe.Run

/-- Whether the action is a read. -/
def Action.isRead : Action → Bool
  | .receiver (.read _ _ _) => true
  | _ => false

/-- The action is no read, or one that neither panics, nor tells more than was read, nor fails for
    good. -/
def Action.IsHarmless : Action → Prop
  | .receiver (.read (.returned (.ok arrival) buffer) _ _) => arrival.length ≤ buffer.length
  | .receiver (.read (.returned (.error e) _) _ _) => (e.isSilence || e.isUnreadable) = true
  | .receiver (.read .panicked _ _) => False
  | _ => True

/-- Whether the receiver reads, polls, or hands a packet over. -/
def Receiver.isBusy : Receiver → Bool
  | polling | reading | handing _ => true
  | _ => false

/-- What can happen in a run over a raw socket on which nothing but datagrams come. A read finds
    anything in the buffer. -/
inductive SocketAction
  | deliver (d : Incoming) (buffer : Vector UInt8 bufferSize)
  /-- No datagram comes in time. -/
  | silence (e : TransportError) (silent : e.isSilence = true) (buffer : Vector UInt8 bufferSize)
      (receivedAt : Instant) (receivedWall : WallTime)
  | other (a : Action) (notRead : a.isRead = false)

namespace SocketAction

/-- The step of a run that it is. -/
def action : SocketAction → Action
  | deliver d buffer => .receiver
    (.read (.ofDatagram d.datagram d.source buffer.toList) d.receivedAt d.receivedWall)
  | silence e _ buffer receivedAt receivedWall =>
    .receiver (.read (.returned (.error e) buffer.toList) receivedAt receivedWall)
  | other a _ => a

/-- The datagram that comes. -/
def incoming? : SocketAction → Option Incoming
  | deliver d _ => some d
  | _ => none

/-- The packet that comes in a datagram. -/
def packet? (a : SocketAction) : Option Packet := a.incoming?.bind Incoming.packet?

end SocketAction

section Reads

variable {d : Incoming} {p : Packet} {buffer : Bytes}

/-- The buffer is as long as what the socket keeps, so a packet fits. -/
theorem ReadResult.ofDatagram_of_packet? (h : d.packet? = some p)
    (size : buffer.length = bufferSize) :
    ofDatagram d.datagram d.source buffer =
      .returned (.ok ⟨p.bytes.length, p.source, p.ttl⟩) (Wire.overwrite buffer p.bytes) := by
  have hlength : min p.bytes.length buffer.length = p.bytes.length :=
    Nat.min_eq_left (size ▸ Incoming.length_bytes_le h)
  rw [ofDatagram, Incoming.readDatagram_of_packet? h, hlength]
  rfl

theorem ReadResult.ofDatagram_of_eq_none (h : d.packet? = none)
    (size : buffer.length = bufferSize) :
    ∃ e buffer', ofDatagram d.datagram d.source buffer = .returned (.error e) buffer' ∧
      e.isUnreadable = true ∧ buffer'.length = bufferSize := by
  obtain ⟨e, buffer', hread, hlength⟩ := Incoming.readDatagram_of_eq_none h buffer
  refine ⟨e.toTransportError, buffer', ?_, rfl, hlength.trans size⟩
  rw [ofDatagram, hread]
  rfl

theorem Action.arrival?_of_not_isRead {a : Action} (h : a.isRead = false) : a.arrival? = none := by
  cases a with
  | receiver a =>
    cases a with
    | read => cases h
    | _ => rfl
  | _ => rfl

theorem Action.isHarmless_of_not_isRead {a : Action} (h : a.isRead = false) : a.IsHarmless := by
  cases a with
  | receiver a =>
    cases a with
    | read => cases h
    | _ => trivial
  | _ => trivial

/-- Whatever the datagram is, reading it is harmless. -/
theorem SocketAction.isHarmless (a : SocketAction) : a.action.IsHarmless := by
  cases a with
  | deliver d buffer =>
    have size : buffer.toList.length = bufferSize := Vector.length_toList
    rw [action]
    cases h : d.packet? with
    | some p =>
      rw [ReadResult.ofDatagram_of_packet? h size]
      change p.bytes.length ≤ (Wire.overwrite _ _).length
      rw [Wire.length_overwrite, size]
      exact Incoming.length_bytes_le h
    | none =>
      obtain ⟨e, buffer', hread, hunreadable, -⟩ := ReadResult.ofDatagram_of_eq_none h size
      rw [hread]
      change (e.isSilence || e.isUnreadable) = true
      rw [hunreadable, Bool.or_true]
  | silence e silent =>
    change (e.isSilence || e.isUnreadable) = true
    rw [silent, Bool.true_or]
  | other a notRead => exact Action.isHarmless_of_not_isRead notRead

/-- What arrives is the packet in the datagram. -/
theorem SocketAction.arrival?_action (a : SocketAction) : a.action.arrival? = a.packet? := by
  cases a with
  | deliver d buffer =>
    have size : buffer.toList.length = bufferSize := Vector.length_toList
    rw [action, packet?, incoming?, Option.bind_some]
    cases h : d.packet? with
    | some p =>
      have hlength : p.bytes.length ≤ buffer.toList.length :=
        Nat.le_trans (Incoming.length_bytes_le h) (Nat.le_of_eq size.symm)
      rw [ReadResult.ofDatagram_of_packet? h size, Action.arrival?, Wire.length_overwrite,
        if_pos hlength, Wire.take_overwrite hlength, Incoming.packet_eq h]
    | none =>
      obtain ⟨e, buffer', hread, -⟩ := ReadResult.ofDatagram_of_eq_none h size
      rw [hread]
      rfl
  | silence => rfl
  | other a notRead => exact Action.arrival?_of_not_isRead notRead

end Reads

/-- The packets that come in datagrams. -/
def datagramPackets (actions : List SocketAction) : List Packet :=
  actions.filterMap SocketAction.packet?

/-- They are what arrives. -/
theorem arrivals_map_action (actions : List SocketAction) :
    arrivals (actions.map SocketAction.action) = datagramPackets actions := by
  rw [arrivals, List.filterMap_map, datagramPackets]
  exact congrArg (List.filterMap · actions) (funext SocketAction.arrival?_action)

namespace Machine

variable {σ : Type} {R : Reporter σ} {m m' : Machine σ} {seen : List Event}

/-! ## The next datagram -/

/-- Whatever datagram comes next, the receiver takes the packet in it into its hands, or skips the
    datagram and polls again. -/
theorem step_deliver (R : Reporter σ) (place : m.receiver = .reading) (d : Incoming)
    (old : Vector UInt8 bufferSize) :
    ∃ buffer seen, m.stepAnytime R (SocketAction.deliver d old).action =
        some ({ m with
          clock := d.receivedAt
          buffer
          receiver := d.packet?.elim .polling .handing }, seen) ∧
      readPackets seen = d.packet?.toList ∧ failures seen = [] := by
  have size : old.toList.length = bufferSize := Vector.length_toList
  rw [SocketAction.action]
  cases h : d.packet? with
  | some p =>
    have hlength : p.bytes.length ≤ bufferSize := Incoming.length_bytes_le h
    have hpacket : (⟨(Wire.overwrite old.toList p.bytes).take p.bytes.length, p.source, p.ttl,
        d.receivedAt, d.receivedWall⟩ : Packet) = p := by
      rw [Wire.take_overwrite (Nat.le_trans hlength (Nat.le_of_eq size.symm)), Incoming.packet_eq h]
    refine ⟨Wire.overwrite old.toList p.bytes, [.read p], ?_, rfl, rfl⟩
    rw [ReadResult.ofDatagram_of_packet? h size]
    simp [stepAnytime, Action.reading?, stepAt, stepReceiver, place, Wire.length_overwrite, size,
      afterRead, hlength, hpacket]
  | none =>
    obtain ⟨e, buffer, hread, hunreadable, hbuffer⟩ := ReadResult.ofDatagram_of_eq_none h size
    refine ⟨buffer, [.unread e], ?_, rfl, rfl⟩
    rw [hread]
    simp [stepAnytime, Action.reading?, stepAt, stepReceiver, place, hbuffer, afterRead,
      hunreadable]

/-! ## The receiver -/

/-- The receiver is not dead, and has not failed or ended but for the halt of the sender or the
    death of the processor. -/
structure Unharmed (m : Machine σ) : Prop where
  alive : m.receiver ≠ .panicked
  failing : ∀ e, m.receiver = .failing e → e = processorDied ∧ m.processor = .panicked
  ended : m.receiver = .ended → m.receiverHalted = true ∨ m.processor = .panicked

/-- A harmless step keeps a receiver busy that reads. -/
theorem isBusy_of_isHarmless {a : Action} (harmless : a.IsHarmless)
    (taken : m.stepAnytime R a = some (m', seen)) (place : m.receiver = .reading) :
    m'.receiver.isBusy = true := by
  have hbusy : m.receiver.isBusy = true := by rw [place]; rfl
  obtain ⟨now, taken, reading⟩ := stepAt_of_stepAnytime taken
  cases a with
  | caller a =>
    have move : CallerMove _ m' seen := callerMove_of_step taken
    cases move <;> exact hbusy
  | sender a =>
    have move : SenderMove R _ m' seen := senderMove_of_step taken reading
    cases move
    -- Only the launch touches the receiver, and starts it afresh.
    case launch => rfl
    all_goals exact hbusy
  | receiver a =>
    change stepReceiver { m with clock := now } a = _ at taken
    cases a with
    | read result receivedAt receivedWall =>
      match result with
      | .panicked => exact harmless.elim
      | .returned (.ok arrival) buffer =>
        have harmless : arrival.length ≤ buffer.length := harmless
        simp only [stepReceiver, place, afterRead, if_pos harmless] at taken
        split at taken <;> cases taken
        rfl
      | .returned (.error e) buffer =>
        have harmless : (e.isSilence || e.isUnreadable) = true := harmless
        simp only [stepReceiver, place, afterRead, if_pos harmless] at taken
        split at taken <;> cases taken
        rfl
    | _ => simp [stepReceiver, place] at taken
  | processor a =>
    have move : ProcessorMove R _ m' seen := processorMove_of_step taken reading
    cases move <;> exact hbusy

namespace Unharmed

/-- The others go on. -/
theorem of_eq (h : Unharmed m) (hreceiver : m'.receiver = m.receiver)
    (hhalted : m.receiverHalted = true → m'.receiverHalted = true)
    (hdead : m.processor = .panicked → m'.processor = .panicked) : Unharmed m' where
  alive := hreceiver ▸ h.alive
  failing e he := (h.failing e (hreceiver ▸ he)).imp_right hdead
  ended he := (h.ended (hreceiver ▸ he)).imp hhalted hdead

/-- A busy receiver is neither dead nor about to end. -/
theorem of_isBusy (h : m.receiver.isBusy = true) : Unharmed m where
  alive he := by rw [he] at h; cases h
  failing e he := by rw [he] at h; cases h
  ended he := by rw [he] at h; cases h

theorem of_receiverMove (h : Unharmed m)
    (dead : ∀ packet, m.receiver = .handing packet → m'.receiver = .failing processorDied →
      m.processor = .panicked)
    (reads : m.receiver = .reading → m'.receiver.isBusy = true)
    (move : ReceiverMove m m' seen) : Unharmed m' := by
  cases move
  case stop place halted => exact ⟨nofun, nofun, fun _ => .inl halted⟩
  case handOver => exact .of_isBusy rfl
  case poll => exact .of_isBusy rfl
  case abandon packet place gone =>
    exact ⟨nofun, fun e he => ⟨(Receiver.failing.inj he).symm, dead packet place rfl⟩, nofun⟩
  -- It could fail only because the processor was dead.
  case fail e place => exact ⟨nofun, nofun, fun _ => .inr (h.failing e place).2⟩
  all_goals exact .of_isBusy (reads ‹_›)

/-- Every move after which a reading receiver is still busy leaves the receiver unharmed. -/
theorem of_move (h : Unharmed m) (order : Orderly m) (attended : Attended m)
    (reads : m.receiver = .reading → m'.receiver.isBusy = true)
    (move : Move R m m' seen) : Unharmed m' := by
  have hdead := panicked_of_move order move
  cases move with
  | clock now => exact h.of_eq rfl id hdead
  | caller move => cases move <;> exact h.of_eq rfl id hdead
  | sender move =>
    cases move
    case launch => exact .of_isBusy rfl
    case haltReceiver => exact h.of_eq rfl (fun _ => rfl) hdead
    all_goals exact h.of_eq rfl id hdead
  | receiver move =>
    exact h.of_receiverMove (fun packet place => panicked_of_givenUp attended order
      (.receiver (R := R) move) place) reads move
  | processor move => cases move <;> exact h.of_eq rfl id hdead

end Unharmed

/-- The only errors that are read are those that the receiver goes on after. -/
theorem unread_of_move
    (reads : m.receiver = .reading → m'.receiver.isBusy = true)
    (move : Move R m m' seen) {e : TransportError} (h : .unread e ∈ seen) :
    (e.isSilence || e.isUnreadable) = true := by
  cases move with
  | clock now => cases h
  | caller move => cases move <;> simp at h
  | sender move => cases move <;> simp at h
  | receiver move =>
    cases move
    case skip e' buffer place size harmless =>
      obtain rfl : e = e' := by simpa using h
      exact harmless
    -- A fatal error would end the receiver that read it.
    case fatal place size fatal => cases reads place
    all_goals simp at h
  | processor move => cases move <;> simp at h

/-! ## Whole runs -/

section Runs

variable {settings : Settings} {filler : Wire.Filler} {reporter : σ} {flags : Flags}
  {handle : Handle} {clock : Instant} {events : List Event}

/-- A reporter that never panics keeps the processor alive. -/
theorem Interleaving.alive_of_steady (steady : R.Steady)
    (run : Interleaving R (init settings filler reporter flags handle clock) events m) :
    m.processor ≠ .panicked := fun dead => by
  obtain ⟨-, outcome, -, -, ⟨s, hpanicked⟩, -⟩ := run.endsReports dead
  rw [steady outcome s] at hpanicked
  cases hpanicked

/-- Harmless actions do the receiver no harm. -/
theorem Schedule.unharmed {actions : List Action}
    (run : Schedule R (init settings filler reporter flags handle clock) actions events m)
    (harmless : ∀ a ∈ actions, a.IsHarmless) :
    Unharmed m ∧ ∀ e, .unread e ∈ events → (e.isSilence || e.isUnreadable) = true := by
  induction run with
  | refl => exact ⟨⟨nofun, nofun, nofun⟩, nofun⟩
  | @step actions events seen m m' a before taken ih =>
    obtain ⟨unharmed, hunread⟩ := ih fun b hb => harmless b (List.mem_append_left _ hb)
    have reads := isBusy_of_isHarmless (harmless a (by simp)) taken
    obtain ⟨now, move⟩ := step_cases taken
    have unharmed : Unharmed { m with clock := now } := unharmed.of_eq rfl id id
    have order := before.interleaving.orderly
    have attended := before.interleaving.attended
    refine ⟨unharmed.of_move { order with } { attended with } reads move, fun e h => ?_⟩
    rcases List.mem_append.1 h with h | h
    · exact hunread e h
    · exact unread_of_move (m := { m with clock := now }) reads move h

/-- Whatever datagrams come to the socket of a run, of any length, with any bytes, and from anybody,
    and however the run interleaves. Handling a datagram is free of faults, and gives one outcome if
    there is a packet in it; reading it gives no more bytes than the buffer holds, or fails as
    unreadable and is skipped. The receiver, when it reads, goes on after any datagram. It never
    panics; it fails or ends only because it is halted or the processor has died, which is never so
    if the reporter never panics. The packets that are read are those in the datagrams. Unless the
    processor has died, each of them is classified or in transit, and one outcome is made of each
    that is classified. When the run has returned, all of them are classified, and it has returned
    ok unless sending failed. -/
theorem no_datagram_ends_run {actions : List SocketAction}
    (run : Schedule R (init settings filler reporter flags handle clock)
      (actions.map SocketAction.action) events m) :
    (∀ (d : Incoming) (buffer : Vector UInt8 bufferSize),
      (∀ l, Checked.handle l d buffer.toList = .ok (d.packet?.map (Ledger.classify l))) ∧
      ((∃ arrival buffer', Wire.readDatagram d.datagram d.source buffer.toList =
          (.ok arrival, buffer') ∧ arrival.length ≤ 512 ∧ d.packet?.isSome = true) ∨
        ∃ e buffer', Wire.readDatagram d.datagram d.source buffer.toList = (.error e, buffer') ∧
          e.toTransportError.kind = .invalidData ∧ d.packet? = none) ∧
      (m.receiver = .reading → ∃ buffer' seen,
        m.stepAnytime R (SocketAction.deliver d buffer).action =
          some ({ m with
            clock := d.receivedAt
            buffer := buffer'
            receiver := d.packet?.elim .polling .handing }, seen) ∧
        readPackets seen = d.packet?.toList ∧ failures seen = [])) ∧
    (Unharmed m ∧ (R.Steady → m.processor ≠ .panicked) ∧
      ∀ e, .unread e ∈ events → (e.isSilence || e.isUnreadable) = true) ∧
    readPackets events = datagramPackets actions ∧
    (m.processor ≠ .panicked →
      datagramPackets actions = classifiedPackets events ++ m.inTransit ∧
      (sources events).filterMap Prod.fst = classifiedPackets events ∧
      ∀ result, m.sender = .returned result →
        classifiedPackets events = datagramPackets actions ∧
        (fatalErrors events = [] → result = .ok ())) := by
  obtain ⟨unharmed, hunread⟩ := run.unharmed fun a ha => by
    obtain ⟨a, -, rfl⟩ := List.mem_map.1 ha
    exact a.isHarmless
  have hread : readPackets events = datagramPackets actions := by
    rw [run.arrivals_eq, arrivals_map_action]
  refine ⟨fun d buffer => ⟨fun l => ?_, ?_, fun place => step_deliver R place d buffer⟩,
    ⟨unharmed, run.interleaving.alive_of_steady, hunread⟩, hread, fun alive => ?_⟩
  · exact Checked.handle_eq l d Vector.length_toList
  · have size : buffer.toList.length = bufferSize := Vector.length_toList
    cases h : d.packet? with
    | some p =>
      refine .inl ⟨_, _, Incoming.readDatagram_of_packet? h _, ?_, rfl⟩
      exact Nat.le_trans (Nat.min_le_right _ _) (Nat.le_of_eq size)
    | none =>
      obtain ⟨e, buffer', hread, -⟩ := Incoming.readDatagram_of_eq_none h buffer.toList
      exact .inr ⟨e, buffer', hread, rfl, rfl⟩
  · rw [← hread]
    refine ⟨run.interleaving.readPackets_eq alive, filterMap_fst_sources events, ?_⟩
    intro result returned
    have htransit := run.interleaving.readPackets_eq alive
    rw [run.interleaving.inTransit_eq_nil returned, List.append_nil] at htransit
    refine ⟨htransit.symm, fun hfatal => ?_⟩
    -- All that was to be told was told, so that without a fatal error nothing was.
    have hperm := run.interleaving.failures_perm unharmed.alive alive
    rw [run.interleaving.untold_eq_nil returned, List.append_nil, hfatal] at hperm
    rw [run.interleaving.result_eq returned, resultOf_eq_ok_iff, hperm.eq_nil]

end Runs

/-- No bytes, half a header, a header longer than its datagram, an unknown sender and silence are
    skipped. The end of a datagram too long for the buffer is cut off, and the rest is malformed.
    Then the reply to the probe comes. -/
def oddDatagrams : List SocketAction :=
  let target : IPv4 := ⟨10, 0, 0, 1⟩
  let sendTime : WallTime := ⟨1320, by decide, by decide⟩
  let readTime : WallTime := ⟨3320, by decide, by decide⟩
  let header : Bytes := 0x45 :: List.replicate 19 64
  let echo := Wire.echoOf (Wire.probe ⟨⟨2⟩, .first⟩ sendTime (Vector.replicate 48 0))
  let buffer := Vector.replicate bufferSize 0
  let caller (a : CallerAction) : SocketAction := .other (.caller a) rfl
  let sender (a : SenderAction) : SocketAction := .other (.sender a) rfl
  let processor (a : ProcessorAction) : SocketAction := .other (.processor a) rfl
  let poll : SocketAction := .other (.receiver .poll) rfl
  let handOver : SocketAction := .other (.receiver .handOver) rfl
  let deliver (datagram : Bytes) (source : Option IPv4) : SocketAction :=
    .deliver ⟨datagram, source, .zero, readTime⟩ buffer
  [caller (.ping "10.0.0.1" target), sender (.start .zero), sender (.launch .zero),
    sender .look, sender (.record sendTime .zero [⟨2⟩]), sender (.attempt (.ok ())),
    processor (.start .zero), processor .turn,
    poll, deliver [] target, poll, deliver (header.take 19) target,
    poll, deliver (0x4F :: header) target, poll, deliver (header ++ echo) none,
    poll, .silence (.plain .wouldBlock) rfl buffer .zero readTime,
    poll, deliver (List.replicate 600 0x4F) target, handOver,
    processor .classify, processor .report, processor (.check .zero), processor .turn,
    poll, deliver (header ++ echo) target, handOver,
    processor .classify, processor .report, processor (.check .zero),
    caller (.raise ⟨0⟩), sender (.tick .zero), sender (.wake .zero), sender .leave,
    sender .haltReceiver, poll, sender .joinReceiver, sender .haltProcessor,
    processor .turn, processor .drain, sender .joinProcessor, sender .close, sender .return]

/-- Both packets are classified, and the run returns ok. -/
theorem no_datagram_ends_run_odd :
    ∃ events m, Schedule .silent (fresh ()) (oddDatagrams.map SocketAction.action) events m ∧
      m.sender = .returned (.ok ()) ∧ Unharmed m ∧
      classifiedPackets events = datagramPackets oddDatagrams ∧
      (datagramPackets oddDatagrams).map (·.bytes.length) = [452, 64] ∧
      (sources events).length = 2 := by
  have hfinal : ((fresh ()).play .silent (oddDatagrams.map SocketAction.action)).map (fun n =>
      (n.1.sender.isOk, (sources n.2).length)) = some (true, 2) := by
    decide +kernel
  have hpackets : (datagramPackets oddDatagrams).map (·.bytes.length) = [452, 64] := by
    decide +kernel
  obtain ⟨⟨m, events⟩, hplayed, hfinal⟩ := Option.map_eq_some_iff.1 hfinal
  simp only [Prod.mk.injEq] at hfinal
  obtain ⟨hok, hsources⟩ := hfinal
  have run := schedule_of_play hplayed
  have returned := Sender.returned_of_isOk hok
  obtain ⟨-, ⟨unharmed, hsteady, -⟩, -, hreturn⟩ := no_datagram_ends_run run
  obtain ⟨hclassified, -⟩ := (hreturn (hsteady fun _ _ => rfl)).2.2 _ returned
  exact ⟨events, m, run, returned, unharmed, hclassified, hpackets, hsources⟩

end Machine

end EchoProbe.Run
