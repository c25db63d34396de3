import EchoProbe.Proofs.Run.Datagrams
import EchoProbe.Proofs.Run.FatalSend

/-!
# Interruptions

Some errors of a transport say nothing about the transport: nothing arrived in time, a packet cannot
be read, there is no room for another one, or a signal has interrupted the call
(`TransportError.isInterruption`). Of these transient errors, a run survives all but the last: it
takes an interruption for an error that is there to stay.

* `Schedule.fatalErrors_eq`: the errors that a run does not survive are those with which the
  transport answered, but for the probes that the ledger refused;
* `only_interruptions_end_run`: in a run in which every error is transient, interruptions do all the
  harm; without one, the run goes on until it is asked to stop, and returns ok;
* `interruption_ends_run`: but one of them is enough.
-/

namespace EchoProbe

namespace TransportError

variable {e : TransportError}

/-- A signal came before the call was done. It may be made again. -/
def isInterruption (e : TransportError) : Bool := e.kind = .interrupted

/-- A read failed, but the next one may succeed. -/
def isTransientRead (e : TransportError) : Bool :=
  e.kind ∈ [.wouldBlock, .timedOut, .invalidData, .interrupted]

/-- A send failed, but the next one may succeed. -/
def isTransientSend (e : TransportError) : Bool :=
  e = .system SystemError.noBufferSpace || e.kind ∈ [.wouldBlock, .interrupted]

/-- The receiver goes on after all transient errors but interruptions. -/
theorem isSilence_or_isUnreadable (h : e.isTransientRead = true) :
    (e.isSilence || e.isUnreadable) = !e.isInterruption := by
  have hkind : e.kind = .wouldBlock ∨ e.kind = .timedOut ∨ e.kind = .invalidData ∨
      e.kind = .interrupted := by
    simpa [isTransientRead] using h
  rw [isSilence, isUnreadable, isInterruption]
  rcases hkind with hkind | hkind | hkind | hkind <;> rw [hkind] <;> rfl

/-- The sender tries again after all transient errors but interruptions. -/
theorem isOutOfRoom_eq (h : e.isTransientSend = true) : e.isOutOfRoom = !e.isInterruption := by
  by_cases hsystem : e = .system SystemError.noBufferSpace
  · rw [hsystem]
    rfl
  · have hkind : e.kind = .wouldBlock ∨ e.kind = .interrupted := by
      simpa [isTransientSend, hsystem] using h
    rw [isOutOfRoom, isInterruption, decide_eq_false hsystem, Bool.false_or]
    rcases hkind with hkind | hkind <;> rw [hkind] <;> rfl

end TransportError

namespace Run

namespace Action

/-- The error with which the transport ends the run. -/
def fatalError? : Action → Option TransportError
  | .receiver (.read (.returned (.error e) _) _ _) =>
    if e.isSilence || e.isUnreadable then none else some e
  | .sender (.attempt (.error e)) => if e.isOutOfRoom then none else some e
  | _ => none

/-- The interruption with which the transport answers. -/
def interruption? : Action → Option TransportError
  | .receiver (.read (.returned (.error e) _) _ _) | .sender (.attempt (.error e)) =>
    if e.isInterruption then some e else none
  | _ => none

/-- Whether the transport, if the action asks it, does what it is asked for or answers with a
    transient error. A read tells no more than was read. -/
def isTransient : Action → Bool
  | .receiver (.read (.returned (.ok arrival) buffer) _ _) => arrival.length ≤ buffer.length
  | .receiver (.read (.returned (.error e) _) _ _) => e.isTransientRead
  | .receiver (.read .panicked _ _) => false
  | .sender (.attempt (.error e)) => e.isTransientSend
  | _ => true

/-- Of the transient errors, it is the interruptions that end a run. -/
theorem fatalError?_of_isTransient {a : Action} (transient : a.isTransient = true) :
    a.fatalError? = a.interruption? := by
  unfold fatalError? interruption?
  split
  · rw [TransportError.isSilence_or_isUnreadable transient]
    cases TransportError.isInterruption _ <;> rfl
  · rw [TransportError.isOutOfRoom_eq transient]
    cases TransportError.isInterruption _ <;> rfl
  · rfl

/-- Without an interruption, a transient error does the receiver no harm. -/
theorem isHarmless_of_isTransient {a : Action} (transient : a.isTransient = true)
    (uninterrupted : a.interruption? = none) : a.IsHarmless := by
  unfold IsHarmless
  split
  · exact of_decide_eq_true transient
  · rw [interruption?, ite_eq_right_iff] at uninterrupted
    rw [TransportError.isSilence_or_isUnreadable transient, Bool.not_eq_true']
    exact eq_false_of_ne_true fun h => by cases uninterrupted h
  · cases transient
  · trivial

end Action

/-- The interruptions with which the transport answered. -/
def interruptions (actions : List Action) : List TransportError :=
  actions.filterMap Action.interruption?

namespace Machine

variable {σ : Type} {R : Reporter σ} {m m' : Machine σ} {seen : List Event}

/-! ## Errors of the transport -/

/-- Who is handing a probe to the transport does nothing else. -/
theorem eq_attempt_of_attempting {a : SenderAction} {next : Next σ} {tick : Instant} {r : Request}
    {bytes : Bytes} {attempt : Nat} (place : m.sender = .attempting tick r bytes attempt)
    (taken : m.stepSender R a = some next) : ∃ result, a = .attempt result := by
  cases a with
  | attempt result => exact ⟨result, rfl⟩
  | _ => simp [stepSender, place] at taken

/-- After an attempt, there are only lines to be logged. -/
theorem fatalErrors_afterAttempt (m : Machine σ) (tick : Instant) (r : Request) (bytes : Bytes)
    (attempt : Nat) (result : SendResult) :
    fatalErrors (m.afterAttempt tick r bytes attempt result).2 = [] := by
  have hretry (line : LogLine) :
      fatalErrors (if m.settings.debug then [.logged line] else []) = [] := by
    split <;> rfl
  unfold afterAttempt
  split
  · split <;> rfl
  · rfl
  · dsimp only
    split
    · exact hretry _
    · rw [fatalErrors_append, hretry]
      rfl

theorem fatalErrors_of_attempt {result : SendResult}
    (taken : m.stepSender R (.attempt result) = some (m', seen)) :
    fatalErrors seen = (Action.sender (.attempt result)).fatalError?.toList.map .transport := by
  cases place : m.sender with
  | attempting tick r bytes attempt =>
    simp only [stepSender, place, Option.some.injEq, Prod.mk.injEq] at taken
    obtain ⟨-, rfl⟩ := taken
    rw [fatalErrors_cons, fatalErrors_afterAttempt, List.append_nil]
    rcases result with e | _
    · rw [Event.fatalError?, Action.fatalError?, SendResult.next]
      cases e.isOutOfRoom <;> rfl
    · rfl
  | _ => simp [stepSender, place] at taken

/-- Of what the sender does, only an attempt can meet an error of the transport. -/
theorem fatalErrors_of_sender {a : SenderAction} (taken : m.stepSender R a = some (m', seen))
    (reading : ∀ now, (Action.sender a).reading? = some now → now = m.clock)
    (room : ∀ e, .unrecorded e ∉ seen) :
    fatalErrors seen = (Action.sender a).fatalError?.toList.map .transport := by
  -- The other moves of the sender meet no error of the transport, so nothing has to be known of
  -- them but that they are moves.
  by_cases hattempt : ∃ result, a = .attempt result
  · obtain ⟨result, rfl⟩ := hattempt
    exact fatalErrors_of_attempt taken
  · have hnone : (Action.sender a).fatalError? = none := by
      cases a with
      | attempt result => exact absurd ⟨result, rfl⟩ hattempt
      | _ => rfl
    have move : SenderMove R m m' seen := senderMove_of_step taken reading
    rw [hnone]
    cases move
    -- The ledger has room by assumption.
    case notRecord e _ _ => exact absurd List.mem_cons_self (room e)
    all_goals first
      | exact absurd (eq_attempt_of_attempting ‹_› taken) hattempt
      | simp [Event.fatalError?]

/-- What comes of a read. -/
theorem afterRead_of_read {result : Except TransportError Arrival} {buffer : Bytes}
    {receivedAt : Instant} {receivedWall : WallTime}
    (taken : m.stepReceiver (.read (.returned result buffer) receivedAt receivedWall) =
      some (m', seen)) :
    m.afterRead result buffer receivedAt receivedWall = (m', seen) := by
  cases place : m.receiver with
  | reading =>
    simp only [stepReceiver, place] at taken
    split at taken
    · exact Option.some.inj taken
    · cases taken
  | _ => simp [stepReceiver, place] at taken

/-- Only in a read, the receiver dies or meets an error of the transport. -/
theorem of_not_isRead {a : ReceiverAction} (notRead : (Action.receiver a).isRead = false)
    (taken : m.stepReceiver a = some (m', seen)) :
    fatalErrors seen = [] ∧ m'.receiver ≠ .panicked := by
  unfold stepReceiver at taken
  split at taken
  · split at taken <;> cases taken <;> simp
  · cases notRead
  · cases notRead
  · split at taken <;> cases taken
    simp
  · split at taken <;> cases taken
    simp
  · cases taken
    simp [Event.fatalError?]
  · cases taken

theorem fatalErrors_of_receiver {a : ReceiverAction} (taken : m.stepReceiver a = some (m', seen)) :
    fatalErrors seen = (Action.receiver a).fatalError?.toList.map .transport := by
  cases a with
  | read result receivedAt receivedWall =>
    cases result with
    | returned result buffer =>
      have hread := afterRead_of_read taken
      rcases result with e | arrival
      · simp only [afterRead] at hread
        rw [Action.fatalError?]
        split at hread
        · cases hread
          rw [if_pos ‹_›, fatalErrors_cons, Event.fatalError?, if_pos ‹_›]
          rfl
        · cases hread
          rw [if_neg ‹_›, fatalErrors_cons, Event.fatalError?, if_neg ‹_›]
          rfl
      · simp only [afterRead] at hread
        split at hread <;> cases hread <;> rfl
    | panicked =>
      cases place : m.receiver with
      | reading =>
        simp only [stepReceiver, place] at taken
        cases taken
        rfl
      | _ => simp [stepReceiver, place] at taken
  | _ => exact (of_not_isRead rfl taken).1

/-- The errors that a run does not survive and that occur in a step are those with which the
    transport answers, unless the ledger refuses a probe. -/
theorem fatalErrors_of_step {a : Action} (taken : m.stepAnytime R a = some (m', seen))
    (room : ∀ e, .unrecorded e ∉ seen) :
    fatalErrors seen = a.fatalError?.toList.map .transport := by
  obtain ⟨now, taken, reading⟩ := stepAt_of_stepAnytime taken
  cases a with
  | caller a =>
    have move : CallerMove _ m' seen := callerMove_of_step taken
    cases move <;> rfl
  | sender a => exact fatalErrors_of_sender taken reading room
  | receiver a => exact fatalErrors_of_receiver taken
  | processor a =>
    have move : ProcessorMove R _ m' seen := processorMove_of_step taken reading
    cases move <;> simp [Event.fatalError?, Action.fatalError?]

/-- If the ledger refuses a probe, then this is a fatal error. -/
theorem not_unrecorded_of_fatalErrors {events : List Event}
    (h : ∀ e, .ledger e ∉ fatalErrors events) : ∀ e, .unrecorded e ∉ events := fun e he =>
  h e (List.mem_filterMap.2 ⟨_, he, rfl⟩)

/-- So the errors that a run does not survive are those of its actions, in their order. -/
theorem Schedule.fatalErrors_eq {start : Machine σ} {actions : List Action} {events : List Event}
    (run : Schedule R start actions events m) (room : ∀ e, .unrecorded e ∉ events) :
    fatalErrors events = (actions.filterMap Action.fatalError?).map .transport := by
  induction run with
  | refl => rfl
  | @step actions events seen m m' a before taken ih =>
    rw [fatalErrors_append, ih fun e he => room e (List.mem_append_left _ he),
      fatalErrors_of_step taken fun e he => room e (List.mem_append_right _ he),
      List.filterMap_append, List.map_append]
    cases h : a.fatalError? <;> simp [h]

/-- If every error is transient, then they are the interruptions. -/
theorem Schedule.fatalErrors_of_isTransient {start : Machine σ} {actions : List Action}
    {events : List Event} (run : Schedule R start actions events m)
    (transient : ∀ a ∈ actions, a.isTransient = true) (room : ∀ e, .unrecorded e ∉ events) :
    fatalErrors events = (interruptions actions).map .transport := by
  rw [run.fatalErrors_eq room, interruptions]
  exact congrArg _ (List.filterMap_congr fun a ha => Action.fatalError?_of_isTransient
    (transient a ha))

/-! ## The receiver -/

theorem receiver_ne_panicked_of_receiver {a : ReceiverAction}
    (transient : (Action.receiver a).isTransient = true)
    (taken : m.stepReceiver a = some (m', seen)) : m'.receiver ≠ .panicked := by
  cases a with
  | read result receivedAt receivedWall =>
    cases result with
    | returned result buffer =>
      have hread := afterRead_of_read taken
      rcases result with e | arrival
      · simp only [afterRead] at hread
        split at hread <;> cases hread <;> simp
      · have fits : arrival.length ≤ buffer.length := of_decide_eq_true transient
        simp only [afterRead, if_pos fits] at hread
        cases hread
        simp
    | panicked => cases transient
  | _ => exact (of_not_isRead rfl taken).2

/-- A transport that at worst answers with transient errors does not kill the receiver, and nobody
    else does. -/
theorem receiver_ne_panicked_of_isTransient {a : Action} (transient : a.isTransient = true)
    (taken : m.stepAnytime R a = some (m', seen)) (alive : m.receiver ≠ .panicked) :
    m'.receiver ≠ .panicked := by
  obtain ⟨now, taken, reading⟩ := stepAt_of_stepAnytime taken
  cases a with
  | caller a =>
    have move : CallerMove _ m' seen := callerMove_of_step taken
    cases move <;> exact alive
  | sender a =>
    have move : SenderMove R _ m' seen := senderMove_of_step taken reading
    cases move
    case launch => simp
    all_goals exact alive
  | receiver a => exact receiver_ne_panicked_of_receiver transient taken
  | processor a =>
    have move : ProcessorMove R _ m' seen := processorMove_of_step taken reading
    cases move <;> exact alive

section Runs

variable {settings : Settings} {filler : Wire.Filler} {reporter : σ} {flags : Flags}
  {handle : Handle} {clock : Instant} {events : List Event}

theorem Schedule.alive_of_isTransient {actions : List Action}
    (run : Schedule R (init settings filler reporter flags handle clock) actions events m)
    (transient : ∀ a ∈ actions, a.isTransient = true) : m.receiver ≠ .panicked := by
  induction run with
  | refl => simp [init]
  | @step actions events seen m m' a before taken ih =>
    exact receiver_ne_panicked_of_isTransient (transient a (by simp)) taken
      (ih fun b hb => transient b (List.mem_append_left _ hb))

/-- An error that is returned was told before. -/
theorem Interleaving.mem_failures_of_returned
    (run : Interleaving R (init settings filler reporter flags handle clock) events m)
    {e : RunError} (returned : m.sender = .returned (.error e)) : e ∈ failures events :=
  List.mem_of_head? ((resultOf_eq_error_iff events).1 (run.result_eq returned).symm)

/-- However a run interleaves, and however many transient errors the transport answers with, in any
    order, as long as the ledger has room and the processor does not die: the errors that end the
    run, told or waiting to be told, are the interruptions. If there is none, then the receiver goes
    on until it is halted. The sender leaves off sending only after a stop request or since an
    interruption was told. When the run has returned, every packet that was read has been
    classified. It has returned ok exactly if there was no interruption, and otherwise the error is
    one of them. -/
theorem only_interruptions_end_run (has : flags.Has handle) {actions : List Action}
    (run : Schedule R (init settings filler reporter flags handle clock) actions events m)
    (transient : ∀ a ∈ actions, a.isTransient = true) (room : ∀ e, .unrecorded e ∉ events)
    (alive : m.processor ≠ .panicked) :
    (failures events ++ m.untold).Perm ((interruptions actions).map .transport) ∧
    (interruptions actions = [] → Unharmed m) ∧
    (m.sender.hasQuit = true → flags.isStopped handle = true ∨ .raised handle ∈ events ∨
      ∃ e ∈ interruptions actions, .failed (.transport e) ∈ events) ∧
    ∀ result, m.sender = .returned result →
      classifiedPackets events = arrivals actions ∧
      (result = .ok () ↔ interruptions actions = []) ∧
      ∀ e, result = .error e → ∃ i ∈ interruptions actions, e = .transport i := by
  have hperm := run.interleaving.failures_perm (run.alive_of_isTransient transient) alive
  rw [run.fatalErrors_of_isTransient transient room] at hperm
  have htold {e : RunError} (h : e ∈ failures events) : ∃ i ∈ interruptions actions,
      e = .transport i := by
    obtain ⟨i, hi, rfl⟩ := List.mem_map.1 (hperm.mem_iff.1 (List.mem_append_left _ h))
    exact ⟨i, hi, rfl⟩
  refine ⟨hperm, fun hnone => ?_, fun quit => ?_, fun result returned => ⟨?_, ?_, ?_⟩⟩
  · refine (run.unharmed fun a ha => Action.isHarmless_of_isTransient (transient a ha) ?_).1
    exact List.filterMap_eq_nil_iff.1 hnone a ha
  · have stopped := run.interleaving.isStopped_of_hasQuit has quit
    obtain ⟨⟨hhandle, -⟩, hiff⟩ := run.interleaving.isStopped_iff has
    rw [isStopped, hhandle] at stopped
    refine (hiff.1 stopped).imp_right fun hraised => ?_
    rcases (any_raises_iff events handle handle).1 hraised with hraised | ⟨-, e, hfailed⟩
    · exact .inl hraised
    · obtain ⟨i, hi, rfl⟩ := htold ((mem_failures events).2 hfailed)
      exact .inr ⟨i, hi, hfailed⟩
  · have hread := run.interleaving.readPackets_eq alive
    rw [run.arrivals_eq, run.interleaving.inTransit_eq_nil returned, List.append_nil] at hread
    exact hread.symm
  · rw [run.interleaving.untold_eq_nil returned, List.append_nil] at hperm
    have hnone : failures events = [] ↔ interruptions actions = [] := by
      rw [← List.map_eq_nil_iff (f := RunError.transport)]
      exact ⟨fun h => (h ▸ hperm).nil_eq.symm, fun h => (h ▸ hperm).eq_nil⟩
    rw [run.interleaving.result_eq returned, resultOf_eq_ok_iff, hnone]
  · rintro e rfl
    exact htold (run.interleaving.mem_failures_of_returned returned)

end Runs

/-- There is no room for the probe, twice; nothing arrives in time, twice; a packet cannot be read.
    Then the reply comes, and the run is asked to stop. -/
def transientErrors : List Action :=
  let target : IPv4 := ⟨10, 0, 0, 1⟩
  let sendTime : WallTime := ⟨1260, by decide, by decide⟩
  let readTime : WallTime := ⟨3260, by decide, by decide⟩
  let echo := Wire.echoOf (Wire.probe ⟨⟨2⟩, .first⟩ sendTime (Vector.replicate 48 0))
  let empty : Bytes := List.replicate 512 0
  let read (result : Except TransportError Arrival) (buffer : Bytes) : Action :=
    .receiver (.read (.returned result buffer) .zero readTime)
  [.caller (.ping "10.0.0.1" target), .sender (.start .zero), .sender (.launch .zero),
    .sender .look, .sender (.record sendTime .zero [⟨2⟩]),
    .sender (.attempt (.error (.system SystemError.noBufferSpace))),
    .sender (.attempt (.error (.plain .wouldBlock))), .sender (.attempt (.ok ())),
    .processor (.start .zero), .processor .turn,
    .receiver .poll, read (.error (.plain .wouldBlock)) empty,
    .receiver .poll, read (.error (.plain .timedOut)) empty,
    .receiver .poll, read (.error DatagramError.truncatedHeader.toTransportError) empty,
    .receiver .poll, read (.ok ⟨64, target, ⟨64⟩⟩) (Wire.overwrite empty echo),
    .receiver .handOver, .processor .classify, .processor .report, .processor (.check .zero),
    .caller (.raise ⟨0⟩), .sender (.tick .zero), .sender (.wake .zero), .sender .leave,
    .sender .haltReceiver, .receiver .poll, .sender .joinReceiver, .sender .haltProcessor,
    .processor .turn, .processor .drain, .sender .joinProcessor, .sender .close, .sender .return]

/-- The reply is classified, and the run returns ok after the stop. -/
theorem only_interruptions_end_run_none :
    ∃ events m, Schedule .silent (fresh ()) transientErrors events m ∧
      (∀ a ∈ transientErrors, a.isTransient = true) ∧ m.sender = .returned (.ok ()) ∧
      .raised ⟨0⟩ ∈ events ∧ classifiedPackets events = arrivals transientErrors ∧
      (arrivals transientErrors).length = 1 ∧ Unharmed m := by
  have transient : ∀ a ∈ transientErrors, a.isTransient = true := by decide +kernel
  have hnone : interruptions transientErrors = [] := by decide +kernel
  have hone : (arrivals transientErrors).length = 1 := by decide +kernel
  have hfinal : ((fresh ()).play .silent transientErrors).map (fun n =>
      (n.1.sender.isOk, n.1.processor.hasDrained, fatalErrors n.2)) = some (true, true, []) := by
    decide +kernel
  obtain ⟨⟨m, events⟩, hplayed, hfinal⟩ := Option.map_eq_some_iff.1 hfinal
  simp only [Prod.mk.injEq] at hfinal
  obtain ⟨hok, hdrained, hfatal⟩ := hfinal
  have run := schedule_of_play hplayed
  have returned := Sender.returned_of_isOk hok
  have room : ∀ e, .unrecorded e ∉ events := not_unrecorded_of_fatalErrors (by simp [hfatal])
  have alive : m.processor ≠ .panicked := fun hpanicked => by
    rw [hpanicked] at hdrained
    cases hdrained
  obtain ⟨-, hunharmed, hquit, hreturn⟩ :=
    only_interruptions_end_run (by decide) run transient room alive
  have hraised : .raised ⟨0⟩ ∈ events := by
    rcases hquit (by rw [returned]; rfl) with hflag | hraised | ⟨e, he, -⟩
    · cases hflag
    · exact hraised
    · rw [hnone] at he
      cases he
  exact ⟨events, m, run, transient, returned, hraised, (hreturn _ returned).1, hone,
    hunharmed hnone⟩

/-- A run in which a signal interrupts the first read. -/
def interruptedRead : List Action :=
  let sendTime : WallTime := ⟨1261, by decide, by decide⟩
  let buffer : Bytes := List.replicate 512 0
  [.caller (.ping "10.0.0.1" ⟨10, 0, 0, 1⟩), .sender (.start .zero), .sender (.launch .zero),
    .sender .look, .sender (.record sendTime .zero [⟨2⟩]), .sender (.attempt (.ok ())),
    .receiver .poll, .receiver (.read (.returned (.error (.system 4)) buffer) .zero sendTime),
    .receiver .fail, .sender (.tick .zero), .sender (.wake .zero), .sender .leave,
    .sender .haltReceiver, .sender .joinReceiver, .sender .haltProcessor,
    .processor (.start .zero), .processor .turn, .processor .drain, .processor .report,
    .sender .joinProcessor, .sender .close, .sender .return]

/-- A run in which a signal interrupts the first attempt to send a probe. -/
def interruptedSend : List Action :=
  [.caller (.ping "10.0.0.1" ⟨10, 0, 0, 1⟩), .sender (.start .zero), .sender (.launch .zero),
    .sender .look, .sender (.record ⟨1262, by decide, by decide⟩ .zero [⟨2⟩]),
    .processor (.start .zero), .sender (.attempt (.error (.system 4))), .sender .retract] ++ runOut

/-- The transport does nothing worse than to answer with transient errors, the ledger has room, the
    processor does not die, and nobody asks the run to stop, but it returns the error. -/
def EndsUnasked (actions : List Action) (e : TransportError) : Prop :=
  (∀ a ∈ actions, a.isTransient = true) ∧
  ∃ events m, Schedule .silent (fresh ()) actions events m ∧ (∀ e, .unrecorded e ∉ events) ∧
    m.processor ≠ .panicked ∧ .raised ⟨0⟩ ∉ events ∧ m.sender = .returned (.error (.transport e))

theorem endsUnasked_of_play {actions : List Action} {e : TransportError}
    (transient : ∀ a ∈ actions, a.isTransient = true)
    (hfinal : ((fresh ()).play .silent actions).map (fun n =>
      (n.1.sender.failure?, n.1.processor.hasDrained, fatalErrors n.2,
        n.2.any (Event.raises ⟨1⟩ ⟨0⟩))) = some (some (.transport e), true, [.transport e], false)) :
    EndsUnasked actions e := by
  obtain ⟨⟨m, events⟩, hplayed, hfinal⟩ := Option.map_eq_some_iff.1 hfinal
  simp only [Prod.mk.injEq] at hfinal
  obtain ⟨hfailure, hdrained, hfatal, hraises⟩ := hfinal
  have room : ∀ e, .unrecorded e ∉ events := not_unrecorded_of_fatalErrors (by simp [hfatal])
  have alive : m.processor ≠ .panicked := fun hpanicked => by
    rw [hpanicked] at hdrained
    cases hdrained
  have unasked : .raised ⟨0⟩ ∉ events := fun hraised => by
    rw [(any_raises_iff events ⟨1⟩ ⟨0⟩).2 (.inl hraised)] at hraises
    cases hraises
  exact ⟨transient, events, m, schedule_of_play hplayed, room, alive, unasked,
    Sender.returned_of_failure? hfailure⟩

/-- One interrupted call is enough, be it a read or a send. -/
theorem interruption_ends_run :
    EndsUnasked interruptedRead (.system 4) ∧ EndsUnasked interruptedSend (.system 4) :=
  ⟨endsUnasked_of_play (by decide +kernel) (by decide +kernel),
    endsUnasked_of_play (by decide +kernel) (by decide +kernel)⟩

end Machine

end Run

end EchoProbe
