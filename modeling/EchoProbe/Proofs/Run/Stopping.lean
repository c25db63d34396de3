import EchoProbe.Proofs.Run.Order

/-!
# Stopping a run

A run is stopped by raising its flag: through the handle of the pinger or a copy of it, by the
pinger itself, or by an activity that fails. The sender looks at the flag before every probe, and
once more when it wakes up. It may have looked just before the flag was raised; then it still
sends the probe that it has decided on, and no other.

* `isStopped_of_move`: which flags a move raises; none is ever lowered;
* `begun_of_move`: in a stopped run, a move begins no probe but the one decided on before;
* `Interleaving.isStopped_of_hasQuit`: the sender goes to the end of a run only if it is stopped;
* `stop_never_lost`: what a stop comes to, whoever makes it and whenever.
-/

namespace EchoProbe.Run

namespace Event

/-- Whether the event raises the flag of `h`, in a run whose own handle is `own`. -/
def raises (own h : Handle) : Event → Bool
  | raised handle => h = handle
  | failed _ => h = own
  | _ => false

/-- Whether the event is the first thing done about a new probe: the ledger records it or refuses
    it. -/
def beginsProbe : Event → Bool
  | recorded _ _ | unrecorded _ => true
  | _ => false

end Event

/-- How many probes the sender began to send. -/
def begun (events : List Event) : Nat := events.countP Event.beginsProbe

/-- How many probes the sender has decided to send without having begun to. -/
def Sender.decided : Sender → Nat
  | recording _ => 1
  | _ => 0

theorem Sender.decided_le (s : Sender) : s.decided ≤ 1 := by
  cases s <;> simp [Sender.decided]

/-- The sender has decided on a probe only between its look at the flag and the recording. -/
theorem Sender.decided_eq_zero {s : Sender} (h : ∀ tick, s ≠ .recording tick) : s.decided = 0 := by
  cases s <;> first | rfl | exact absurd rfl (h _)

/-- Whether the sender has left off sending since the run is stopped. -/
def Sender.hasQuit : Sender → Bool
  | leaving | haltingReceiver | joiningReceiver | mourning | haltingProcessor | joiningProcessor
  | closing | returning | returned _ => true
  | _ => false

section Lists

variable (e : Event) (events seen : List Event)

@[simp]
theorem begun_nil : begun [] = 0 := rfl

@[simp]
theorem begun_cons : begun (e :: seen) = begun seen + if e.beginsProbe then 1 else 0 :=
  List.countP_cons

@[simp]
theorem begun_append : begun (events ++ seen) = begun events + begun seen :=
  List.countP_append

@[simp]
theorem begun_map_logged (log : List LogLine) : begun (log.map .logged) = 0 := by
  simp [begun, Event.beginsProbe]

@[simp]
theorem begun_map_loggedAside (log : List LogLine) : begun (log.map .loggedAside) = 0 := by
  simp [begun, Event.beginsProbe]

@[simp]
theorem any_raises_map_logged (own h : Handle) (log : List LogLine) :
    (log.map .logged).any (Event.raises own h) = false := by
  simp [Event.raises]

@[simp]
theorem any_raises_map_loggedAside (own h : Handle) (log : List LogLine) :
    (log.map .loggedAside).any (Event.raises own h) = false := by
  simp [Event.raises]

theorem any_raises_iff (own h : Handle) : events.any (Event.raises own h) = true ↔
    .raised h ∈ events ∨ h = own ∧ ∃ e, .failed e ∈ events := by
  rw [List.any_eq_true]
  constructor
  · rintro ⟨e, he, hraises⟩
    cases e <;> simp only [Event.raises, decide_eq_true_eq, Bool.false_eq_true] at hraises
    · exact .inr ⟨hraises, _, he⟩
    · exact .inl (hraises ▸ he)
  · rintro (he | ⟨hown, e, he⟩)
    · exact ⟨_, he, decide_eq_true rfl⟩
    · exact ⟨_, he, decide_eq_true hown⟩

/-- Only a probe that was begun is recorded. -/
theorem length_recorded_le_begun : (recorded events).length ≤ begun events := by
  induction events with
  | nil => exact Nat.le_refl _
  | cons e events ih =>
    rw [recorded_cons, begun_cons, List.length_append]
    cases e <;> simp [Event.recorded?, Event.beginsProbe] <;> omega

end Lists

namespace Machine

variable {σ : Type} {R : Reporter σ} {start m m' m'' : Machine σ} {events later seen : List Event}

/-! ## Flags -/

theorem handle_of_move (move : Move R m m' seen) : m'.handle = m.handle := by
  cases move with
  | clock now => rfl
  | caller move => cases move <;> rfl
  | sender move => cases move <;> rfl
  | receiver move => cases move <;> rfl
  | processor move => cases move <;> rfl

/-- A move raises the flag that a caller names, or that of the run if an activity fails, and lowers
    none. -/
theorem isStopped_of_move (move : Move R m m' seen) {h : Handle} (has : m.flags.Has h) :
    m'.flags.Has h ∧ (m'.flags.isStopped h = true ↔
      m.flags.isStopped h = true ∨ seen.any (Event.raises m.handle h) = true) := by
  -- The handle that is raised names a flag if it is the one in question.
  have hself (own : Handle) : h = own ∧ m.flags.Has own ↔ h = own :=
    ⟨fun hown => hown.1, fun hown => ⟨hown, hown ▸ has⟩⟩
  cases move with
  | clock now => simp [has]
  | caller move => cases move <;> simp [has, Event.raises, Flags.isStopped_stop, hself]
  | sender move =>
    cases move <;> simp [has, Event.raises, afterFailure, Flags.isStopped_stop, hself]
  | receiver move =>
    cases move <;> simp [has, Event.raises, afterFailure, Flags.isStopped_stop, hself]
  | processor move => cases move <;> simp [has, Event.raises]

/-- A flag is raised exactly if it was raised at the start or by something that was seen. -/
theorem Interleaving.isStopped_iff (run : Interleaving R start events m) {h : Handle}
    (has : start.flags.Has h) : (m.handle = start.handle ∧ m.flags.Has h) ∧
      (m.flags.isStopped h = true ↔
        start.flags.isStopped h = true ∨ events.any (Event.raises start.handle h) = true) := by
  refine run.invariant (P := fun events m => (m.handle = start.handle ∧ m.flags.Has h) ∧
      (m.flags.isStopped h = true ↔
        start.flags.isStopped h = true ∨ events.any (Event.raises start.handle h) = true))
    ⟨⟨rfl, has⟩, by simp⟩ ?_
  rintro events m m' seen ⟨⟨hhandle, has⟩, hstopped⟩ move
  obtain ⟨has', hstopped'⟩ := isStopped_of_move move has
  refine ⟨⟨(handle_of_move move).trans hhandle, has'⟩, ?_⟩
  rw [hstopped', hstopped, hhandle, List.any_append, Bool.or_eq_true, or_assoc]

/-- A run that is stopped stays so. -/
theorem Interleaving.isStopped_of_isStopped (run : Interleaving R start events m)
    (stopped : start.isStopped = true) : m.isStopped = true := by
  obtain ⟨⟨hhandle, -⟩, hiff⟩ := run.isStopped_iff (Flags.has_of_isStopped stopped)
  rw [isStopped, hhandle]
  exact hiff.2 (.inl stopped)

/-! ## Probes -/

/-- In a stopped run, a probe is begun only if the sender had decided on it, and the sender decides
    on no other. -/
theorem begun_of_move (order : Orderly m) (stopped : m.isStopped = true) (move : Move R m m' seen) :
    begun seen + m'.sender.decided = m.sender.decided := by
  cases move with
  | clock now => simp
  | caller move =>
    cases move
    case enter host target idle =>
      -- Before the run there is no sender.
      simp [order.idle idle, Event.beginsProbe, Sender.decided]
    all_goals simp [Event.beginsProbe]
  | sender move =>
    cases move
    case begin tick place running =>
      rw [stopped] at running
      cases running
    all_goals simp [*, Event.beginsProbe, Sender.decided]
  | receiver move => cases move <;> simp [Event.beginsProbe, afterFailure]
  | processor move => cases move <;> simp [Event.beginsProbe]

/-- Once a run is stopped, the probe that was decided on is begun, and none else. -/
theorem Interleaving.begun_of_isStopped (run : Interleaving R start later m) (order : Orderly start)
    (stopped : start.isStopped = true) :
    begun later + m.sender.decided = start.sender.decided := by
  have hall : (Orderly m ∧ m.isStopped = true) ∧
      begun later + m.sender.decided = start.sender.decided := by
    refine run.invariant (P := fun later m => (Orderly m ∧ m.isStopped = true) ∧
      begun later + m.sender.decided = start.sender.decided) ⟨⟨order, stopped⟩, by simp⟩ ?_
    rintro later m m' seen ⟨⟨order, stopped⟩, hbegun⟩ move
    have hstopped := (isStopped_of_move move (Flags.has_of_isStopped stopped)).2
    refine ⟨⟨order.of_move move, ?_⟩, ?_⟩
    · rw [isStopped, handle_of_move move]
      exact hstopped.2 (.inl stopped)
    · rw [begun_append, Nat.add_assoc, begun_of_move order stopped move, hbegun]
  exact hall.2

/-! ## Leaving off -/

/-- The sender leaves off sending if it sees that the run is stopped, or if it stops the run
    itself since it has failed. -/
theorem isStopped_of_move_of_hasQuit (has : m.flags.Has m.handle)
    (hquit : m.sender.hasQuit = true → m.isStopped = true) (move : Move R m m' seen)
    (quit : m'.sender.hasQuit = true) : m'.isStopped = true := by
  rw [isStopped, handle_of_move move]
  refine (isStopped_of_move move has).2.2 ?_
  cases move with
  | clock now => exact .inl (hquit quit)
  | caller move =>
    cases move
    case enter => cases quit
    all_goals exact .inl (hquit quit)
  | sender move =>
    cases move
    case quit place stopped => exact .inl stopped
    case wakeStopped tick place woken => exact .inl (Flags.isStopped_of_waitUntil woken)
    case fail => exact .inr (by simp [Event.raises])
    all_goals first
      | cases quit
        done
      | exact .inl (hquit (by rw [‹m.sender = _›]; rfl))
  | receiver move => cases move <;> exact .inl (hquit quit)
  | processor move => cases move <;> exact .inl (hquit quit)

section Interleaving

variable {settings : Settings} {filler : Wire.Filler} {reporter : σ} {flags : Flags}
  {handle : Handle} {clock : Instant}

/-- The sender leaves off sending only if the run is stopped. -/
theorem Interleaving.isStopped_of_hasQuit (has : flags.Has handle)
    (run : Interleaving R (init settings filler reporter flags handle clock) events m)
    (quit : m.sender.hasQuit = true) : m.isStopped = true := by
  refine (run.invariant (P := fun _ m => m.flags.Has m.handle ∧
    (m.sender.hasQuit = true → m.isStopped = true)) ⟨has, fun quit => by cases quit⟩ ?_).2 quit
  rintro events m m' seen ⟨has, hquit⟩ move
  refine ⟨?_, isStopped_of_move_of_hasQuit has hquit move⟩
  rw [handle_of_move move]
  exact (isStopped_of_move move has).1

/-- However a run interleaves: from the moment at which a stop was completed, through any copy of
    its handle, the flag is raised by every copy for good, and whoever waits on a copy learns of
    it. Of the probes that the sender began or is about to begin later, there are as many as it had
    decided to send at that moment: at most one, and none if it had not looked at the flag just
    before, or if the run had not been asked for. The flags of other pingers are raised only as they
    were at the start, or by stops through their own handles. -/
theorem stop_never_lost (has : flags.Has handle)
    (run : Interleaving R (init settings filler reporter flags handle clock) events m)
    {copy : Handle} (copies : handle.Copies copy) (completed : .raised copy ∈ events)
    (rest : Interleaving R m later m') :
    (∀ c, handle.Copies c → m'.flags.isStopped c = true ∧
      ∀ deadline now, m'.flags.waitUntil c deadline now = some true) ∧
    (begun later + m'.sender.decided = m.sender.decided ∧
      (recorded later).length ≤ begun later ∧ begun later ≤ 1 ∧
      ((∀ tick, m.sender ≠ .recording tick) → begun later = 0) ∧
      (m.phase = .idle → begun later = 0)) ∧
    ∀ other, flags.Has other → other ≠ handle →
      (m'.flags.isStopped other = true ↔
        flags.isStopped other = true ∨ .raised other ∈ events ++ later) := by
  obtain rfl := copies.eq
  obtain ⟨⟨hhandle, -⟩, hiff⟩ := run.isStopped_iff has
  have hflag : m.flags.isStopped copy = true :=
    hiff.2 (.inr ((any_raises_iff events copy copy).2 (.inl completed)))
  have stopped : m.isStopped = true := by rwa [isStopped, hhandle]
  have hbegun := rest.begun_of_isStopped run.orderly stopped
  have hdecided := m.sender.decided_le
  refine ⟨fun c hc => ?_, ⟨hbegun, length_recorded_le_begun later, by omega, ?_, ?_⟩, ?_⟩
  · obtain rfl := hc.eq
    have hlater : m'.flags.isStopped c = true :=
      (rest.isStopped_iff (Flags.has_of_isStopped hflag)).2.2 (.inl hflag)
    exact ⟨hlater, Flags.waitUntil_of_isStopped hlater⟩
  · intro looked
    have := Sender.decided_eq_zero looked
    omega
  · intro idle
    rw [run.orderly.idle idle] at hbegun
    exact Nat.eq_zero_of_add_eq_zero_right hbegun
  · intro other hother hne
    have hraised := (run.append rest).isStopped_iff hother
    rw [hraised.2, any_raises_iff]
    simp [init, hne]

end Interleaving

/-- The run of the second of two pingers is stopped just after the sender has looked at its flag. -/
def lateStop : List Action :=
  [.caller (.ping "10.0.0.1" ⟨10, 0, 0, 1⟩), .sender (.start .zero), .sender (.launch .zero),
    .sender .look, .caller (.raise (Handle.copy ⟨1⟩))]

/-- The sender sends the probe that it has decided on, and leaves. -/
def lastProbe : List Action :=
  let sendTime : WallTime := ⟨1600, by decide, by decide⟩
  [.sender (.record sendTime .zero [⟨5⟩]), .sender (.attempt (.ok ())), .sender (.tick .zero),
    .sender (.wake .zero), .sender .leave]

/-- One probe is recorded after the stop, and the other pinger is not stopped. -/
theorem stop_never_lost_lateStop :
    ∃ events m later m',
      Interleaving .silent (init default (Vector.replicate 48 0) () ⟨[false, false]⟩ ⟨1⟩ .zero)
        events m ∧
      .raised ⟨1⟩ ∈ events ∧ Interleaving .silent m later m' ∧
      m'.flags.isStopped ⟨1⟩ = true ∧ m'.flags.isStopped ⟨0⟩ = false ∧
      (recorded later).length = 1 ∧ begun later + m'.sender.decided = 1 := by
  let start : Machine Unit := init default (Vector.replicate 48 0) () ⟨[false, false]⟩ ⟨1⟩ .zero
  have hfinal : (start.play .silent lateStop).bind (fun n =>
      (n.1.play .silent lastProbe).map fun n' =>
        (n.2.any (Event.raises ⟨0⟩ ⟨1⟩), (n.2 ++ n'.2).any (Event.raises ⟨1⟩ ⟨0⟩),
          n.1.sender.decided, (recorded n'.2).length)) = some (true, false, 1, 1) := by
    decide +kernel
  obtain ⟨⟨m, events⟩, hplayed, hfinal⟩ := Option.bind_eq_some_iff.1 hfinal
  obtain ⟨⟨m', later⟩, hrest, hfinal⟩ := Option.map_eq_some_iff.1 hfinal
  simp only [Prod.mk.injEq] at hfinal
  obtain ⟨hraised, hother, hdecided, hrecorded⟩ := hfinal
  have run := (execution_of_play hplayed).interleaving
  have rest := (execution_of_play hrest).interleaving
  have completed : .raised ⟨1⟩ ∈ events := by
    simpa using (any_raises_iff events ⟨0⟩ ⟨1⟩).1 hraised
  obtain ⟨hflag, ⟨hbegun, -⟩, hothers⟩ :=
    stop_never_lost (by decide) run (.copy .self) completed rest
  refine ⟨events, m, later, m', run, completed, rest, (hflag _ .self).1, ?_, hrecorded,
    hbegun.trans hdecided⟩
  refine eq_false_of_ne_true fun hstopped => ?_
  have hraised := ((hothers ⟨0⟩ (by decide) (by decide)).1 hstopped).resolve_left (by decide)
  rw [(any_raises_iff _ _ _).2 (.inl hraised)] at hother
  cases hother

end Machine

end EchoProbe.Run
