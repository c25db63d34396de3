import EchoProbe.Proofs.Run.Ending

/-!
# Failures

A fatal error occurs in the sender, when a probe cannot be recorded or sent, or in the receiver,
when a read fails for good. Whoever meets one tells it, which stops the run. The error that is told
first is kept (`verdict?`), and the run returns it in the end: after both activities are gone, when
nobody is left to tell another.

Beside these, the death of an activity is told as a fatal error. Only a receiver that has died
itself, or a processor that has, gives rise to one (`Interleaving.panicked_of_death`). All other
errors that are told, or wait to be told (`untold`), are those that occurred
(`Interleaving.fatalErrors_perm`).

When the sender has left off sending and the receiver has ended, nobody is left to fail
(`LoopsOver`), so the result is settled: the run can go on to return it, and returns nothing else
(`BoundToReturn`).

* `Interleaving.verdict?_eq`: what is kept is the error that was told first;
* `Interleaving.boundToReturn`: what is left to a run after both loops;
* `first_failure_is_result`: what a run returns.
-/

namespace EchoProbe

namespace RunError

/-- Whether the error says that an activity died. -/
def isDeath : RunError → Bool
  | activityDied _ => true
  | _ => false

@[simp]
theorem isDeath_transport (e : TransportError) : (transport e).isDeath = false := rfl

@[simp]
theorem isDeath_ledger (e : LedgerError) : (ledger e).isDeath = false := rfl

@[simp]
theorem isDeath_activityDied (activity : String) : (activityDied activity).isDeath = true := rfl

end RunError

namespace Run

namespace Event

/-- The fatal error that was told. -/
def failure? : Event → Option RunError
  | failed e => some e
  | _ => none

/-- The fatal error that occurred: a probe was refused by the ledger or the transport, or a read
    failed for another reason than silence or an unreadable packet. -/
def fatalError? : Event → Option RunError
  | unrecorded e => some (.ledger e)
  | transmitted _ result =>
    match result.next with
    | .fatal e => some (.transport e)
    | _ => none
  | unread e => if e.isSilence || e.isUnreadable then none else some (.transport e)
  | _ => none

theorem isDeath_of_fatalError? {event : Event} {e : RunError} (h : event.fatalError? = some e) :
    e.isDeath = false := by
  unfold fatalError? at h
  split at h
  · cases h
    rfl
  · split at h <;> cases h
    rfl
  · split at h <;> cases h
    rfl
  · cases h

end Event

/-- The fatal errors that were told, the first one first. -/
def failures (events : List Event) : List RunError := events.filterMap Event.failure?

/-- The fatal errors that occurred. -/
def fatalErrors (events : List Event) : List RunError := events.filterMap Event.fatalError?

def Receiver.hasEnded : Receiver → Bool
  | ended => true
  | _ => false

theorem Receiver.eq_ended_of_hasEnded {r : Receiver} (h : r.hasEnded = true) : r = ended := by
  cases r with
  | ended => rfl
  | _ => cases h

/-- What a run returns in which these errors were told: the first one, or else ok. -/
def resultOf (events : List Event) : Except RunError Unit :=
  (failures events).head?.elim (.ok ()) .error

section Lists

variable (e : Event) (events seen : List Event) (log : List LogLine)

@[simp]
theorem failures_nil : failures [] = [] := rfl

@[simp]
theorem fatalErrors_nil : fatalErrors [] = [] := rfl

@[simp]
theorem failures_cons : failures (e :: seen) = e.failure?.toList ++ failures seen := by
  cases h : e.failure? <;> simp [failures, h]

@[simp]
theorem fatalErrors_cons : fatalErrors (e :: seen) = e.fatalError?.toList ++ fatalErrors seen := by
  cases h : e.fatalError? <;> simp [fatalErrors, h]

@[simp]
theorem failures_append : failures (events ++ seen) = failures events ++ failures seen :=
  List.filterMap_append

@[simp]
theorem fatalErrors_append :
    fatalErrors (events ++ seen) = fatalErrors events ++ fatalErrors seen :=
  List.filterMap_append

@[simp]
theorem failures_map_logged : failures (log.map .logged) = [] := by
  simp [failures, Event.failure?]

@[simp]
theorem fatalErrors_map_logged : fatalErrors (log.map .logged) = [] := by
  simp [fatalErrors, Event.fatalError?]

@[simp]
theorem failures_map_loggedAside : failures (log.map .loggedAside) = [] := by
  simp [failures, Event.failure?]

@[simp]
theorem fatalErrors_map_loggedAside : fatalErrors (log.map .loggedAside) = [] := by
  simp [fatalErrors, Event.fatalError?]

theorem mem_failures {e : RunError} : e ∈ failures events ↔ .failed e ∈ events := by
  rw [failures, List.mem_filterMap]
  constructor
  · rintro ⟨event, hevent, he⟩
    cases event <;> cases he
    exact hevent
  · exact fun he => ⟨_, he, rfl⟩

theorem resultOf_eq_ok_iff : resultOf events = .ok () ↔ failures events = [] := by
  rw [resultOf]
  cases failures events <;> simp

theorem resultOf_eq_error_iff {e : RunError} :
    resultOf events = .error e ↔ (failures events).head? = some e := by
  rw [resultOf]
  cases (failures events).head? <;> simp

/-- After the first error, others do not change the result. -/
theorem resultOf_append_of_error {e : RunError} (h : resultOf events = .error e) :
    resultOf (events ++ seen) = .error e := by
  rw [resultOf_eq_error_iff] at h ⊢
  rw [failures_append, List.head?_append, h]
  rfl

/-- Without further errors, the result does not change. -/
theorem resultOf_append_of_nil {seen : List Event} (h : failures seen = []) :
    resultOf (events ++ seen) = resultOf events := by
  rw [resultOf, failures_append, h, List.append_nil, resultOf]

/-- The errors that occurred are not about activities that died. -/
theorem filter_fatalErrors :
    (fatalErrors events).filter (!·.isDeath) = fatalErrors events := by
  refine List.filter_eq_self.2 fun e he => ?_
  obtain ⟨event, -, he⟩ := List.mem_filterMap.1 he
  rw [Event.isDeath_of_fatalError? he]
  rfl

end Lists

/-- The error that tells the death of the receiver. -/
def receiverDied : RunError := .activityDied "receiver"

/-- The error that tells the death of the processor. -/
def processorDied : RunError := .activityDied "processor"

/-- The error that the sender has met but not told yet. -/
def Sender.untold? : Sender → Option RunError
  | retracting _ e => some (.transport e)
  | failing e => some e
  | _ => none

/-- A sender that has left off sending has told what it met. -/
theorem Sender.untold?_of_hasQuit {s : Sender} (quit : s.hasQuit = true) : s.untold? = none := by
  cases s <;> first | rfl | cases quit

theorem Sender.lastTick?_of_hasQuit {s : Sender} (quit : s.hasQuit = true) :
    s.lastTick? = none := by
  cases s <;> first | rfl | cases quit

/-- The error that the receiver has met but not told yet. -/
def Receiver.untold? : Receiver → Option RunError
  | failing e => some e
  | _ => none

namespace Machine

variable {σ : Type} {R : Reporter σ} {m m' : Machine σ} {seen : List Event}

/-- The fatal errors that were met but not told yet. -/
def untold (m : Machine σ) : List RunError := m.sender.untold?.toList ++ m.receiver.untold?.toList

/-- When both loops are left, no error waits to be told. -/
theorem untold_eq_nil_of_hasQuit (quit : m.sender.hasQuit = true)
    (gone : m.receiver.isGone = true) : m.untold = [] := by
  rw [untold, Sender.untold?_of_hasQuit quit]
  cases hreceiver : m.receiver <;> rw [hreceiver] at gone <;> cases gone <;> rfl

/-! ## The first error -/

/-- The error that is kept for the end of the run, and after the end the error that was
    returned. -/
def verdict? (m : Machine σ) : Option RunError :=
  match m.sender with
  | .returned _ => m.sender.failure?
  | _ => m.fault

theorem verdict?_of_returned {result : Except RunError Unit} (h : m.sender = .returned result) :
    result = m.verdict?.elim (.ok ()) .error := by
  rcases result with e | _ <;> simp [verdict?, h, Sender.failure?]

theorem verdict?_of_running (h : ∀ result, m.sender ≠ .returned result) : m.verdict? = m.fault := by
  unfold verdict?
  split
  · exact absurd ‹_› (h _)
  · rfl

/-- The error is kept that is told first. -/
theorem verdict?_of_move (order : Orderly m) (attended : Attended m) (move : Move R m m' seen) :
    m'.verdict? = m.verdict?.or (failures seen).head? := by
  cases move with
  | clock now => simp [verdict?]
  | caller move =>
    cases move
    case enter host target idle => simp [verdict?, order.idle idle, Event.failure?]
    all_goals simp [verdict?, Event.failure?]
  | sender move =>
    cases move
    case «return» place result hresult =>
      subst hresult
      cases hfault : m.fault <;> simp [verdict?, place, hfault, Sender.failure?, Event.failure?]
    all_goals simp [*, verdict?, afterFailure, Event.failure?]
  | receiver move =>
    cases move
    case fail e place =>
      -- The sender waits for the receiver before it returns.
      have hrunning (result) : m.sender ≠ .returned result := fun hreturned => by
        have hgone := attended.joined (by rw [hreturned]; rfl)
        rw [place] at hgone
        cases hgone
      rw [verdict?_of_running hrunning]
      exact verdict?_of_running hrunning
    all_goals simp [verdict?, Event.failure?]
  | processor move => cases move <;> simp [verdict?, Event.failure?]

/-- Whoever tells an error is the sender, or a receiver that the sender has launched. -/
theorem sender_ne_absent_of_failure (attended : Attended m) (move : Move R m m' seen) {e : RunError}
    (h : .failed e ∈ seen) : m.sender ≠ .absent := by
  cases move with
  | clock now => cases h
  | caller move => cases move <;> simp at h
  | sender move => cases move <;> simp [*] at h ⊢
  | receiver move =>
    intro habsent
    have hreceiver := attended.unlaunched (by rw [habsent]; rfl)
    cases move <;> simp_all
  | processor move => cases move <;> simp at h

/-! ## Errors that are met and errors that are told -/

/-- The death of an activity is met: the sender mourns the receiver, or the receiver gives up a
    packet that the processor does not take. -/
def MeetsDeath (m m' : Machine σ) (e : RunError) : Prop :=
  e = receiverDied ∧ m.sender = .mourning ∨
  e = processorDied ∧ ∃ packet, m.receiver = .handing packet ∧ m'.receiver = .failing processorDied

theorem MeetsDeath.isDeath {e : RunError} (h : MeetsDeath m m' e) : e.isDeath = true := by
  rcases h with ⟨rfl, -⟩ | ⟨rfl, -⟩ <;> rfl

/-- The errors that are told in a move and those that wait afterwards are those that waited before,
    those that occur in the move, and the deaths that are met in it. -/
theorem failures_of_move (order : Orderly m) (attended : Attended m) (move : Move R m m' seen) :
    ∃ deaths, (failures seen ++ m'.untold).Perm (m.untold ++ (fatalErrors seen ++ deaths)) ∧
      ∀ e ∈ deaths, MeetsDeath m m' e := by
  cases move with
  | clock now => exact ⟨[], by simp [untold], List.forall_mem_nil _⟩
  | caller move =>
    refine ⟨[], ?_, List.forall_mem_nil _⟩
    cases move
    case enter host target idle =>
      simp [untold, order.idle idle, Sender.untold?, Event.failure?, Event.fatalError?]
    all_goals simp [untold, Event.failure?, Event.fatalError?]
  | sender move =>
    cases move
    case failForReceiver place =>
      refine ⟨[receiverDied], ?_, fun e he => .inl ⟨List.mem_singleton.1 he, place⟩⟩
      simpa [place, untold, afterFailure, Sender.untold?, Event.failure?, Event.fatalError?,
        receiverDied] using (List.perm_append_singleton receiverDied _).symm
    all_goals refine ⟨[], ?_, List.forall_mem_nil _⟩
    case launch place =>
      simp [untold, place, attended.unlaunched, Sender.hasLaunched, Sender.untold?,
        Receiver.untold?]
    case notRecord tick draws e place refused =>
      simpa [place, untold, Sender.untold?, Event.failure?, Event.fatalError?] using
        (List.perm_append_singleton _ _).symm
    case fatal tick request bytes attempt result e place fatal =>
      simpa [place, fatal, untold, Sender.untold?, Event.failure?, Event.fatalError?] using
        (List.perm_append_singleton _ _).symm
    all_goals simp [*, untold, afterFailure, Sender.untold?, Event.failure?, Event.fatalError?]
  | receiver move =>
    cases move
    case abandon packet place gone =>
      refine ⟨[processorDied], ?_, fun e he => .inr ⟨List.mem_singleton.1 he, packet, place, rfl⟩⟩
      simp [place, untold, Receiver.untold?, processorDied]
    all_goals refine ⟨[], ?_, List.forall_mem_nil _⟩
    case fail e place =>
      simpa [place, untold, afterFailure, Receiver.untold?, Event.failure?, Event.fatalError?] using
        (List.perm_append_singleton e _).symm
    all_goals simp [*, untold, Receiver.untold?, Event.failure?, Event.fatalError?]
  | processor move =>
    refine ⟨[], ?_, List.forall_mem_nil _⟩
    cases move <;> simp [untold, Event.failure?, Event.fatalError?]

/-- Apart from deaths, the errors that are told and that wait are those that waited and that
    occur. -/
theorem fatalErrors_of_move (order : Orderly m) (attended : Attended m) (move : Move R m m' seen) :
    ((failures seen ++ m'.untold).filter (!·.isDeath)).Perm
      (m.untold.filter (!·.isDeath) ++ fatalErrors seen) := by
  obtain ⟨deaths, hperm, hmeets⟩ := failures_of_move order attended move
  have hdeaths : deaths.filter (!·.isDeath) = [] :=
    List.filter_eq_nil_iff.2 fun e he => by simp [(hmeets e he).isDeath]
  have hkept : (m.untold ++ (fatalErrors seen ++ deaths)).filter (!·.isDeath) =
      m.untold.filter (!·.isDeath) ++ fatalErrors seen := by
    rw [List.filter_append, List.filter_append, filter_fatalErrors, hdeaths, List.append_nil]
  exact hkept ▸ hperm.filter (!·.isDeath)

/-- An error that waits is told in a move, or goes on waiting. -/
theorem mem_of_mem_untold (order : Orderly m) (attended : Attended m) (move : Move R m m' seen)
    {e : RunError} (h : e ∈ m.untold) : e ∈ failures seen ++ m'.untold := by
  obtain ⟨deaths, hperm, -⟩ := failures_of_move order attended move
  exact hperm.mem_iff.2 (List.mem_append_left _ h)

/-- A death is told, or will be, because it was met before or in the move. -/
theorem death_of_move (order : Orderly m) (attended : Attended m) (move : Move R m m' seen)
    {activity : String} (h : .activityDied activity ∈ failures seen ++ m'.untold) :
    .activityDied activity ∈ m.untold ∨ MeetsDeath m m' (.activityDied activity) := by
  obtain ⟨deaths, hperm, hmeets⟩ := failures_of_move order attended move
  rcases List.mem_append.1 (hperm.mem_iff.1 h) with h | h
  · exact .inl h
  rcases List.mem_append.1 h with h | h
  · -- An error that occurs is not about a death.
    obtain ⟨event, -, hevent⟩ := List.mem_filterMap.1 h
    cases Event.isDeath_of_fatalError? hevent
  · exact .inr (hmeets _ h)

/-! ## Deaths -/

/-- The activity of that name has died. -/
def HasDied (m : Machine σ) (activity : String) : Prop :=
  activity = "receiver" ∧ m.receiver = .panicked ∨ activity = "processor" ∧ m.processor = .panicked

/-- A receiver that has died stays so. -/
theorem receiver_panicked_of_move (attended : Attended m) (move : Move R m m' seen)
    (h : m.receiver = .panicked) : m'.receiver = .panicked := by
  cases move with
  | clock now => exact h
  | caller move => cases move <;> exact h
  | sender move =>
    cases move
    case launch place =>
      -- Before the launch there is no receiver.
      rw [attended.unlaunched (by rw [place]; rfl)] at h
      cases h
    all_goals exact h
  | receiver move => cases move <;> simp_all
  | processor move => cases move <;> exact h

theorem HasDied.of_move {activity : String} (order : Orderly m) (attended : Attended m)
    (move : Move R m m' seen) (h : m.HasDied activity) : m'.HasDied activity :=
  h.imp (fun h => ⟨h.1, receiver_panicked_of_move attended move h.2⟩)
    fun h => ⟨h.1, panicked_of_move order move h.2⟩

/-- The sender mourns only a receiver that has died. -/
theorem mourning_of_move (attended : Attended m)
    (mourning : m.sender = .mourning → m.receiver = .panicked) (move : Move R m m' seen)
    (h : m'.sender = .mourning) : m'.receiver = .panicked := by
  refine receiver_panicked_of_move attended move ?_
  cases move with
  | clock now => exact mourning h
  | caller move =>
    cases move
    case enter => cases h
    all_goals exact mourning h
  | sender move =>
    cases move
    case mourn place gone => exact gone
    all_goals cases h
  | receiver move => cases move <;> exact mourning h
  | processor move => cases move <;> exact mourning h

/-- Only an activity that has died is told to have died, or will be. -/
theorem hasDied_of_move {activity : String} (order : Orderly m) (attended : Attended m)
    (mourning : m.sender = .mourning → m.receiver = .panicked) (move : Move R m m' seen)
    (h : .activityDied activity ∈ failures seen ++ m'.untold) :
    .activityDied activity ∈ m.untold ∨ m.HasDied activity := by
  refine (death_of_move order attended move h).imp_right ?_
  rintro (⟨hactivity, place⟩ | ⟨hactivity, packet, place, hfailing⟩)
  · exact .inl ⟨RunError.activityDied.inj hactivity, mourning place⟩
  · exact .inr ⟨RunError.activityDied.inj hactivity,
      panicked_of_givenUp attended order move place hfailing⟩

/-! ## After both loops -/

/-- Both loops have ended: the sender has left off sending, and the receiver has ended by itself, so
    that nobody mourns it. -/
structure LoopsOver (m : Machine σ) : Prop where
  quit : m.sender.hasQuit = true
  ended : m.receiver = .ended
  unmourned : m.sender ≠ .mourning

namespace LoopsOver

/-- The loops are not begun again, and nobody else tells an error. -/
theorem of_move (h : LoopsOver m) (order : Orderly m) (move : Move R m m' seen) :
    LoopsOver m' ∧ failures seen = [] := by
  have hquit := h.quit
  have hended := h.ended
  cases move with
  | clock now => exact ⟨{ h with }, rfl⟩
  | caller move =>
    cases move
    case enter host target idle =>
      -- An idle pinger has no sender yet.
      rw [order.idle idle] at hquit
      cases hquit
    all_goals exact ⟨{ h with }, by simp [Event.failure?]⟩
  | sender move =>
    have hunmourned := h.unmourned
    cases move
    case leave | haltReceiver | joinReceiver | haltProcessor | joinProcessor | joinDeadProcessor
        | close | «return» =>
      exact ⟨⟨rfl, hended, by simp⟩, by simp [Event.failure?]⟩
    case mourn place gone =>
      rw [hended] at gone
      cases gone
    case failForReceiver place => exact absurd place hunmourned
    -- All others are moves of a sender that is still sending.
    all_goals simp [*, Sender.hasQuit] at hquit
  | receiver move => cases move <;> simp [*] at hended
  | processor move => cases move <;> exact ⟨{ h with }, by simp [Event.failure?]⟩

theorem of_interleaving {later : List Event} (h : LoopsOver m) (order : Orderly m)
    (rest : Interleaving R m later m') : LoopsOver m' ∧ failures later = [] := by
  have hall : (Orderly m' ∧ LoopsOver m') ∧ failures later = [] := by
    refine rest.invariant (P := fun later m => (Orderly m ∧ LoopsOver m) ∧ failures later = [])
      ⟨⟨order, h⟩, rfl⟩ ?_
    rintro later m m' seen ⟨⟨order, h⟩, hnone⟩ move
    obtain ⟨hover, hseen⟩ := h.of_move order move
    exact ⟨⟨order.of_move move, hover⟩, by rw [failures_append, hnone, hseen, List.append_nil]⟩
  exact ⟨hall.1.2, hall.2⟩

/-- No more ticks are looked for after the loops. -/
theorem inTime (h : LoopsOver m) : InTime m where
  alive hstranded := by
    have hquit := h.quit
    rw [hstranded] at hquit
    cases hquit
  found tick htick := by
    rw [Sender.lastTick?_of_hasQuit h.quit] at htick
    cases htick

end LoopsOver

/-- However the run goes on, it can be brought to return the result from wherever it is then, or
    else to strand a sender that was not in time; and it returns nothing but the result. -/
def BoundToReturn (R : Reporter σ) (m : Machine σ) (result : Except RunError Unit) : Prop :=
  ∀ later m', Interleaving R m later m' →
    (∃ last m'', Execution R m' last m'' ∧
      (m''.sender = .returned result ∨ m''.sender = .stranded ∧ ¬ InTime m')) ∧
    ∀ other, m'.sender = .returned other → other = result

section Interleaving

variable {settings : Settings} {filler : Wire.Filler} {reporter : σ} {flags : Flags}
  {handle : Handle} {clock : Instant} {events : List Event}

/-- What is kept is the error that was told first. -/
theorem Interleaving.verdict?_eq
    (run : Interleaving R (init settings filler reporter flags handle clock) events m) :
    m.verdict? = (failures events).head? := by
  refine (run.invariant_of_attended
    (P := fun events m => m.verdict? = (failures events).head?) rfl ?_).2
  intro events m m' seen order attended hverdict move
  rw [verdict?_of_move order attended move, hverdict, failures_append, List.head?_append]

/-- Apart from deaths, the errors that were told and those that wait are the errors that
    occurred. -/
theorem Interleaving.fatalErrors_perm
    (run : Interleaving R (init settings filler reporter flags handle clock) events m) :
    ((failures events ++ m.untold).filter (!·.isDeath)).Perm (fatalErrors events) := by
  refine (run.invariant_of_attended (P := fun events m =>
    ((failures events ++ m.untold).filter (!·.isDeath)).Perm (fatalErrors events)) .rfl ?_).2
  intro events m m' seen order attended hperm move
  rw [List.filter_append] at hperm
  rw [failures_append, fatalErrors_append, List.append_assoc, List.filter_append]
  refine ((fatalErrors_of_move order attended move).append_left _).trans ?_
  rw [← List.append_assoc]
  exact hperm.append_right _

/-- Only an activity that has died is told to have died. -/
theorem Interleaving.hasDied_of_mem
    (run : Interleaving R (init settings filler reporter flags handle clock) events m)
    {activity : String} (h : .activityDied activity ∈ failures events ++ m.untold) :
    m.HasDied activity := by
  refine (run.invariant_of_attended (P := fun events m =>
    (m.sender = .mourning → m.receiver = .panicked) ∧
      ∀ activity, .activityDied activity ∈ failures events ++ m.untold → m.HasDied activity)
    ⟨nofun, nofun⟩ ?_).2.2 activity h
  rintro events m m' seen order attended ⟨mourning, hdied⟩ move
  refine ⟨mourning_of_move attended mourning move, fun activity h => ?_⟩
  rw [failures_append, List.append_assoc, List.mem_append] at h
  refine HasDied.of_move order attended move ?_
  rcases h with h | h
  · exact hdied activity (List.mem_append_left _ h)
  · exact (hasDied_of_move order attended mourning move h).elim
      (fun h => hdied activity (List.mem_append_right _ h)) id

/-- Without deaths, the errors that were told and those that wait are the errors that occurred. -/
theorem Interleaving.failures_perm
    (run : Interleaving R (init settings filler reporter flags handle clock) events m)
    (receiverAlive : m.receiver ≠ .panicked) (processorAlive : m.processor ≠ .panicked) :
    (failures events ++ m.untold).Perm (fatalErrors events) := by
  have hnone : ∀ e ∈ failures events ++ m.untold, (!e.isDeath) = true := fun e he => by
    cases e with
    | activityDied activity =>
      rcases run.hasDied_of_mem he with ⟨-, hdied⟩ | ⟨-, hdied⟩
      · exact absurd hdied receiverAlive
      · exact absurd hdied processorAlive
    | _ => rfl
  have hperm := run.fatalErrors_perm
  rwa [List.filter_eq_self.2 hnone] at hperm

/-- When the run has returned, no error waits to be told. -/
theorem Interleaving.untold_eq_nil
    (run : Interleaving R (init settings filler reporter flags handle clock) events m)
    {result : Except RunError Unit} (hreturned : m.sender = .returned result) :
    m.untold = [] :=
  untold_eq_nil_of_hasQuit (by rw [hreturned]; rfl) (run.attended.joined (by rw [hreturned]; rfl))

/-- The run returns the error that was told first, if any. -/
theorem Interleaving.result_eq
    (run : Interleaving R (init settings filler reporter flags handle clock) events m)
    {result : Except RunError Unit} (hreturned : m.sender = .returned result) :
    result = resultOf events := by
  rw [verdict?_of_returned hreturned, run.verdict?_eq, resultOf]

theorem Interleaving.sender_ne_absent_of_failed
    (run : Interleaving R (init settings filler reporter flags handle clock) events m)
    {e : RunError} (h : .failed e ∈ events) : m.sender ≠ .absent := by
  refine (run.invariant_of_attended
    (P := fun events m => .failed e ∈ events → m.sender ≠ .absent) nofun ?_).2 h
  intro events m m' seen order attended hthere move h
  refine sender_ne_absent_of_move move ?_
  rcases List.mem_append.1 h with h | h
  · exact hthere h
  · exact sender_ne_absent_of_failure attended move h

/-- A sender that mourns the receiver has seen it dead. -/
theorem Interleaving.panicked_of_mourning
    (run : Interleaving R (init settings filler reporter flags handle clock) events m)
    (mourning : m.sender = .mourning) : m.receiver = .panicked := by
  refine (run.invariant_of_attended
    (P := fun _ m => m.sender = .mourning → m.receiver = .panicked) nofun ?_).2 mourning
  intro events m m' seen order attended hmourning move
  exact mourning_of_move attended hmourning move

theorem Interleaving.loopsOver
    (run : Interleaving R (init settings filler reporter flags handle clock) events m)
    (quit : m.sender.hasQuit = true) (ended : m.receiver = .ended) : LoopsOver m where
  quit
  ended
  unmourned mourning := by
    rw [run.panicked_of_mourning mourning] at ended
    cases ended

/-- A run that is stopped can go on to return what it has to, unless its sender was not in time. -/
theorem Interleaving.exists_return
    (run : Interleaving R (init settings filler reporter flags handle clock) events m)
    (stopped : m.isStopped = true) (there : m.sender ≠ .absent) :
    ∃ later m', Execution R m later m' ∧
      (m'.sender = .returned (resultOf (events ++ later)) ∨
        m'.sender = .stranded ∧ ¬ InTime m) := by
  obtain ⟨later, m', rest, hover, htime⟩ := run.exists_end stopped there
  refine ⟨later, m', rest, ?_⟩
  cases hsender : m'.sender <;> rw [hsender] at hover <;> cases hover
  · exact .inl (congrArg _ ((run.append rest.interleaving).result_eq hsender))
  · exact .inr ⟨rfl, fun h => (htime h).alive hsender⟩

/-- A run that is stopped is bound to return what will be its result, whatever comes later. -/
theorem Interleaving.boundToReturn
    (run : Interleaving R (init settings filler reporter flags handle clock) events m)
    (stopped : m.isStopped = true) (there : m.sender ≠ .absent) {result : Except RunError Unit}
    (settled : ∀ later m', Interleaving R m later m' → resultOf (events ++ later) = result) :
    BoundToReturn R m result := by
  intro later m' rest
  have hwhole := run.append rest
  have hthere : m'.sender ≠ .absent := by
    refine rest.invariant (P := fun _ m => m.sender ≠ .absent) there ?_
    exact fun _ _ _ _ hthere move => sender_ne_absent_of_move move hthere
  refine ⟨?_, fun other hreturned => ?_⟩
  · obtain ⟨last, m'', hlast, hend⟩ :=
      hwhole.exists_return (rest.isStopped_of_isStopped stopped) hthere
    rw [List.append_assoc, settled _ _ (rest.append hlast.interleaving)] at hend
    exact ⟨last, m'', hlast, hend⟩
  · rw [hwhole.result_eq hreturned, settled _ _ rest]

/-- However a run interleaves, and whatever the transport answers, as long as neither receiver nor
    processor dies: the fatal errors that occurred are those that were told and those that wait to
    be told. When the run has returned, none waits; it has returned ok exactly if no fatal error
    occurred, and otherwise the error that was told first.

    As soon as an error was told, the run is bound to return that one, whatever comes after it; it
    is stopped for good, and no probe is begun but one that the sender had decided on before it
    looked at the flag again. A run that is stopped, be it without an error, can go on to return
    the error that is then the first one, or ok if there is none, unless the clock ends before the
    next tick. As soon as both loops have ended, the result is settled: the run is bound to return
    ok if no fatal error occurred until then, and otherwise the error that was told first. -/
theorem first_failure_is_result (has : flags.Has handle)
    (run : Interleaving R (init settings filler reporter flags handle clock) events m)
    (receiverAlive : m.receiver ≠ .panicked) (processorAlive : m.processor ≠ .panicked) :
    (failures events ++ m.untold).Perm (fatalErrors events) ∧
    (∀ result, m.sender = .returned result →
      (failures events).Perm (fatalErrors events) ∧
      (result = .ok () ↔ fatalErrors events = []) ∧
      ∀ e, result = .error e ↔ (failures events).head? = some e) ∧
    (∀ e, (failures events).head? = some e →
      BoundToReturn R m (.error e) ∧
      ∀ later m', Interleaving R m later m' →
        m'.isStopped = true ∧
        begun later + m'.sender.decided = m.sender.decided ∧
        ((∀ tick, m.sender ≠ .recording tick) → begun later = 0)) ∧
    (m.isStopped = true → m.sender ≠ .absent → ∃ later m', Execution R m later m' ∧
      (m'.sender = .returned (resultOf (events ++ later)) ∨
        m'.sender = .stranded ∧ ¬ InTime m)) ∧
    (m.sender.hasQuit = true → m.receiver = .ended →
      (resultOf events = .ok () ↔ fatalErrors events = []) ∧
      BoundToReturn R m (resultOf events) ∧
      ∀ later m', Interleaving R m later m' → InTime m') := by
  have hperm := run.failures_perm receiverAlive processorAlive
  have hok (hnone : m.untold = []) : failures events = [] ↔ fatalErrors events = [] := by
    rw [hnone, List.append_nil] at hperm
    exact ⟨fun h => (h ▸ hperm).nil_eq.symm, fun h => (h ▸ hperm).eq_nil⟩
  refine ⟨hperm, ?_, ?_, run.exists_return, ?_⟩
  · intro result hreturned
    have hnone := run.untold_eq_nil hreturned
    rw [hnone, List.append_nil] at hperm
    rw [run.result_eq hreturned]
    exact ⟨hperm, (resultOf_eq_ok_iff events).trans (hok hnone),
      fun e => resultOf_eq_error_iff events⟩
  · intro e hfirst
    have hfailed : .failed e ∈ events := (mem_failures events).1 (List.mem_of_head? hfirst)
    obtain ⟨⟨hhandle, -⟩, hiff⟩ := run.isStopped_iff has
    have stopped : m.isStopped = true := by
      rw [isStopped, hhandle]
      exact hiff.2 (.inr ((any_raises_iff events handle handle).2 (.inr ⟨rfl, e, hfailed⟩)))
    refine ⟨?_, fun later m' rest => ?_⟩
    · refine run.boundToReturn stopped (run.sender_ne_absent_of_failed hfailed) ?_
      intro later m' rest
      exact resultOf_append_of_error events later ((resultOf_eq_error_iff events).2 hfirst)
    · have hbegun := rest.begun_of_isStopped run.orderly stopped
      refine ⟨rest.isStopped_of_isStopped stopped, hbegun, fun looked => ?_⟩
      have := Sender.decided_eq_zero looked
      omega
  · intro quit ended
    have hover := run.loopsOver quit ended
    have hnone := untold_eq_nil_of_hasQuit quit (by rw [ended]; rfl)
    refine ⟨(resultOf_eq_ok_iff events).trans (hok hnone), ?_, fun later m' rest => ?_⟩
    · refine run.boundToReturn (run.isStopped_of_hasQuit has quit) ?_ fun later m' rest => ?_
      · intro habsent
        rw [habsent] at quit
        cases quit
      · exact resultOf_append_of_nil events (hover.of_interleaving run.orderly rest).2
    · exact (hover.of_interleaving run.orderly rest).1.inTime

end Interleaving

/-- A read fails for good while a probe is being sent; then that send fails as well, and later the
    run is stopped. -/
def twoFailures : List Action :=
  let target : IPv4 := ⟨10, 0, 0, 1⟩
  let sendTime : WallTime := ⟨1720, by decide, by decide⟩
  let buffer : Bytes := List.replicate 512 0
  let reset : ReadResult := .returned (.error (.plain .connectionReset)) buffer
  [.caller (.ping "10.0.0.1" target), .sender (.start .zero), .sender (.launch .zero),
    .sender .look, .sender (.record sendTime .zero [⟨6⟩]), .receiver .poll,
    .receiver (.read reset .zero sendTime),
    .sender (.attempt (.error (.plain .permissionDenied))), .receiver .fail, .sender .retract,
    .sender .fail, .caller (.raise ⟨0⟩), .sender .leave, .sender .haltReceiver,
    .sender .joinReceiver, .processor (.start .zero), .sender .haltProcessor, .processor .turn,
    .processor .drain, .sender .joinProcessor, .sender .close, .sender .return]

/-- Nothing arrives, a probe is sent, and the run is stopped until both loops have ended. -/
def quietLoops : List Action :=
  let target : IPv4 := ⟨10, 0, 0, 1⟩
  let sendTime : WallTime := ⟨1730, by decide, by decide⟩
  let silence : ReadResult :=
    .returned (.error (.plain .wouldBlock)) (List.replicate bufferSize 0)
  [.caller (.ping "10.0.0.1" target), .sender (.start .zero), .sender (.launch .zero),
    .receiver .poll, .sender .look, .sender (.record sendTime .zero [⟨6⟩]),
    .sender (.attempt (.ok ())), .receiver (.read silence .zero sendTime), .caller (.raise ⟨0⟩),
    .sender (.tick .zero), .sender (.wake .zero), .sender .leave, .sender .haltReceiver,
    .receiver .poll]

/-- Of two errors, the one of the receiver is told first, and the run returns that one. A run
    without errors has both loops behind it, and can go on to return ok. -/
theorem first_failure_is_result_twoRuns :
    (∃ events m, Interleaving .silent (fresh ()) events m ∧
      m.receiver ≠ .panicked ∧ m.processor ≠ .panicked ∧
      m.sender = .returned (.error (.transport (.plain .connectionReset))) ∧
      (fatalErrors events).Perm
        [.transport (.plain .permissionDenied), .transport (.plain .connectionReset)] ∧
      (failures events).head? = some (.transport (.plain .connectionReset)) ∧
      m.isStopped = true) ∧
    ∃ events m, Interleaving .silent (fresh ()) events m ∧
      m.receiver = .ended ∧ m.processor ≠ .panicked ∧ m.sender.hasQuit = true ∧
      fatalErrors events = [] ∧
      ∃ later m', Execution .silent m later m' ∧ m'.sender = .returned (.ok ()) := by
  constructor
  · have hfinal : ((fresh ()).play .silent twoFailures).map (fun n =>
        (n.1.processor.hasDrained, n.1.receiver.hasEnded, n.1.sender.failure?, failures n.2)) =
        some (true, true, some (.transport (.plain .connectionReset)),
          [.transport (.plain .connectionReset), .transport (.plain .permissionDenied)]) := by
      decide +kernel
    obtain ⟨⟨m, events⟩, hplayed, hfinal⟩ := Option.map_eq_some_iff.1 hfinal
    simp only [Prod.mk.injEq] at hfinal
    obtain ⟨hdrained, hended, hfailure, hfailures⟩ := hfinal
    have run := (execution_of_play hplayed).interleaving
    have ended := Receiver.eq_ended_of_hasEnded hended
    have receiverAlive : m.receiver ≠ .panicked := by simp [ended]
    have processorAlive : m.processor ≠ .panicked := fun hpanicked => by
      rw [hpanicked] at hdrained
      cases hdrained
    have hreturned := Sender.returned_of_failure? hfailure
    obtain ⟨-, hreturn, hafter, -⟩ :=
      first_failure_is_result (by decide) run receiverAlive processorAlive
    obtain ⟨hperm, -, hfirst⟩ := hreturn _ hreturned
    have hfirst := (hfirst _).1 rfl
    refine ⟨events, m, run, receiverAlive, processorAlive, hreturned, ?_, hfirst,
      ((hafter _ hfirst).2 [] m .refl).1⟩
    rw [hfailures] at hperm
    exact hperm.symm.trans (.swap _ _ _)
  · have hfinal : ((fresh ()).play .silent quietLoops).map (fun n =>
        (n.1.processor.isGone, n.1.receiver.hasEnded, n.1.sender.hasQuit, fatalErrors n.2)) =
        some (false, true, true, []) := by
      decide +kernel
    obtain ⟨⟨m, events⟩, hplayed, hfinal⟩ := Option.map_eq_some_iff.1 hfinal
    simp only [Prod.mk.injEq] at hfinal
    obtain ⟨hbusy, hended, hquit, hnone⟩ := hfinal
    have run := (execution_of_play hplayed).interleaving
    have ended := Receiver.eq_ended_of_hasEnded hended
    have processorAlive : m.processor ≠ .panicked := fun hpanicked => by
      rw [hpanicked] at hbusy
      cases hbusy
    obtain ⟨-, -, -, -, hover⟩ :=
      first_failure_is_result (by decide) run (by simp [ended]) processorAlive
    obtain ⟨hok, hbound, htime⟩ := hover hquit ended
    rw [hok.2 hnone] at hbound
    obtain ⟨later, m', rest, hend⟩ := (hbound [] m .refl).1
    refine ⟨events, m, run, ended, processorAlive, hquit, hnone, later, m', rest, ?_⟩
    exact hend.resolve_right fun hstranded => hstranded.2 (htime [] m .refl)

end Machine

end Run

end EchoProbe
