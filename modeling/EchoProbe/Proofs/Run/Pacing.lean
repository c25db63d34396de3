import EchoProbe.Proofs.Run.Order
import EchoProbe.Proofs.Run.Ticks

/-!
# The pace of a run

The sender sends a probe at a tick, and then waits for the next tick that is still to come. However
long it takes to send a probe, the ticks that pass meanwhile are skipped. So no two probes are begun
in the same slot: the tick that the sender waited for lies between them.

A probe is begun, somewhere, between two readings of the clock by the sender (`Call`): the latest
one before, and the one with which the probe is recorded. The `Pace` of a run, with the calls made
so far, is read off the actions.

* `PaceMove`: how an action moves the sender between one tick and the next;
* `OnPace`: the calls so far are apart from each other and, once the sender waits for a tick, from
  that tick. Every action keeps this (`OnPace.of_paceMove`);
* `Schedule.onPace`: so it holds throughout every run in which the sender's clock does not go back;
* `ticks_skipped_not_made_up`: what that says of the loop and of the calls.
-/

namespace EchoProbe.Run

/-! ## Readings and calls -/

/-- The reading of the monotonic clock that the sender makes. -/
def Action.senderReading? : Action → Option Instant
  | sender a => (Action.sender a).reading?
  | _ => none

/-- Whether the sender begins to send a probe. -/
def Action.beginsProbe : Action → Bool
  | sender (.record _ _ _) => true
  | _ => false

/-- The sender's readings of the monotonic clock. -/
def senderReadings (actions : List Action) : List Instant :=
  actions.filterMap Action.senderReading?

/-- When a probe was begun: not before the one reading and not after the other. -/
structure Call where
  notBefore : Instant
  notAfter : Instant

/-- The probe may have been begun at `t`. -/
structure Call.Spans (c : Call) (t : Instant) : Prop where
  notBefore : c.notBefore ≤ t
  notAfter : t ≤ c.notAfter

/-- When the ticks started, when the sender last read the clock, and the probes begun so far. -/
structure Pace where
  start : Instant
  last : Instant
  calls : List Call

namespace Pace

/-- The pace after an action; none before the sender has started the ticks. -/
def after (pace? : Option Pace) : Action → Option Pace
  | .sender (.launch now) => some ⟨now, now, []⟩
  | .sender (.record _ now _) =>
    pace?.map fun p => { p with last := now, calls := p.calls ++ [⟨p.last, now⟩] }
  | .sender (.tick now) | .sender (.wake now) => pace?.map fun p => { p with last := now }
  | _ => pace?

end Pace

/-- The pace of a run with these actions. -/
def pace? (actions : List Action) : Option Pace := actions.foldl Pace.after none

theorem pace?_concat (actions : List Action) (a : Action) :
    pace? (actions ++ [a]) = Pace.after (pace? actions) a :=
  List.foldl_append

theorem filterMap_concat {α β : Type} (f : α → Option β) (l : List α) (a : α) :
    (l ++ [a]).filterMap f = l.filterMap f ++ (f a).toList := by
  rw [List.filterMap_append, List.filterMap_cons]
  cases f a <;> rfl

theorem senderReadings_concat (actions : List Action) (a : Action) :
    senderReadings (actions ++ [a]) = senderReadings actions ++ a.senderReading?.toList :=
  filterMap_concat _ _ _

theorem countP_beginsProbe_concat (actions : List Action) (a : Action) :
    (actions ++ [a]).countP Action.beginsProbe =
      actions.countP Action.beginsProbe + if a.beginsProbe then 1 else 0 := by
  rw [List.countP_append, List.countP_singleton]

namespace Pace

variable {a : Action}

/-- Who begins to send a probe reads the clock. -/
theorem beginsProbe_eq_false (unread : a.senderReading? = none) : a.beginsProbe = false := by
  cases a with
  | sender a => cases a <;> first | rfl | cases unread
  | _ => rfl

theorem after_of_unread (unread : a.senderReading? = none) (p? : Option Pace) :
    after p? a = p? := by
  cases a with
  | sender a => cases a <;> first | rfl | cases unread
  | _ => rfl

/-- Once the ticks have started, an action that begins a probe makes a call. -/
theorem exists_after (p : Pace) (launched : ∀ now, a ≠ .sender (.launch now)) :
    ∃ p', after (some p) a = some p' ∧ p'.start = p.start ∧
      p'.calls.length = p.calls.length + (if a.beginsProbe then 1 else 0) ∧
      (p'.last = p.last ∨ a.senderReading? = some p'.last) := by
  cases a with
  | sender a =>
    cases a with
    | launch now => exact absurd rfl (launched now)
    | record sendTime now draws => exact ⟨_, rfl, rfl, List.length_append, .inr rfl⟩
    | tick now | wake now => exact ⟨_, rfl, rfl, rfl, .inr rfl⟩
    | _ => exact ⟨p, rfl, rfl, rfl, .inl rfl⟩
  | _ => exact ⟨p, rfl, rfl, rfl, .inl rfl⟩

end Pace

/-! ## Between two ticks -/

/-- Where the sender is between one tick and the next. -/
inductive Turn
  /-- There are no ticks yet. -/
  | before
  /-- The tick has come, and its probe is not begun. -/
  | due (tick : Instant)
  /-- The probe of the tick is begun. -/
  | begun (tick : Instant)
  /-- The tick is still to come. -/
  | ahead (tick : Instant)
  /-- No other tick is waited for. -/
  | past
  deriving DecidableEq

def Sender.turn : Sender → Turn
  | absent | entered | launching => .before
  | looking tick | recording tick => .due tick
  | attempting tick _ _ _ | ticking tick => .begun tick
  | waiting tick => .ahead tick
  | _ => .past

/-- The tick after which the sender looks for the next. -/
def Sender.tick? : Sender → Option Instant
  | ticking tick => some tick
  | _ => none

theorem Sender.eq_ticking_of_tick? {s : Sender} {tick : Instant} (h : s.tick? = some tick) :
    s = ticking tick := by
  cases s with
  | ticking t => rw [Option.some.inj h]
  | _ => cases h

/-- How an action moves the sender between one tick and the next. -/
inductive PaceMove (interval : Duration) : Action → Turn → Turn → Prop
  | stay {a : Action} {t : Turn} (unread : a.senderReading? = none) : PaceMove interval a t t
  | quit {a : Action} {t : Turn} (unread : a.senderReading? = none) (there : t ≠ .before) :
    PaceMove interval a t .past
  | start {now : Instant} : PaceMove interval (.sender (.start now)) .before .before
  | launch {now : Instant} : PaceMove interval (.sender (.launch now)) .before (.due now)
  | record {sendTime : WallTime} {now : Instant} {draws : List Identifier} {tick : Instant} :
    PaceMove interval (.sender (.record sendTime now draws)) (.due tick) (.begun tick)
  | notRecord {sendTime : WallTime} {now : Instant} {draws : List Identifier} {tick : Instant} :
    PaceMove interval (.sender (.record sendTime now draws)) (.due tick) .past
  | skip {tick now next : Instant} (found : catchUp interval tick now = some next) :
    PaceMove interval (.sender (.tick now)) (.begun tick) (.ahead next)
  | strand {tick now : Instant} : PaceMove interval (.sender (.tick now)) (.begun tick) .past
  | wake {tick now : Instant} (come : tick ≤ now) :
    PaceMove interval (.sender (.wake now)) (.ahead tick) (.due tick)
  | stop {tick now : Instant} : PaceMove interval (.sender (.wake now)) (.ahead tick) .past

/-- The ticks start once. -/
theorem PaceMove.ne_launch {interval : Duration} {a : Action} {t t' : Turn}
    (move : PaceMove interval a t t') (there : t ≠ .before) (now : Instant) :
    a ≠ .sender (.launch now) := by
  rintro rfl
  cases move <;> first | exact there rfl | contradiction

namespace Machine

variable {σ : Type} {R : Reporter σ} {m m' : Machine σ} {events seen : List Event}
  {actions : List Action} {a : Action}

theorem turn_afterAttempt {tick : Instant} {request : Request} {bytes : Bytes} {attempt : Nat}
    (m : Machine σ) (result : SendResult) :
    (m.afterAttempt tick request bytes attempt result).1.sender.turn = .begun tick ∨
      (m.afterAttempt tick request bytes attempt result).1.sender.turn = .past := by
  unfold afterAttempt
  split
  · split <;> exact .inl rfl
  · exact .inr rfl
  · dsimp only
    split <;> exact .inl rfl

theorem paceMove_of_sender {a : SenderAction} (taken : m.stepSender R a = some (m', seen)) :
    PaceMove m.settings.interval (.sender a) m.sender.turn m'.sender.turn := by
  unfold stepSender at taken
  split at taken <;> rename_i place <;> first | rw [place] | cases taken
  · cases taken
    exact .start
  · cases taken
    exact .launch
  · -- It looks whether the run is stopped.
    split at taken
    · cases taken
      exact .quit rfl nofun
    · cases taken
      exact .stay rfl
  · -- It records a probe.
    split at taken
    · cases taken
      exact .notRecord
    · cases taken
    · cases taken
      exact .record
  · -- Whatever the answer, it goes on with the same tick or takes the probe back.
    have hm : m' = (m.afterAttempt _ _ _ _ _).1 := (congrArg Prod.fst (Option.some.inj taken)).symm
    rw [hm]
    rcases turn_afterAttempt m _ with h | h <;> rw [h]
    · exact .stay rfl
    · exact .quit rfl nofun
  · cases taken
    exact .stay rfl
  · cases taken
    exact .stay rfl
  · -- It looks for the next tick.
    split at taken
    · cases taken
      exact .skip ‹_›
    · cases taken
      exact .strand
  · -- It wakes up.
    split at taken
    · cases taken
    · cases taken
      exact .stop
    · cases taken
      exact .wake (Flags.le_of_waitUntil ‹_›)
  all_goals
    first
    | cases taken
      exact .stay rfl
    | split at taken <;> cases taken <;> exact .stay rfl

theorem paceMove_of_step (order : Orderly m) (taken : m.stepAnytime R a = some (m', seen)) :
    PaceMove m.settings.interval a m.sender.turn m'.sender.turn := by
  obtain ⟨now, taken, reading⟩ := stepAt_of_stepAnytime taken
  cases a with
  | caller a =>
    have move : CallerMove _ m' seen := callerMove_of_step taken
    cases move with
    | enter host target idle =>
      -- Before the run there is no sender.
      rw [order.idle idle]
      exact .stay rfl
    | _ => exact .stay rfl
  | sender a => exact paceMove_of_sender (m := { m with clock := now }) taken
  | receiver a =>
    have move : ReceiverMove _ m' seen := receiverMove_of_step taken reading
    cases move <;> exact .stay rfl
  | processor a =>
    have move : ProcessorMove R _ m' seen := processorMove_of_step taken reading
    cases move <;> exact .stay rfl

/-! ## The pace is kept -/

end Machine

/-- A tick lies between the calls. -/
def Apart (start : Instant) (interval : Duration) (c d : Call) : Prop :=
  ∃ tick, OnTick start interval tick ∧ c.notAfter < tick ∧ tick ≤ d.notBefore

/-- The turn follows from the calls so far. -/
def Turn.Follows (interval : Duration) (p : Pace) : Turn → Prop
  | due tick => OnTick p.start interval tick ∧ tick ≤ p.last ∧ ∀ c ∈ p.calls, c.notAfter < tick
  | begun tick => OnTick p.start interval tick ∧ tick ≤ p.last
  | ahead tick => OnTick p.start interval tick ∧ ∀ c ∈ p.calls, c.notAfter < tick
  | before | past => True

/-- The calls so far lie between the start and the latest reading, and are apart from each other;
    and the turn follows from them. -/
structure OnPace (interval : Duration) (p : Pace) (t : Turn) : Prop where
  started : p.start ≤ p.last
  called : ∀ c ∈ p.calls, p.start ≤ c.notBefore ∧ c.notBefore ≤ c.notAfter ∧ c.notAfter ≤ p.last
  apart : p.calls.Pairwise (Apart p.start interval)
  turn : t.Follows interval p

namespace OnPace

variable {interval : Duration} {p : Pace} {t t' : Turn} {now tick : Instant}

/-- The ticks start with the launch, and there is no call yet. -/
theorem launched (interval : Duration) (now : Instant) :
    OnPace interval ⟨now, now, []⟩ (.due now) where
  started := Int.le_refl _
  called _ hc := nomatch hc
  apart := .nil
  turn := ⟨onTick_start _ _, Int.le_refl _, fun _ hc => nomatch hc⟩

/-- The sender reads the clock again. -/
theorem read (h : OnPace interval p t) (later : p.last ≤ now)
    (turn : t'.Follows interval { p with last := now }) :
    OnPace interval { p with last := now } t' where
  started := Int.le_trans h.started later
  called c hc := by
    obtain ⟨hstart, hspan, hlast⟩ := h.called c hc
    exact ⟨hstart, hspan, Int.le_trans hlast later⟩
  apart := h.apart
  turn := turn

/-- The tick that was waited for lies between the calls so far and a new one. -/
theorem call (h : OnPace interval p (.due tick)) (later : p.last ≤ now)
    (turn : t'.Follows interval { p with last := now, calls := p.calls ++ [⟨p.last, now⟩] }) :
    OnPace interval { p with last := now, calls := p.calls ++ [⟨p.last, now⟩] } t' where
  started := Int.le_trans h.started later
  called c hc := by
    rcases List.mem_append.1 hc with hc | hc
    · obtain ⟨hstart, hspan, hlast⟩ := h.called c hc
      exact ⟨hstart, hspan, Int.le_trans hlast later⟩
    · obtain rfl := List.mem_singleton.1 hc
      exact ⟨h.started, later, Int.le_refl _⟩
  apart := by
    -- The last tick came after all earlier calls and before this one was begun.
    obtain ⟨htick, hcome, hcalls⟩ := h.turn
    refine List.pairwise_append.2 ⟨h.apart, List.pairwise_singleton _ _, fun c hc d hd => ?_⟩
    obtain rfl := List.mem_singleton.1 hd
    exact ⟨tick, htick, hcalls c hc, hcome⟩
  turn := turn

/-- Every action keeps the pace. -/
theorem of_paceMove {a : Action} (h : OnPace interval p t) (pos : 0 < interval.nanos)
    (ascending : ∀ now, a.senderReading? = some now → p.last ≤ now)
    (move : PaceMove interval a t t') {p' : Pace} (hp' : Pace.after (some p) a = some p') :
    OnPace interval p' t' := by
  cases move with
  | stay unread =>
    rw [Pace.after_of_unread unread] at hp'
    obtain rfl := Option.some.inj hp'
    exact h
  | quit unread there =>
    rw [Pace.after_of_unread unread] at hp'
    obtain rfl := Option.some.inj hp'
    exact { h with turn := trivial }
  | start =>
    obtain rfl := Option.some.inj hp'
    exact h
  | launch =>
    obtain rfl := Option.some.inj hp'
    exact launched _ _
  | record =>
    obtain rfl := Option.some.inj hp'
    have later := ascending _ rfl
    obtain ⟨htick, hcome, -⟩ := h.turn
    exact h.call later ⟨htick, Int.le_trans hcome later⟩
  | notRecord =>
    obtain rfl := Option.some.inj hp'
    exact h.call (ascending _ rfl) trivial
  | @skip tick now next found =>
    obtain rfl := Option.some.inj hp'
    have later := ascending _ rfl
    obtain ⟨htick, hcome⟩ := h.turn
    -- The tick that is found is later than this reading, and so later than all calls so far.
    have hnext := (catchUp_eq_some_iff pos htick (Int.le_trans hcome later)).1 found
    refine h.read later ⟨hnext.tick, fun c hc => ?_⟩
    obtain ⟨-, -, hlast⟩ := h.called c hc
    exact Int.lt_of_le_of_lt (Int.le_trans hlast later) hnext.later
  | strand =>
    obtain rfl := Option.some.inj hp'
    exact h.read (ascending _ rfl) trivial
  | wake come =>
    obtain rfl := Option.some.inj hp'
    obtain ⟨htick, hcalls⟩ := h.turn
    exact h.read (ascending _ rfl) ⟨htick, come, hcalls⟩
  | stop =>
    obtain rfl := Option.some.inj hp'
    exact h.read (ascending _ rfl) trivial

end OnPace

/-- Before the ticks start, no probe is begun. From then on the run keeps its pace, with a call for
    every probe that was begun. -/
def Paced (interval : Duration) (actions : List Action) (t : Turn) : Prop :=
  match pace? actions with
  | none => t = .before ∧ actions.countP Action.beginsProbe = 0
  | some p => t ≠ .before ∧ p.calls.length = actions.countP Action.beginsProbe ∧
      p.last ∈ senderReadings actions ∧ OnPace interval p t

/-- Every action of a run keeps its pace, if the readings of the clock are in order. -/
theorem Paced.of_paceMove {interval : Duration} {actions : List Action} {t t' : Turn} {a : Action}
    (h : Paced interval actions t) (pos : 0 < interval.nanos)
    (ascending : ∀ earlier ∈ senderReadings actions, ∀ now, a.senderReading? = some now →
      earlier ≤ now)
    (move : PaceMove interval a t t') : Paced interval (actions ++ [a]) t' := by
  unfold Paced at h ⊢
  rw [pace?_concat, countP_beginsProbe_concat, senderReadings_concat]
  split at h
  · rename_i hnone
    obtain ⟨rfl, hcount⟩ := h
    rw [hnone, hcount]
    cases move with
    | stay unread =>
      rw [Pace.after_of_unread unread, Pace.beginsProbe_eq_false unread]
      exact ⟨rfl, rfl⟩
    | quit unread there => exact absurd rfl there
    | start => exact ⟨rfl, rfl⟩
    | launch =>
      exact ⟨nofun, rfl, List.mem_append_right _ List.mem_cons_self, OnPace.launched _ _⟩
  · rename_i p hp
    obtain ⟨there, hcount, hlast, h⟩ := h
    obtain ⟨p', hafter, -, hcalls, hlast'⟩ := Pace.exists_after p (move.ne_launch there)
    rw [hp, hafter]
    refine ⟨?_, by rw [hcalls, hcount], ?_, h.of_paceMove pos (ascending _ hlast) move hafter⟩
    · cases move <;> first | exact there | exact nofun
    · rcases hlast' with hlast' | hlast'
      · exact List.mem_append_left _ (hlast' ▸ hlast)
      · exact List.mem_append_right _ (Option.mem_toList.2 hlast')

namespace Machine

variable {σ : Type} {R : Reporter σ} {m m' : Machine σ} {events seen : List Event}

section Schedule

variable {settings : Settings} {filler : Wire.Filler} {reporter : σ} {flags : Flags}
  {handle : Handle} {clock : Instant} {actions : List Action}

/-- If the sender's readings of the clock do not go back, the run keeps its pace. -/
theorem Schedule.paced
    (run : Schedule R (init settings filler reporter flags handle clock) actions events m)
    (ascending : (senderReadings actions).Pairwise (· ≤ ·)) :
    Paced settings.interval actions m.sender.turn := by
  induction run with
  | refl => exact ⟨rfl, rfl⟩
  | step a before taken ih =>
    rw [senderReadings_concat, List.pairwise_append] at ascending
    have hsettings := before.interleaving.settings_eq
    have move := paceMove_of_step before.interleaving.orderly taken
    rw [hsettings] at move
    refine (ih ascending.1).of_paceMove settings.interval_pos (fun earlier he now hnow => ?_) move
    exact ascending.2.2 earlier he now (Option.mem_toList.2 hnow)

/-- With every configuration that passes the tests, however the run interleaves and however long it
    takes to send a probe, as long as the sender's clock does not go back: the loop that looks for
    the tick to wait for ends, and in one way only. It finds the first of the ticks `start + k *
    interval` that is later than the reading of the clock, and the sender waits for it; if that lies
    beyond the end of the clock, it finds none. For every probe that was begun there is a call, each
    point in time of a call is in just one slot, and the slots of the calls increase. -/
theorem ticks_skipped_not_made_up {config : Config} (valid : config.validate = .ok settings)
    (run : Schedule R (init settings filler reporter flags handle clock) actions events m)
    (ascending : (senderReadings actions).Pairwise (· ≤ ·)) {p : Pace}
    (launched : pace? actions = some p) :
    (∀ tick now, m.sender = .ticking tick → (∀ earlier ∈ senderReadings actions, earlier ≤ now) →
      ∃ r, SkipsTo config.interval now tick r ∧
        (∀ r', SkipsTo config.interval now tick r' → r' = r) ∧
        (∀ next, r = some next ↔ IsNextTick p.start config.interval now next.nanos) ∧
        (∀ next, r = some next → m.stepAnytime R (.sender (.tick now)) =
          some ({ m with clock := now, sender := .waiting next }, [])) ∧
        (r = none ↔ TickBeyond p.start config.interval now)) ∧
    p.calls.length = actions.countP Action.beginsProbe ∧
    (∀ c ∈ p.calls, c.notBefore ≤ c.notAfter ∧ ∀ t, c.Spans t →
      ∃ k, InSlot p.start config.interval k t ∧
        ∀ j, InSlot p.start config.interval j t → j = k) ∧
    p.calls.Pairwise fun c d => ∀ t u j k, c.Spans t → d.Spans u →
      InSlot p.start config.interval j t → InSlot p.start config.interval k u → j < k := by
  have hinterval := Config.interval_of_validate valid
  have pos := settings.interval_pos
  have hpaced := run.paced ascending
  have hsettings : m.settings.interval = config.interval := by
    rw [run.interleaving.settings_eq]
    exact hinterval
  rw [hinterval] at pos hpaced
  unfold Paced at hpaced
  rw [launched] at hpaced
  obtain ⟨-, hcount, hlast, hpace⟩ := hpaced
  refine ⟨fun tick now place later => ?_, hcount, fun c hc => ?_, ?_⟩
  · have hturn := hpace.turn
    rw [place] at hturn
    obtain ⟨htick, hcome⟩ := hturn
    have come : tick ≤ now := Int.le_trans hcome (later _ hlast)
    refine ⟨_, (skipsTo_iff pos).2 rfl, fun r' h => ((skipsTo_iff pos).1 h).symm, fun next =>
      catchUp_eq_some_iff pos htick come, fun next found => ?_, catchUp_eq_none_iff pos htick come⟩
    simp only [stepAnytime, Action.reading?, stepAt, stepSender, place, hsettings, found]
  · obtain ⟨hstart, hspan, -⟩ := hpace.called c hc
    refine ⟨hspan, fun t ht => ?_⟩
    obtain ⟨k, hk⟩ := exists_inSlot pos (Int.le_trans hstart ht.notBefore)
    exact ⟨k, hk, fun j hj => hj.unique hk⟩
  · refine hpace.apart.imp fun {c d} apart t u j k ht hu hj hk => ?_
    obtain ⟨between, htick, hafter, hupTo⟩ := apart
    exact hj.lt_of_onTick hk htick (Int.lt_of_le_of_lt ht.notAfter hafter)
      (Int.le_trans hupTo hu.notBefore)

end Schedule

/-- The first probe takes more than two intervals. The second ends when a tick comes. -/
def slowSends : List Action :=
  let sendTime : WallTime := ⟨1740, by decide, by decide⟩
  let launched : Instant := ⟨21, by decide, by decide⟩
  let recorded : Instant := ⟨22, by decide, by decide⟩
  let sent : Instant := ⟨2700000023, by decide, by decide⟩
  let woken : Instant := ⟨3000000024, by decide, by decide⟩
  let recordedNext : Instant := ⟨3000000025, by decide, by decide⟩
  [.caller (.ping "10.0.0.1" ⟨10, 0, 0, 1⟩), .sender (.start .zero), .sender (.launch launched),
    .sender .look, .sender (.record sendTime recorded [⟨5⟩]), .sender (.attempt (.ok ())),
    .sender (.tick sent), .sender (.wake woken), .sender .look,
    .sender (.record sendTime recordedNext [⟨6⟩]), .sender (.attempt (.ok ()))]

/-- Two ticks are skipped, so that the second probe is sent in the third slot after that of the
    first. A tick that comes just at the reading of the clock is skipped as well. -/
theorem ticks_skipped_not_made_up_slowSends :
    let interval : Duration := .ofSeconds 1
    let start : Instant := ⟨21, by decide, by decide⟩
    let tick : Instant := ⟨3000000021, by decide, by decide⟩
    let now : Instant := ⟨4000000021, by decide, by decide⟩
    let next : Instant := ⟨5000000021, by decide, by decide⟩
    ∃ events m p, Schedule .silent (fresh ()) slowSends events m ∧ pace? slowSends = some p ∧
      (p.calls.map fun c => (c.notBefore.nanos, c.notAfter.nanos)) =
        [(21, 22), (3000000024, 3000000025)] ∧
      (∀ c ∈ p.calls, ∀ t, c.Spans t → ∃ k, InSlot start interval k t) ∧
      m.sender = .ticking tick ∧ SkipsTo interval now tick (some next) ∧
      ∃ m', m.stepAnytime .silent (.sender (.tick now)) = some (m', []) ∧
        m'.sender = .waiting next := by
  intro interval start tick now next
  have hfinal : ((fresh ()).play .silent slowSends).map (·.1.sender.tick?) = some (some tick) := by
    decide +kernel
  obtain ⟨⟨m, events⟩, hplayed, hfinal⟩ := Option.map_eq_some_iff.1 hfinal
  have place : m.sender = .ticking tick := Sender.eq_ticking_of_tick? hfinal
  have valid : ({} : Config).validate = .ok default :=
    Config.validate_eq_ok Config.validate_default
  have run := schedule_of_play hplayed
  have ascending : (senderReadings slowSends).Pairwise (· ≤ ·) := by decide
  obtain ⟨hskip, -, hcalls, -⟩ := ticks_skipped_not_made_up valid run ascending rfl
  obtain ⟨r, hr, -, hnext, htaken, -⟩ := hskip tick now place (by decide)
  have hfound : r = some next := by
    refine (hnext next).2 ⟨⟨5, by decide⟩, by decide, fun k hk => ?_⟩
    have hk : now.nanos < start.nanos + k * 1000000000 := hk
    show next.nanos ≤ start.nanos + k * 1000000000
    simp only [now, start, next] at hk ⊢
    omega
  subst hfound
  refine ⟨events, m, _, run, rfl, by decide, fun c hc t ht => ?_, place, hr, _, htaken _ rfl, rfl⟩
  obtain ⟨k, hk, -⟩ := (hcalls c hc).2 t ht
  exact ⟨k, hk⟩

end Machine

end EchoProbe.Run
