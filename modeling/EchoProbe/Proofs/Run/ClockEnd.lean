import EchoProbe.Proofs.Run.Pacing

/-!
# The end of the clock

An interval may be as long as any duration, and the clock ends before the longest ones are over. If
the next tick lies beyond its end, the sender cannot add the interval to the last one, and dies of
it. The receiver and the processor are then never halted, and the run does not return.

* `TickBeyond.le_add`, `tickBeyond_of_long`: the interval reaches beyond the end of the clock from
  the reading, and it is enough that it does so from the start;
* `Schedule.stranding`: the sender is stranded by such a reading and by nothing else;
* `Interleaving.of_stranded`: and then stays so;
* `tick_beyond_clock_strands`: when that happens, and what comes of it.
-/

namespace EchoProbe

variable {interval : Duration} {start now : Instant}

theorem TickBeyond.le_add (pos : 0 < interval.nanos) (h : TickBeyond start interval now) :
    9223372036854775808 * 1000000000 ≤ now.nanos + interval.nanos := by
  obtain ⟨n, hnext, hbeyond⟩ := h
  obtain ⟨k, rfl⟩ := hnext.tick
  cases k with
  | zero =>
    -- The start itself is on the clock.
    have hstart := start.nanos_lt
    rw [tickAt] at hbeyond
    omega
  | succ k =>
    rw [tickAt_add] at hbeyond
    have hlast : ¬ now.nanos < tickAt start interval k := by
      intro hlater
      have hfirst := hnext.first k hlater
      rw [tickAt_add] at hfirst
      omega
    omega

theorem tickBeyond_of_long (pos : 0 < interval.nanos) (come : start ≤ now)
    (long : 9223372036854775808 * 1000000000 ≤ start.nanos + interval.nanos) :
    TickBeyond start interval now := by
  obtain ⟨k, hk⟩ := exists_inSlot pos come
  refine ⟨_, hk.isNextTick, ?_⟩
  have hfirst := tickAt_le_tickAt start interval (Nat.le_add_left 1 k)
  rw [tickAt] at hfirst
  omega

namespace Run

/-- The reading with which the sender looks for the next tick. -/
def Action.tickReading? : Action → Option Instant
  | sender (.tick now) => some now
  | _ => none

/-- The readings with which the sender looked for the next tick. -/
def tickReadings (actions : List Action) : List Instant := actions.filterMap Action.tickReading?

theorem tickReadings_concat (actions : List Action) (a : Action) :
    tickReadings (actions ++ [a]) = tickReadings actions ++ a.tickReading?.toList :=
  filterMap_concat _ _ _

theorem eq_tick_of_tickReading? {a : Action} (h : a.tickReading? = some now) :
    a = .sender (.tick now) := by
  cases a with
  | sender a =>
    cases a with
    | tick => rw [Option.some.inj h]
    | _ => cases h
  | _ => cases h

def Sender.isStranded : Sender → Bool
  | stranded => true
  | _ => false

theorem Sender.eq_stranded_of_isStranded {s : Sender} (h : s.isStranded = true) : s = stranded := by
  cases s with
  | stranded => rfl
  | _ => cases h

/-- Whether the sender has yet to halt the receiver, or never will. -/
def Sender.precedesHalt : Sender → Bool
  | joiningReceiver | mourning | haltingProcessor | joiningProcessor | closing | returning
  | returned _ => false
  | _ => true

namespace Machine

variable {σ : Type} {R : Reporter σ} {m m' : Machine σ} {events later seen : List Event}
  {actions : List Action} {a : Action}

/-! ## How the sender is stranded -/

/-- The sender is stranded by the reading of the clock from which it finds no tick, -/
theorem stranded_of_tick (taken : m.stepAnytime R (.sender (.tick now)) = some (m', seen)) :
    ∃ tick, m.sender = .ticking tick ∧
      (m'.sender = .stranded ↔ catchUp m.settings.interval tick now = none) := by
  cases place : m.sender with
  | ticking tick =>
    refine ⟨tick, rfl, ?_⟩
    simp only [stepAnytime, Action.reading?, stepAt, stepSender, place] at taken
    cases hfound : catchUp m.settings.interval tick now <;> rw [hfound] at taken <;> cases taken
    · exact iff_of_true rfl rfl
    · simp
  | _ => simp [stepAnytime, Action.reading?, stepAt, stepSender, place] at taken

theorem stranded_of_senderMove (move : SenderMove R m m' seen)
    (other : ∀ tick, m.sender ≠ .ticking tick) :
    m'.sender = .stranded ↔ m.sender = .stranded := by
  cases move
  case strand tick place beyond => exact absurd place (other tick)
  all_goals simp [*]

/-- and by nothing else. -/
theorem stranded_of_step (order : Orderly m) (taken : m.stepAnytime R a = some (m', seen))
    (other : a.tickReading? = none) : m'.sender = .stranded ↔ m.sender = .stranded := by
  obtain ⟨now, taken, reading⟩ := stepAt_of_stepAnytime taken
  cases a with
  | caller a =>
    have move : CallerMove _ m' seen := callerMove_of_step taken
    cases move with
    | enter host target idle => simp [order.idle idle]
    | _ => rfl
  | sender a =>
    have move : SenderMove R _ m' seen := senderMove_of_step taken reading
    refine stranded_of_senderMove (m := { m with clock := now }) move fun tick place => ?_
    -- With a tick at hand, the sender does nothing but look for the next.
    cases a with
    | tick now => cases other
    | _ => simp [stepAt, stepSender, show m.sender = _ from place] at taken
  | receiver a =>
    have move : ReceiverMove _ m' seen := receiverMove_of_step taken reading
    cases move <;> rfl
  | processor a =>
    have move : ProcessorMove R _ m' seen := processorMove_of_step taken reading
    cases move <;> rfl

/-- Before the ticks start, the sender looks for none. -/
theorem not_stranded_before (order : Orderly m) (before : m.sender.turn = .before)
    (taken : m.stepAnytime R a = some (m', seen)) :
    a.tickReading? = none ∧ m'.sender ≠ .stranded := by
  have other : a.tickReading? = none := by
    cases h : a.tickReading? with
    | none => rfl
    | some now =>
      obtain rfl := eq_tick_of_tickReading? h
      obtain ⟨tick, place, -⟩ := stranded_of_tick taken
      rw [place] at before
      cases before
  refine ⟨other, fun h => ?_⟩
  rw [(stranded_of_step order taken other).1 h] at before
  cases before

/-- On its pace, it finds none exactly if the next one lies beyond the end of the clock. -/
theorem stranded_iff_tickBeyond {p : Pace} (pace : OnPace m.settings.interval p m.sender.turn)
    (later : p.last ≤ now) (taken : m.stepAnytime R (.sender (.tick now)) = some (m', seen)) :
    m.sender ≠ .stranded ∧
      (m'.sender = .stranded ↔ TickBeyond p.start m.settings.interval now) := by
  obtain ⟨tick, place, hstranded⟩ := stranded_of_tick taken
  have hturn := pace.turn
  rw [place] at hturn ⊢
  obtain ⟨htick, hcome⟩ := hturn
  refine ⟨nofun, ?_⟩
  rw [hstranded, catchUp_eq_none_iff m.settings.interval_pos htick (Int.le_trans hcome later)]

section Schedule

variable {settings : Settings} {filler : Wire.Filler} {reporter : σ} {flags : Flags}
  {handle : Handle} {clock : Instant}

/-- Before the ticks start, the sender looks for none. From then on, it is stranded exactly if it has
    looked for one that lies beyond the end of the clock. -/
theorem Schedule.stranding
    (run : Schedule R (init settings filler reporter flags handle clock) actions events m)
    (ascending : (senderReadings actions).Pairwise (· ≤ ·)) :
    (pace? actions = none → tickReadings actions = []) ∧
    ∀ p, pace? actions = some p → (∀ now ∈ tickReadings actions, p.start ≤ now) ∧
      (m.sender = .stranded ↔
        ∃ now ∈ tickReadings actions, TickBeyond p.start settings.interval now) := by
  induction run with
  | refl => exact ⟨fun _ => rfl, fun p hp => nomatch hp⟩
  | @step actions events seen m m' a before taken ih =>
    rw [senderReadings_concat, List.pairwise_append] at ascending
    obtain ⟨hnone, hsome⟩ := ih ascending.1
    have hpaced := before.paced ascending.1
    have order := before.interleaving.orderly
    have move := paceMove_of_step order taken
    have hsettings : m.settings = settings := before.interleaving.settings_eq
    rw [pace?_concat, tickReadings_concat]
    unfold Paced at hpaced
    split at hpaced
    · rename_i hp
      obtain ⟨other, hthere⟩ := not_stranded_before order hpaced.1 taken
      rw [other, hnone hp]
      exact ⟨fun _ => rfl, fun p _ => ⟨by simp, by simp [hthere]⟩⟩
    · rename_i p hp
      obtain ⟨there, -, hlast, hpace⟩ := hpaced
      obtain ⟨p', hafter, hstart, -⟩ := Pace.exists_after p (move.ne_launch there)
      rw [hp, hafter]
      refine ⟨nofun, fun q hq => ?_⟩
      obtain rfl := Option.some.inj hq
      obtain ⟨hstarted, hsome⟩ := hsome p hp
      rw [hstart]
      cases h : a.tickReading? with
      | none =>
        rw [stranded_of_step order taken h, hsome, Option.toList_none, List.append_nil]
        exact ⟨hstarted, Iff.rfl⟩
      | some now =>
        obtain rfl := eq_tick_of_tickReading? h
        have later : p.last ≤ now := ascending.2.2 _ hlast _ List.mem_cons_self
        rw [← hsettings] at hpace
        obtain ⟨hthere, hstranded⟩ := stranded_iff_tickBeyond hpace later taken
        rw [hsettings] at hstranded
        -- No earlier reading has stranded the sender.
        rw [Ne, hsome] at hthere
        rw [hstranded]
        simp only [Option.toList_some, List.mem_append, List.mem_singleton]
        refine ⟨?_, fun hbeyond => ⟨now, .inr rfl, hbeyond⟩, ?_⟩
        · rintro t (ht | rfl)
          · exact hstarted t ht
          · exact Int.le_trans hpace.started later
        · rintro ⟨t, ht | rfl, hbeyond⟩
          · exact absurd ⟨t, ht, hbeyond⟩ hthere
          · exact hbeyond

/-! ## What comes of it -/

/-- A sender that is stranded stays so. -/
theorem Interleaving.of_stranded (run : Interleaving R m later m') (order : Orderly m)
    (stranded : m.sender = .stranded) : m'.sender = .stranded := by
  have h : Orderly m' ∧ m'.sender = .stranded := by
    refine run.invariant (P := fun _ m => Orderly m ∧ m.sender = .stranded) ⟨order, stranded⟩ ?_
    rintro later m m' seen ⟨order, stranded⟩ move
    refine ⟨order.of_move move, ?_⟩
    cases move with
    | clock now => exact stranded
    | caller move =>
      cases move with
      | enter host target idle => simp [order.idle idle] at stranded
      | _ => exact stranded
    | sender move => cases move <;> simp_all
    | receiver move => cases move <;> exact stranded
    | processor move => cases move <;> exact stranded
  exact h.2

/-- Nobody halts the receiver but the sender. -/
theorem Interleaving.receiver_running
    (run : Interleaving R (init settings filler reporter flags handle clock) events m) :
    m.sender.precedesHalt = true → m.receiverHalted = false := by
  refine run.invariant_of_orderly
    (P := fun _ m => m.sender.precedesHalt = true → m.receiverHalted = false) (fun _ => rfl) ?_
  intro events m m' seen order h move hbefore
  cases move with
  | clock now => exact h hbefore
  | caller move =>
    cases move with
    | enter host target idle => exact h (by rw [order.idle idle]; rfl)
    | _ => exact h hbefore
  | sender move =>
    cases move
    all_goals first | exact h (by rw [‹m.sender = _›]; rfl) | cases hbefore
  | receiver move => cases move <;> exact h hbefore
  | processor move => cases move <;> exact h hbefore

/-- The tests of a configuration let any positive interval pass. An addition leaves the clock exactly
    if the sender looks for the next tick when that lies beyond the end of the clock, and of this the
    sender dies. This does not happen as long as the interval, added to every such reading, is on the
    clock. If it is not on the clock even when added to the start, it happens as soon as the sender
    has sent the first probe. From then on, whatever anybody does, the sender is dead, neither the
    receiver nor the processor is ever halted, and nothing is returned. -/
theorem tick_beyond_clock_strands {config : Config} (valid : config.validate = .ok settings)
    (run : Schedule R (init settings filler reporter flags handle clock) actions events m)
    (ascending : (senderReadings actions).Pairwise (· ≤ ·)) {p : Pace}
    (launched : pace? actions = some p) :
    (m.sender = .stranded ↔
      ∃ now ∈ tickReadings actions, TickBeyond p.start config.interval now) ∧
    ((∀ now ∈ tickReadings actions,
        now.nanos + config.interval.nanos < 9223372036854775808 * 1000000000) →
      m.sender ≠ .stranded) ∧
    (9223372036854775808 * 1000000000 ≤ p.start.nanos + config.interval.nanos →
      tickReadings actions ≠ [] → m.sender = .stranded) ∧
    (m.sender = .stranded → ∀ later m', Interleaving R m later m' →
      m'.receiverHalted = false ∧ m'.processorHalted = false ∧ m'.sender = .stranded ∧
        ∀ result, m'.sender ≠ .returned result) := by
  have hinterval := Config.interval_of_validate valid
  have pos := settings.interval_pos
  obtain ⟨hstarted, hstranded⟩ := (run.stranding ascending).2 p launched
  rw [hinterval] at pos hstranded
  refine ⟨hstranded, fun short => ?_, fun long ticked => ?_, fun stranded later m' rest => ?_⟩
  · rw [Ne, hstranded]
    rintro ⟨now, hnow, hbeyond⟩
    exact Int.not_le.2 (short now hnow) (hbeyond.le_add pos)
  · obtain ⟨now, hnow⟩ := List.exists_mem_of_ne_nil _ ticked
    exact hstranded.2 ⟨now, hnow, tickBeyond_of_long pos (hstarted now hnow) long⟩
  · have whole := run.interleaving.append rest
    have hstays := rest.of_stranded run.interleaving.orderly stranded
    have hhalted : m'.processorHalted = false :=
      (whole.orderly.not_finishing (by rw [hstays]; rfl)).1
    refine ⟨whole.receiver_running (by rw [hstays]; rfl), hhalted, hstays, fun result => ?_⟩
    rw [hstays]
    exact nofun

end Schedule

/-- The longest interval that passes the tests. -/
def longestInterval : Config :=
  { interval := ⟨18446744073709551616 * 1000000000 - 1, by decide⟩ }

/-- The settings that it gives. -/
def longestSettings : Settings :=
  { (default : Settings) with interval := longestInterval.interval, interval_pos := by decide }

/-- A probe is sent, and the sender looks for the next tick. -/
def firstProbe : List Action :=
  let sendTime : WallTime := ⟨1800, by decide, by decide⟩
  let ticked : Instant := ⟨31, by decide, by decide⟩
  [.caller (.ping "10.0.0.1" ⟨10, 0, 0, 1⟩), .sender (.start .zero), .sender (.launch .zero),
    .sender .look, .sender (.record sendTime .zero [⟨7⟩]), .sender (.attempt (.ok ())),
    .sender (.tick ticked)]

/-- With the longest interval, the first probe is the last, and the run never returns. -/
theorem tick_beyond_clock_strands_longest :
    ∃ events m, longestInterval.validate = .ok longestSettings ∧
      Schedule .silent (init longestSettings (Vector.replicate 48 0) () ⟨[false]⟩ ⟨0⟩ .zero)
        firstProbe events m ∧ m.sender = .stranded ∧
      ∀ later m', Interleaving .silent m later m' →
        m'.receiverHalted = false ∧ m'.processorHalted = false ∧ m'.sender = .stranded := by
  let start : Machine Unit :=
    init longestSettings (Vector.replicate 48 0) () ⟨[false]⟩ ⟨0⟩ .zero
  have hplayed : (start.play .silent firstProbe).isSome = true := by decide +kernel
  obtain ⟨⟨m, events⟩, hplayed⟩ := Option.isSome_iff_exists.1 hplayed
  have valid : longestInterval.validate = .ok longestSettings :=
    Config.validate_eq_ok (by decide +kernel)
  have run := schedule_of_play hplayed
  obtain ⟨-, -, hlong, hstays⟩ := tick_beyond_clock_strands valid run (by decide) rfl
  have stranded : m.sender = .stranded := hlong (by decide) (by decide)
  refine ⟨events, m, valid, run, stranded, fun later m' rest => ?_⟩
  obtain ⟨hreceiver, hprocessor, hsender, -⟩ := hstays stranded later m' rest
  exact ⟨hreceiver, hprocessor, hsender⟩

/-- Two echoes of the first probe arrive while it is being sent. The reporter panics when it is told
    of the first; the receiver finds nobody to take the second, and fails. Then the sender looks for
    the next tick. -/
def lonelySender : List Action :=
  let target : IPv4 := ⟨10, 0, 0, 1⟩
  let sendTime : WallTime := ⟨1900, by decide, by decide⟩
  let readTime : WallTime := ⟨2900, by decide, by decide⟩
  let echo := Wire.echoOf (Wire.probe ⟨⟨8⟩, .first⟩ sendTime (Vector.replicate 48 0))
  let buffer := Wire.overwrite (List.replicate 512 0) echo
  let read : Action :=
    .receiver (.read (.returned (.ok ⟨64, target, ⟨64⟩⟩) buffer) .zero readTime)
  [.caller (.ping "10.0.0.1" target), .sender (.start .zero), .sender (.launch .zero),
    .sender .look, .sender (.record sendTime .zero [⟨8⟩]),
    .processor (.start .zero), .processor .turn, .receiver .poll, read, .receiver .handOver,
    .processor .classify, .processor .report, .receiver .poll, read, .receiver .abandon,
    .receiver .fail, .sender (.attempt (.ok ())), .sender (.tick .zero)]

/-- The interval passes the tests, and cannot be added to the first tick. The sender dies of it
    instead of learning that the run is stopped. -/
theorem accepted_interval_strands :
    longestInterval.validate = .ok longestSettings ∧
    (Time.zero : Instant).add? longestInterval.interval = none ∧
    ∃ events m, Execution (recorder (some 1))
        (init longestSettings (Vector.replicate 48 0) {} ⟨[false]⟩ ⟨0⟩ .zero) events m ∧
      m.sender = .stranded ∧ m.isStopped = true ∧ m.receiver.isGone = true ∧
      m.processor.isGone = true := by
  let start : Machine Recording :=
    init longestSettings (Vector.replicate 48 0) {} ⟨[false]⟩ ⟨0⟩ .zero
  have hfinal : (start.play (recorder (some 1)) lonelySender).map (fun n =>
      ((n.1.sender.isStranded, n.1.isStopped), (n.1.receiver.isGone, n.1.processor.isGone))) =
      some ((true, true), (true, true)) := by
    decide +kernel
  obtain ⟨⟨m, events⟩, hplayed, hfinal⟩ := Option.map_eq_some_iff.1 hfinal
  simp only [Prod.mk.injEq] at hfinal
  obtain ⟨⟨hstranded, hstopped⟩, hreceiver, hprocessor⟩ := hfinal
  exact ⟨Config.validate_eq_ok (by decide +kernel), by decide, events, m,
    execution_of_play hplayed, Sender.eq_stranded_of_isStranded hstranded, hstopped, hreceiver,
    hprocessor⟩

end Machine

end Run

end EchoProbe
