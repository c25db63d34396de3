import EchoProbe.Proofs.Classification
import EchoProbe.Proofs.Run.Move

/-!
# The books of a run

What was seen of a run tells which probes were *recorded* in the ledger, which outcomes were
*made* of the probes and packets that left it or never were in it, which probes were *taken
back*, and what was *reported*.

The ledger and these books change together, in one of five ways (`LedgerMove`): a probe is
recorded or taken back, a packet is classified, the ledger is swept or drained. All other
moves leave the ledger as it is and nothing in the books (`ledgerMove_of_move`).
-/

namespace EchoProbe.Run

namespace Event

/-- The request that was recorded. -/
def recorded? : Event → Option Request
  | recorded request _ => some request
  | _ => none

/-- The request that left the ledger because it could not be sent. -/
def takenBack? : Event → Option Request
  | retracted _ removed => removed
  | _ => none

/-- The outcomes that were found. -/
def made : Event → List Outcome
  | classified _ outcome => [outcome]
  | swept requests => requests.map (·.lost .timeout)
  | drained requests => requests.map (·.lost .unanswered)
  | _ => []

/-- The outcome that the reporter was told. -/
def reported? : Event → Option Outcome
  | reported outcome => some outcome
  | _ => none

/-- Whether the ledger has nothing to do with the event. -/
def isQuiet : Event → Bool
  | recorded _ _ | retracted _ _ | classified _ _ | swept _ | drained _ => false
  | _ => true

end Event

/-- The requests that were recorded, in the order of their recording. -/
def recorded (events : List Event) : List Request := events.filterMap Event.recorded?

/-- The requests that left the ledger because they could not be sent. -/
def takenBack (events : List Event) : List Request := events.filterMap Event.takenBack?

/-- The outcomes that were found. -/
def made (events : List Event) : List Outcome := events.flatMap Event.made

/-- The outcomes that were found and count as a probe sent. -/
def counted (events : List Event) : List Outcome := (made events).filter (·.isCounted)

/-- The outcomes that the reporter was told. -/
def reported (events : List Event) : List Outcome := events.filterMap Event.reported?

section Lists

variable (e : Event) (events seen : List Event)

@[simp]
theorem recorded_nil : recorded [] = [] := rfl

@[simp]
theorem takenBack_nil : takenBack [] = [] := rfl

@[simp]
theorem made_nil : made [] = [] := rfl

@[simp]
theorem reported_nil : reported [] = [] := rfl

@[simp]
theorem recorded_cons : recorded (e :: seen) = e.recorded?.toList ++ recorded seen := by
  cases h : e.recorded? <;> simp [recorded, h]

@[simp]
theorem takenBack_cons : takenBack (e :: seen) = e.takenBack?.toList ++ takenBack seen := by
  cases h : e.takenBack? <;> simp [takenBack, h]

@[simp]
theorem made_cons : made (e :: seen) = e.made ++ made seen :=
  List.flatMap_cons

@[simp]
theorem reported_cons : reported (e :: seen) = e.reported?.toList ++ reported seen := by
  cases h : e.reported? <;> simp [reported, h]

@[simp]
theorem recorded_append : recorded (events ++ seen) = recorded events ++ recorded seen :=
  List.filterMap_append

@[simp]
theorem takenBack_append : takenBack (events ++ seen) = takenBack events ++ takenBack seen :=
  List.filterMap_append

@[simp]
theorem made_append : made (events ++ seen) = made events ++ made seen :=
  List.flatMap_append

@[simp]
theorem counted_append : counted (events ++ seen) = counted events ++ counted seen := by
  rw [counted, made_append, List.filter_append]
  rfl

@[simp]
theorem reported_append : reported (events ++ seen) = reported events ++ reported seen :=
  List.filterMap_append

end Lists

/-- A diagnostic line is logged or not. -/
@[simp]
theorem Machine.diagnostic_eq_map {σ : Type} (m : Machine σ) (text : String) :
    m.diagnostic text = (if m.settings.debug then [.debug text] else []).map .logged := by
  rw [diagnostic]
  split <;> rfl

@[simp]
theorem reported_map_logged (log : List LogLine) : reported (log.map .logged) = [] := by
  simp [reported, Event.reported?]

@[simp]
theorem reported_map_loggedAside (log : List LogLine) : reported (log.map .loggedAside) = [] := by
  simp [reported, Event.reported?]

theorem mem_recorded {events : List Event} {r : Request} :
    r ∈ recorded events ↔ ∃ t, .recorded r t ∈ events := by
  rw [recorded, List.mem_filterMap]
  constructor
  · rintro ⟨e, he, hr⟩
    cases e <;> simp only [Event.recorded?, reduceCtorEq, Option.some.injEq] at hr
    exact ⟨_, hr ▸ he⟩
  · rintro ⟨t, ht⟩
    exact ⟨_, ht, rfl⟩

/-- Events with which the ledger has nothing to do. -/
def Quiet (seen : List Event) : Prop := ∀ e ∈ seen, e.isQuiet = true

@[simp]
theorem quiet_nil : Quiet [] := by simp [Quiet]

@[simp]
theorem quiet_cons {e : Event} {seen : List Event} :
    Quiet (e :: seen) ↔ e.isQuiet = true ∧ Quiet seen :=
  List.forall_mem_cons

@[simp]
theorem quiet_append {events seen : List Event} :
    Quiet (events ++ seen) ↔ Quiet events ∧ Quiet seen :=
  List.forall_mem_append

@[simp]
theorem quiet_map_logged (log : List LogLine) : Quiet (log.map .logged) := by
  simp [Quiet, Event.isQuiet]

@[simp]
theorem quiet_map_loggedAside (log : List LogLine) : Quiet (log.map .loggedAside) := by
  simp [Quiet, Event.isQuiet]

namespace Quiet

variable {seen : List Event}

theorem recorded_eq_nil (h : Quiet seen) : recorded seen = [] := by
  refine List.filterMap_eq_nil_iff.2 fun e he => ?_
  have := h e he
  cases e <;> first | rfl | cases this

theorem takenBack_eq_nil (h : Quiet seen) : takenBack seen = [] := by
  refine List.filterMap_eq_nil_iff.2 fun e he => ?_
  have := h e he
  cases e <;> first | rfl | cases this

theorem made_eq_nil (h : Quiet seen) : made seen = [] := by
  refine List.flatMap_eq_nil_iff.2 fun e he => ?_
  have := h e he
  cases e <;> first | rfl | cases this

end Quiet

/-- The request whose probe is being sent or taken back. -/
def Sender.request? : Sender → Option Request
  | attempting _ request _ _ | retracting request _ => some request
  | _ => none

namespace Machine

variable {σ : Type} {R : Reporter σ} {m m' : Machine σ} {seen : List Event}

/-- What a move does to the ledger. -/
inductive LedgerMove (m m' : Machine σ) : List Event → Prop
  | rest {seen : List Event} (quiet : Quiet seen) (ledger : m'.ledger = m.ledger) :
    LedgerMove m m' seen
  | record (request : Request) (sendTime : WallTime)
      (free : m.ledger.find? request.identifier = none)
      (ledger : m.ledger.record request.identifier m.target m.clock = (request, m'.ledger)) :
    LedgerMove m m' [.recorded request sendTime]
  | retract (request : Request) (held : m.sender.request? = some request)
      (ledger : m'.ledger = m.ledger.erase request.identifier) :
    LedgerMove m m' [.retracted request (m.ledger.find? request.identifier)]
  | classify (packet : Packet) (log : List LogLine) (held : m.processor = .holding packet)
      (ledger : m'.ledger = (m.ledger.classify packet).ledger) :
    LedgerMove m m' (.classified packet (m.ledger.classify packet).outcome ::
      log.map .loggedAside)
  | sweep (ledger : m'.ledger = (m.ledger.sweep m.clock m.settings.maxRtt).2) :
    LedgerMove m m' [.swept (m.ledger.sweep m.clock m.settings.maxRtt).1]
  | drain (ledger : m'.ledger = m.ledger.drain.2) : LedgerMove m m' [.drained m.ledger.drain.1]

/-- Every move does one of these to the ledger. -/
theorem ledgerMove_of_move (move : Move R m m' seen) : LedgerMove m m' seen := by
  cases move with
  | clock now => exact .rest quiet_nil rfl
  | caller move => cases move <;> exact .rest (by simp [Event.isQuiet]) rfl
  | sender move =>
    cases move
    case record place recorded =>
      obtain ⟨free, hrecord⟩ := Ledger.insert_eq_ok recorded
      exact .record _ _ free hrecord
    case retract place => exact .retract _ (by rw [place]; rfl) rfl
    all_goals exact .rest (by simp [Event.isQuiet]) rfl
  | receiver move => cases move <;> exact .rest (by simp [Event.isQuiet]) rfl
  | processor move =>
    cases move
    case classify place => exact .classify _ _ place rfl
    case sweep => exact .sweep rfl
    case drain => exact .drain rfl
    all_goals exact .rest (by simp [Event.isQuiet]) rfl

/-- A move that does not record a probe leaves a part of the ledger, and the counter as it is. -/
theorem LedgerMove.subset_or_record (move : LedgerMove m m' seen) :
    (m'.ledger ⊆ m.ledger ∧ m'.ledger.nextSequenceNumber = m.ledger.nextSequenceNumber ∧
      recorded seen = []) ∨
    ∃ request sendTime, m.ledger.find? request.identifier = none ∧
      m.ledger.record request.identifier m.target m.clock = (request, m'.ledger) ∧
      seen = [.recorded request sendTime] := by
  cases move with
  | rest quiet ledger =>
    rw [ledger]
    exact .inl ⟨Ledger.Subset.refl _, rfl, quiet.recorded_eq_nil⟩
  | record request sendTime free ledger => exact .inr ⟨request, sendTime, free, ledger, rfl⟩
  | retract request _ ledger =>
    rw [ledger]
    exact .inl ⟨Ledger.erase_subset _ _, rfl, rfl⟩
  | classify packet log _ ledger =>
    rw [ledger]
    refine .inl ⟨Ledger.classify_subset _ _, Ledger.nextSequenceNumber_classify _ _, ?_⟩
    simp [Event.recorded?, (quiet_map_loggedAside log).recorded_eq_nil]
  | sweep ledger =>
    rw [ledger]
    exact .inl ⟨Ledger.sweep_subset _ _ _, rfl, rfl⟩
  | drain ledger =>
    rw [ledger]
    exact .inl ⟨Ledger.drain_subset _, rfl, rfl⟩

end Machine

end EchoProbe.Run
