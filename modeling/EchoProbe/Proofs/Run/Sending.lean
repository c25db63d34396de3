import EchoProbe.Proofs.Run.Move

/-!
# The sending of a probe, step by step

In a run, the sender records a probe, hands it over and takes it back in steps of its own, and the
other activities may act in between. `dispatch` does all of this at once. If nobody acts in
between, there is no difference.

* `step_attempt`: an attempt leads where its answer tells;
* `play_attempts`: the attempts end as they are delivered;
* `sender_sends_as_dispatch`: the sender goes on from the same result as `dispatch`, with the same
  ledger, and has handed over the same bytes.
-/

namespace EchoProbe.Run

/-- What is handed to the transport. -/
def Event.transmission? : Event → Option Transmission
  | transmitted transmission _ => some transmission
  | _ => none

/-- All that was handed to the transport, in order. -/
def transmissions (events : List Event) : List Transmission :=
  events.filterMap Event.transmission?

namespace Sender

/-- Where the sender goes on after the attempts to send a probe. -/
def afterDelivery (tick : Instant) (r : Request) : Delivery → Sender
  | .sent | .givenUp => ticking tick
  | .failed e => retracting r e

/-- Where the sender goes on after an attempt. -/
def afterAttempt (tick : Instant) (r : Request) (bytes : Bytes) (attempt : Nat) :
    AfterSend → Sender
  | .done => ticking tick
  | .fatal e => retracting r e
  | .again _ =>
    if attempt < attemptLimit then attempting tick r bytes (attempt + 1) else ticking tick

/-- Where the sender goes on after a probe. -/
def afterSending (tick : Instant) : Except RunError (Option Nat) → Sender
  | .ok _ => ticking tick
  | .error e => failing e

end Sender

/-- The attempts of the sender, the transport answering so. -/
def attempts (answers : List SendResult) : List Action :=
  answers.map fun result => .sender (.attempt result)

/-- Whether the sender takes the probe back. -/
def retraction : Delivery → List Action
  | .failed _ => [.sender .retract]
  | _ => []

/-- What the sender does with a probe that was recorded. -/
def deliveryActions (results : List SendResult) : List Action :=
  attempts (deliver attemptLimit results).2 ++ retraction (deliver attemptLimit results).1

namespace Machine

variable {σ : Type} {R : Reporter σ} {m : Machine σ} {tick : Instant} {r : Request}
  {bytes : Bytes} {attempt : Nat}

theorem play_cons (a : Action) (actions : List Action) : m.play R (a :: actions) =
    (m.step R a).bind fun next =>
      (next.1.play R actions).map fun last => (last.1, next.2 ++ last.2) := rfl

theorem play_append {actions others : List Action} {m' : Machine σ} {seen : List Event}
    (played : m.play R actions = some (m', seen)) : m.play R (actions ++ others) =
      (m'.play R others).map fun last => (last.1, seen ++ last.2) := by
  induction actions generalizing m seen with
  | nil =>
    cases played
    simp
  | cons a actions ih =>
    rw [play_cons] at played
    obtain ⟨⟨m₁, first⟩, htaken, hrest⟩ := Option.bind_eq_some_iff.1 played
    obtain ⟨⟨m₂, rest⟩, hplayed, heq⟩ := Option.map_eq_some_iff.1 hrest
    cases heq
    rw [List.cons_append, play_cons, htaken, Option.bind_some, ih hplayed, Option.map_map]
    simp only [Function.comp_def, List.append_assoc]

/-- An attempt hands the bytes over, and the sender goes on as the answer tells. -/
theorem step_attempt (place : m.sender = .attempting tick r bytes attempt) (result : SendResult) :
    ∃ announced events,
      m.step R (.sender (.attempt result)) =
        some ({ m with
          announced
          sender := .afterAttempt tick r bytes attempt result.next }, events) ∧
      transmissions events = [⟨bytes, r.target, 0⟩] := by
  have hstep : m.step R (.sender (.attempt result)) =
      some ((m.afterAttempt tick r bytes attempt result).1,
        .transmitted ⟨bytes, r.target, 0⟩ result ::
          (m.afterAttempt tick r bytes attempt result).2) := by
    show m.stepSender R (.attempt result) = _
    simp only [stepSender, place]
  rw [hstep, afterAttempt]
  cases hnext : result.next with
  | done =>
    by_cases hannounced : m.announced
    · rw [if_pos hannounced]
      exact ⟨m.announced, _, rfl, rfl⟩
    · rw [if_neg hannounced]
      exact ⟨true, _, rfl, rfl⟩
  | fatal e => exact ⟨m.announced, _, rfl, rfl⟩
  | again e =>
    have hquiet (text : LogLine) :
        transmissions (if m.settings.debug then [.logged text] else []) = [] := by
      split <;> rfl
    dsimp only [Sender.afterAttempt]
    split
    · exact ⟨m.announced, _, rfl, congrArg (_ :: ·) (hquiet _)⟩
    · refine ⟨m.announced, _, rfl, congrArg (_ :: ·) ?_⟩
      exact (List.filterMap_append ..).trans (congrArg (· ++ []) (hquiet _))

/-- After the last attempt the sender is where its answer leads. -/
theorem play_last (place : m.sender = .attempting tick r bytes attempt) (result : SendResult)
    {next : Sender} (hnext : .afterAttempt tick r bytes attempt result.next = next) :
    ∃ announced events,
      m.play R (attempts [result]) = some ({ m with announced, sender := next }, events) ∧
      transmissions events = [⟨bytes, r.target, 0⟩] := by
  obtain ⟨announced, events, htaken, hsent⟩ := step_attempt (R := R) place result
  rw [hnext] at htaken
  refine ⟨announced, events, ?_, hsent⟩
  rw [attempts, List.map_singleton, play_cons, htaken, Option.bind_some, play, Option.map_some,
    List.append_nil]

/-- The attempts that are left end as they are delivered, and hand over the same bytes each time. -/
theorem play_attempts (left : Nat) (place : m.sender = .attempting tick r bytes attempt)
    (hleft : attempt + left = attemptLimit) (results : List SendResult) :
    ∃ announced events,
      m.play R (attempts (deliver (left + 1) results).2) =
        some ({ m with
          announced
          sender := .afterDelivery tick r (deliver (left + 1) results).1 }, events) ∧
      transmissions events =
        (deliver (left + 1) results).2.map fun _ => ⟨bytes, r.target, 0⟩ := by
  -- The attempts that are left count down as the number of the attempt goes up.
  induction left generalizing m attempt results with
  | zero =>
    rw [deliver]
    generalize results.headD (.ok ()) = result
    cases hnext : result.next with
    | done => exact play_last place result (by rw [hnext]; rfl)
    | fatal e => exact play_last place result (by rw [hnext]; rfl)
    | again e =>
      refine play_last place result ?_
      rw [hnext, Sender.afterAttempt, if_neg (by omega)]
      rfl
  | succ left ih =>
    rw [deliver]
    generalize results.headD (.ok ()) = result
    cases hnext : result.next with
    | done => exact play_last place result (by rw [hnext]; rfl)
    | fatal e => exact play_last place result (by rw [hnext]; rfl)
    | again e =>
      obtain ⟨announced, first, htaken, hsent⟩ := step_attempt (R := R) place result
      rw [hnext, Sender.afterAttempt, if_pos (by omega)] at htaken
      obtain ⟨announced', rest, hplayed, hrest⟩ := ih
        (m := { m with announced, sender := .attempting tick r bytes (attempt + 1) }) rfl
        (by omega) results.tail
      refine ⟨announced', first ++ rest, ?_, ?_⟩
      · rw [attempts, List.map_cons, play_cons, htaken]
        exact congrArg (Option.map _) hplayed
      · rw [transmissions, List.filterMap_append, ← transmissions, ← transmissions, hsent, hrest]
        rfl

/-- The request of a probe is recorded, and the sender goes on to its first attempt. -/
theorem step_record (place : m.sender = .recording tick) (sendTime : WallTime) {sentAt : Instant}
    (later : m.clock ≤ sentAt) {draws : List Identifier} {l : Ledger}
    (recorded : m.ledger.insert draws m.target sentAt = .ok (some (r, l))) :
    m.step R (.sender (.record sendTime sentAt draws)) =
      some ({ m with
        clock := sentAt
        ledger := l
        sender := .attempting tick r (r.probe sendTime m.filler) 1 }, [.recorded r sendTime]) := by
  show (if m.clock ≤ sentAt then _ else _) = _
  rw [if_pos later]
  show { m with clock := sentAt }.stepSender R (.record sendTime sentAt draws) = _
  simp only [stepSender, place, recorded]

/-- If the ledger is full, the sender fails at once. -/
theorem step_notRecord (place : m.sender = .recording tick) (sendTime : WallTime)
    {sentAt : Instant} (later : m.clock ≤ sentAt) {draws : List Identifier} {e : LedgerError}
    (refused : m.ledger.insert draws m.target sentAt = .error e) :
    m.step R (.sender (.record sendTime sentAt draws)) =
      some ({ m with clock := sentAt, sender := .failing (.ledger e) }, [.unrecorded e]) := by
  show (if m.clock ≤ sentAt then _ else _) = _
  rw [if_pos later]
  show { m with clock := sentAt }.stepSender R (.record sendTime sentAt draws) = _
  simp only [stepSender, place, refused]

/-- A probe that was recorded and is attempted is sent as by `sendRecorded`. -/
theorem play_sendRecorded (sendTime : WallTime)
    (place : m.sender = .attempting tick r (r.probe sendTime m.filler) 1)
    (results : List SendResult) :
    let sending := sendRecorded m.settings m.filler sendTime r m.ledger results
    ∃ announced events,
      m.play R (deliveryActions results) =
        some ({ m with
          ledger := sending.ledger
          announced
          sender := .afterSending tick sending.result }, events) ∧
      transmissions events = sending.transmissions := by
  intro sending
  have hattempts : ∃ announced events,
      m.play R (attempts (deliver attemptLimit results).2) =
        some ({ m with
          announced
          sender := .afterDelivery tick r (deliver attemptLimit results).1 }, events) ∧
      transmissions events =
        (deliver attemptLimit results).2.map fun _ => ⟨r.probe sendTime m.filler, r.target, 0⟩ :=
    play_attempts 4 place rfl results
  simp only [sending, deliveryActions, sendRecorded]
  generalize deliver attemptLimit results = ended at hattempts ⊢
  obtain ⟨delivery, answers⟩ := ended
  obtain ⟨announced, events, hplayed, hsent⟩ := hattempts
  rw [play_append hplayed]
  cases delivery with
  | sent => exact ⟨announced, _, rfl, (List.append_nil events).symm ▸ hsent⟩
  | givenUp => exact ⟨announced, _, rfl, (List.append_nil events).symm ▸ hsent⟩
  | failed e =>
    refine ⟨announced, _, rfl, ?_⟩
    exact (List.filterMap_append ..).trans ((List.append_nil _).trans hsent)

/-- If nobody acts in between, the sender goes on from the result of `dispatch`, with its ledger,
    and has handed over the same bytes. Nothing else is changed but what the user was told. -/
theorem sender_sends_as_dispatch (place : m.sender = .recording tick) (sendTime : WallTime)
    {sentAt : Instant} (later : m.clock ≤ sentAt) (draws : List Identifier)
    (results : List SendResult) {sending : Sending}
    (h : dispatch m.settings m.filler m.ledger m.target sendTime sentAt draws results =
      some sending) :
    ∃ others announced events, (others = [] ∨ others = deliveryActions results) ∧
      m.play R (.sender (.record sendTime sentAt draws) :: others) =
        some ({ m with
          clock := sentAt
          ledger := sending.ledger
          announced
          sender := .afterSending tick sending.result }, events) ∧
      transmissions events = sending.transmissions := by
  rw [dispatch] at h
  cases hinsert : m.ledger.insert draws m.target sentAt with
  | error e =>
    rw [hinsert] at h
    cases h
    refine ⟨[], m.announced, [.unrecorded e], .inl rfl, ?_, rfl⟩
    rw [play_cons, step_notRecord place sendTime later hinsert]
    rfl
  | ok recorded? =>
    rw [hinsert] at h
    cases recorded? with
    | none => cases h
    | some recorded =>
      obtain ⟨r, l⟩ := recorded
      cases h
      let next : Machine σ :=
        { m with
          clock := sentAt
          ledger := l
          sender := .attempting tick r (r.probe sendTime m.filler) 1 }
      obtain ⟨announced, events, hplayed, hsent⟩ :=
        play_sendRecorded (R := R) (m := next) sendTime rfl results
      refine ⟨deliveryActions results, announced, .recorded r sendTime :: events, .inr rfl, ?_, hsent⟩
      rw [play_cons, step_record place sendTime later hinsert]
      exact congrArg (Option.map _) hplayed

end Machine

end EchoProbe.Run
