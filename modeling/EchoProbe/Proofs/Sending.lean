import EchoProbe.Proofs.Classification.Recovery
import EchoProbe.Proofs.Ledger.Drawing
import EchoProbe.Sending

/-!
# How the sending of a probe ends

A probe is recorded and handed to the transport until an answer decides about it: one that says
anything else than that there is no room. Nothing but the place of this answer (`refusals`) and
the answer itself counts.

* `length_answers`: the probe is handed over until the answer has come, and five times at most;
* `delivery_eq`: an answer that comes in time decides, and otherwise the probe is given up;
* `dispatch_of_free`: what is left of sending a probe, as a function of these two;
* `dispatch_sends_keeps_or_takes_back`: a probe that was sent or given up stays in the ledger, and
  one that failed leaves no trace there but its number.
-/

namespace EchoProbe

/-- The transport has no room, and does not say anything else. -/
def SendResult.isOutOfRoom : SendResult → Bool
  | .ok () => false
  | .error e => e.isOutOfRoom

/-- The end of a delivery on which the transport decides. -/
def SendResult.delivery : SendResult → Delivery
  | .ok () => .sent
  | .error e => .failed e

/-- What the transport answers to an attempt, the first one having the number zero. When the
    answers run out, it has room. -/
def answerTo (results : List SendResult) (attempt : Nat) : SendResult :=
  results.getD attempt (.ok ())

/-- How many attempts find no room before one is answered otherwise. -/
def refusals (results : List SendResult) : Nat :=
  results.findIdx fun result => !result.isOutOfRoom

variable {results : List SendResult}

/-! ## Attempts -/

/-- An attempt without room is a refusal, and the others are those that follow. -/
theorem refusals_of_isOutOfRoom (h : (results.headD (.ok ())).isOutOfRoom = true) :
    refusals results = refusals results.tail + 1 := by
  cases results with
  | nil => cases h
  | cons result rest =>
    rw [List.headD_cons] at h
    simp [refusals, List.findIdx_cons, h]

/-- An answer that says something else ends the refusals. -/
theorem refusals_of_not_isOutOfRoom (h : (results.headD (.ok ())).isOutOfRoom = false) :
    refusals results = 0 := by
  cases results with
  | nil => rfl
  | cons result rest =>
    rw [List.headD_cons] at h
    simp [refusals, List.findIdx_cons, h]

theorem answerTo_zero (results : List SendResult) : answerTo results 0 = results.headD (.ok ()) := by
  cases results <;> rfl

theorem answerTo_succ (results : List SendResult) (attempt : Nat) :
    answerTo results (attempt + 1) = answerTo results.tail attempt := by
  cases results <;> rfl

/-- Without room, the probe is handed over again, with one attempt less to go. -/
theorem deliver_of_isOutOfRoom (limit : Nat) (h : (results.headD (.ok ())).isOutOfRoom = true) :
    deliver (limit + 1) results =
      ((deliver limit results.tail).1, results.headD (.ok ()) :: (deliver limit results.tail).2) := by
  rw [deliver]
  generalize results.headD (.ok ()) = result at h ⊢
  cases result with
  | ok => cases h
  | error e => simp only [SendResult.next, SendResult.isOutOfRoom] at h ⊢; rw [if_pos h]

/-- Any other answer ends the delivery. -/
theorem deliver_of_not_isOutOfRoom (limit : Nat)
    (h : (results.headD (.ok ())).isOutOfRoom = false) :
    deliver (limit + 1) results =
      ((results.headD (.ok ())).delivery, [results.headD (.ok ())]) := by
  rw [deliver]
  generalize results.headD (.ok ()) = result at h ⊢
  cases result with
  | ok => rfl
  | error e => simp [SendResult.next, SendResult.isOutOfRoom] at h ⊢; simp [h, SendResult.delivery]

/-- A probe is handed over until the transport decides, as often as it may. -/
theorem length_answers (limit : Nat) (results : List SendResult) :
    (deliver limit results).2.length = min (refusals results + 1) limit := by
  induction limit generalizing results with
  | zero => simp [deliver]
  | succ limit ih =>
    cases h : (results.headD (.ok ())).isOutOfRoom with
    | true =>
      rw [deliver_of_isOutOfRoom limit h, List.length_cons, ih, refusals_of_isOutOfRoom h]
      omega
    | false =>
      rw [deliver_of_not_isOutOfRoom limit h, refusals_of_not_isOutOfRoom h]
      simp

/-- An answer that comes in time decides, and otherwise the probe is given up. -/
theorem delivery_eq (limit : Nat) (results : List SendResult) :
    (deliver limit results).1 =
      if refusals results < limit then (answerTo results (refusals results)).delivery
      else .givenUp := by
  induction limit generalizing results with
  | zero => rfl
  | succ limit ih =>
    cases h : (results.headD (.ok ())).isOutOfRoom with
    | true =>
      rw [deliver_of_isOutOfRoom limit h, ih, refusals_of_isOutOfRoom h, answerTo_succ]
      simp only [Nat.add_lt_add_iff_right]
    | false =>
      rw [deliver_of_not_isOutOfRoom limit h, refusals_of_not_isOutOfRoom h, answerTo_zero]
      simp

/-- Before the transport decides, it has no room. -/
theorem isOutOfRoom_of_lt_refusals {attempt : Nat} (h : attempt < refusals results) :
    (answerTo results attempt).isOutOfRoom = true := by
  have hlength : attempt < results.length := Nat.lt_of_lt_of_le h List.findIdx_le_length
  have hroom := List.not_of_lt_findIdx h
  simpa [answerTo, hlength] using hroom

/-- The answer that decides says something else. -/
theorem isOutOfRoom_refusals (results : List SendResult) :
    (answerTo results (refusals results)).isOutOfRoom = false := by
  rcases Nat.lt_or_ge (refusals results) results.length with hlength | hlength
  · have hdecides : (!results[refusals results].isOutOfRoom) = true :=
      List.findIdx_getElem (w := hlength)
    simpa [answerTo, hlength] using hdecides
  · -- The answers have run out.
    simp [answerTo, hlength, SendResult.isOutOfRoom]

/-! ## Recorded probes -/

section Recorded

variable (settings : Settings) (filler : Wire.Filler) (sendTime : WallTime) (r : Request)
  (l : Ledger)

/-- Every attempt hands over the same bytes to the same address. -/
theorem transmissions_sendRecorded (results : List SendResult) :
    (sendRecorded settings filler sendTime r l results).transmissions =
      List.replicate (min (refusals results + 1) attemptLimit)
        { bytes := r.probe sendTime filler, target := r.target } := by
  rw [← length_answers, ← List.map_const', sendRecorded]
  generalize deliver attemptLimit results = ended
  obtain ⟨delivery, answers⟩ := ended
  cases delivery <;> rfl

/-- A probe that was sent in time stays in the ledger. -/
theorem sendRecorded_of_ok (intime : refusals results < attemptLimit)
    (h : answerTo results (refusals results) = .ok ()) :
    (sendRecorded settings filler sendTime r l results).result = .ok (some Wire.probeSize) ∧
      (sendRecorded settings filler sendTime r l results).ledger = l := by
  have hended := delivery_eq attemptLimit results
  rw [if_pos intime, h] at hended
  rw [sendRecorded]
  generalize deliver attemptLimit results = ended at hended ⊢
  obtain ⟨delivery, answers⟩ := ended
  cases hended
  exact ⟨congrArg (Except.ok ∘ some) (Wire.length_probe _ _ _), rfl⟩

/-- So does a probe for which there was no room in time. -/
theorem sendRecorded_of_late (late : attemptLimit ≤ refusals results) :
    (sendRecorded settings filler sendTime r l results).result = .ok none ∧
      (sendRecorded settings filler sendTime r l results).ledger = l := by
  have hended := delivery_eq attemptLimit results
  rw [if_neg (Nat.not_lt.2 late)] at hended
  rw [sendRecorded]
  generalize deliver attemptLimit results = ended at hended ⊢
  obtain ⟨delivery, answers⟩ := ended
  cases hended
  exact ⟨rfl, rfl⟩

/-- A probe that failed is taken back. -/
theorem sendRecorded_of_error (intime : refusals results < attemptLimit) {e : TransportError}
    (h : answerTo results (refusals results) = .error e) :
    (sendRecorded settings filler sendTime r l results).result = .error (.transport e) ∧
      (sendRecorded settings filler sendTime r l results).ledger = l.erase r.identifier := by
  have hended := delivery_eq attemptLimit results
  rw [if_pos intime, h] at hended
  rw [sendRecorded]
  generalize deliver attemptLimit results = ended at hended ⊢
  obtain ⟨delivery, answers⟩ := ended
  cases hended
  exact ⟨rfl, rfl⟩

/-- The ledger is as it was after the recording, or the request was taken back. -/
theorem ledger_sendRecorded (results : List SendResult) :
    (sendRecorded settings filler sendTime r l results).ledger = l ∨
      (sendRecorded settings filler sendTime r l results).ledger = l.erase r.identifier := by
  rw [sendRecorded]
  generalize deliver attemptLimit results = ended
  obtain ⟨delivery, answers⟩ := ended
  cases delivery with
  | sent => exact .inl rfl
  | givenUp => exact .inl rfl
  | failed e => exact .inr rfl

end Recorded

/-! ## Recording -/

namespace Ledger

variable {l k : Ledger} {r : Request} {i : Identifier} {target : IPv4} {sentAt : Instant}

/-- A request that is taken back leaves nothing in the table. -/
theorem table_erase_of_record (h : l.record i target sentAt = (r, k)) (free : l.find? i = none) :
    (k.erase i).table = l.table := by
  refine Std.ExtTreeMap.ext_getElem? fun j => ?_
  show (k.erase i).find? j = l.find? j
  rw [find?_erase]
  split
  · subst j
    exact free.symm
  · exact find?_of_record_ne h (Ne.symm ‹_›)

end Ledger

/-! ## Sending -/

variable {settings : Settings} {filler : Wire.Filler} {l : Ledger} {target : IPv4}
  {sendTime : WallTime} {sentAt : Instant} {draws : List Identifier}

open Ledger in
/-- Nothing is sent if the ledger is full. -/
theorem dispatch_of_full (h : l.size = Identifier.count) (results : List SendResult) :
    dispatch settings filler l target sendTime sentAt draws results =
      some ⟨.error (.ledger .full), [], l, []⟩ := by
  rw [dispatch, insert_of_full ((size_eq_count_iff l).1 h)]

open Ledger in
/-- Otherwise a request is recorded under a free identifier, and its probe is sent. -/
theorem dispatch_of_free (settings : Settings) (filler : Wire.Filler) (target : IPv4)
    (sendTime : WallTime) (sentAt : Instant) (room : l.size ≠ Identifier.count)
    (free : ∃ i ∈ draws, l.find? i = none) (results : List SendResult) :
    ∃ r k, l.find? r.identifier = none ∧ l.record r.identifier target sentAt = (r, k) ∧
      dispatch settings filler l target sendTime sentAt draws results =
        some (sendRecorded settings filler sendTime r k results) := by
  obtain ⟨r, k, hinsert⟩ := insert_of_free room free target sentAt
  obtain ⟨hfree, hrecord⟩ := insert_eq_ok hinsert
  exact ⟨r, k, hfree, hrecord, by rw [dispatch, hinsert]⟩

/-- The header fields of a whole probe are read from it. -/
theorem Wire.requestHeader?_probe (header : EchoHeader) (t : WallTime) (filler : Filler) :
    requestHeader? (probe header t filler) = some header := by
  have hread : requestHeader? ((probe header t filler).take probeSize ++ []) = some header :=
    requestHeader?_take_probe (by decide) []
  rwa [List.append_nil, List.take_of_length_le (Nat.le_of_eq (length_probe _ _ _))] at hread

open Ledger Wire in
/-- Whatever the transport answers: a full ledger stays as it is, and nothing is sent. Otherwise
    one new request is recorded, and its probe is handed over until an answer is not that there is
    no room, but five times at most, always the same 64 bytes to the same address. If that answer
    comes in time and is a success, the probe was sent; if it does not come in time, the probe is
    given up; in both cases the request stays in the ledger. If it is another error, the error is
    returned and the table is as it was. The counter has moved by one, and no other request was
    touched. -/
theorem dispatch_sends_keeps_or_takes_back (settings : Settings) (filler : Filler) (l : Ledger)
    (target : IPv4) (sendTime : WallTime) (sentAt : Instant) (draws : List Identifier)
    (results : List SendResult) :
    let n := refusals results
    let sending? := dispatch settings filler l target sendTime sentAt draws results
    ((∀ j < n, (answerTo results j).isOutOfRoom = true) ∧
      (answerTo results n).isOutOfRoom = false) ∧
    (l.size = 65536 → sending? = some ⟨.error (.ledger .full), [], l, []⟩) ∧
    (l.size ≠ 65536 → (∃ i ∈ draws, l.find? i = none) → ∃ r bytes sending,
      sending? = some sending ∧
      (l.find? r.identifier = none ∧ r.sequenceNumber = l.nextSequenceNumber ∧
        r.target = target ∧ r.sentAt = sentAt) ∧
      (bytes.length = 64 ∧ requestHeader? bytes = some ⟨r.identifier, r.sequenceNumber⟩ ∧
        sending.transmissions = List.replicate (min (n + 1) 5) ⟨bytes, target, 0⟩) ∧
      (n < 5 → answerTo results n = .ok () →
        sending.result = .ok (some 64) ∧ sending.ledger.find? r.identifier = some r) ∧
      (5 ≤ n → sending.result = .ok none ∧ sending.ledger.find? r.identifier = some r) ∧
      (∀ e, n < 5 → answerTo results n = .error e →
        sending.result = .error (.transport e) ∧ sending.ledger.table = l.table) ∧
      (∀ i, i ≠ r.identifier → sending.ledger.find? i = l.find? i) ∧
      sending.ledger.nextSequenceNumber = l.nextSequenceNumber.next) := by
  intro n sending?
  refine ⟨⟨fun _ => isOutOfRoom_of_lt_refusals, isOutOfRoom_refusals results⟩,
    fun full => dispatch_of_full full results, fun room free => ?_⟩
  obtain ⟨r, k, hfree, hrecord, hdispatch⟩ :=
    dispatch_of_free settings filler target sendTime sentAt room free results
  have hfound := find?_of_record hrecord
  have hnext := congrArg (·.2.nextSequenceNumber) hrecord
  have hledger := ledger_sendRecorded settings filler sendTime r k results
  obtain ⟨-, rfl, rfl⟩ := record_eq_self hrecord
  refine ⟨r, _, _, hdispatch, ⟨hfree, ?_, rfl, rfl⟩, ⟨length_probe _ _ _,
    requestHeader?_probe _ _ _, transmissions_sendRecorded ..⟩, ?_, ?_, ?_, ?_, ?_⟩
  · exact (congrArg (·.1.sequenceNumber) hrecord).symm
  · intro intime hok
    obtain ⟨hresult, hkept⟩ := sendRecorded_of_ok settings filler sendTime r k intime hok
    exact ⟨hresult, by rw [hkept, hfound]⟩
  · intro late
    obtain ⟨hresult, hkept⟩ := sendRecorded_of_late settings filler sendTime r k late
    exact ⟨hresult, by rw [hkept, hfound]⟩
  · intro e intime herror
    obtain ⟨hresult, htaken⟩ := sendRecorded_of_error settings filler sendTime r k intime herror
    exact ⟨hresult, by rw [htaken, table_erase_of_record hrecord hfree]⟩
  · intro i hi
    have hother := find?_of_record_ne hrecord hi
    rcases hledger with hkept | htaken
    · rw [hkept, hother]
    · rw [htaken, find?_erase, if_neg (Ne.symm hi), hother]
  · rcases hledger with hkept | htaken
    · rw [hkept]
      exact hnext.symm
    · rw [htaken]
      exact hnext.symm

/-- The transport has no room for as many attempts, and then refuses the probe for good. -/
def refusedAfter (attempts : Nat) : List SendResult :=
  List.replicate attempts (.error (.system SystemError.noBufferSpace)) ++ [.error (.system 13)]

/-- With all identifiers in flight, nothing is sent. With one in flight, an error at the fifth
    attempt is returned and leaves the table as it was; an error that a sixth attempt would meet
    is never seen, and the probe stays in the ledger. -/
theorem dispatch_sends_keeps_or_takes_back_fifthAttempt :
    let host : IPv4 := ⟨10, 0, 0, 1⟩
    let l := (Ledger.empty.record ⟨5⟩ host .zero).2
    let draws : List Identifier := [⟨5⟩, ⟨6⟩]
    let send (l : Ledger) (attempts : Nat) := dispatch default (Vector.replicate 48 0) l host .zero
      .zero draws (refusedAfter attempts)
    (∃ full : Ledger, full.size = 65536 ∧
      send full 0 = some ⟨.error (.ledger .full), [], full, []⟩) ∧
    (l.size ≠ 65536 ∧ ∃ i ∈ draws, l.find? i = none) ∧
    (∃ sending, send l 4 = some sending ∧ sending.transmissions.length = 5 ∧
      sending.result = .error (.transport (.system 13)) ∧ sending.ledger.table = l.table) ∧
    ∃ sending, send l 5 = some sending ∧ sending.transmissions.length = 5 ∧
      sending.result = .ok none ∧ sending.ledger.nextSequenceNumber = ⟨2⟩ := by
  intro host l draws send
  obtain ⟨full, hfull⟩ := Ledger.exists_full
  have hroom : l.size ≠ 65536 := by decide +kernel
  have hfree : ∃ i ∈ draws, l.find? i = none := ⟨⟨6⟩, by decide, by decide +kernel⟩
  obtain ⟨-, hnothing, -⟩ := dispatch_sends_keeps_or_takes_back default (Vector.replicate 48 0)
    full host .zero .zero draws (refusedAfter 0)
  obtain ⟨-, -, hfour⟩ := dispatch_sends_keeps_or_takes_back default (Vector.replicate 48 0) l host
    .zero .zero draws (refusedAfter 4)
  obtain ⟨-, -, hfive⟩ := dispatch_sends_keeps_or_takes_back default (Vector.replicate 48 0) l host
    .zero .zero draws (refusedAfter 5)
  refine ⟨⟨full, hfull, hnothing hfull⟩, ⟨hroom, hfree⟩, ?_, ?_⟩
  · obtain ⟨r, bytes, sending, hsent, -, ⟨-, -, hattempts⟩, -, -, hfailed, -⟩ := hfour hroom hfree
    obtain ⟨hresult, htable⟩ := hfailed (.system 13) (by decide) (by decide)
    exact ⟨sending, hsent, by rw [hattempts]; rfl, hresult, htable⟩
  · obtain ⟨r, bytes, sending, hsent, -, ⟨-, -, hattempts⟩, -, hgivenUp, -, -, hnext⟩ :=
      hfive hroom hfree
    obtain ⟨hresult, -⟩ := hgivenUp (by decide)
    exact ⟨sending, hsent, by rw [hattempts]; rfl, hresult, hnext⟩

end EchoProbe
