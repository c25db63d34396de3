import EchoProbe.Proofs.Ledger.Requests
import Mathlib.Data.List.Perm.Subperm

/-!
# Histories of a ledger

A ledger starts empty and goes through operations, in any order and any number: requests are
recorded under drawn or given identifiers, taken, swept and drained. What it answered on the way
is its *history*. An operation does one of three things (`Effect`): it records a request under a
free identifier, it hands requests out, or it leaves the ledger as it is.

* `Intact`: what holds throughout. Every request is filed under its own identifier; what was
  recorded was handed out or is still in flight, field for field; and the requests are numbered
  in the order of their recording.
* `Intact.extend`: every operation keeps this.
* `Intact.ranks_of_same_number`: two requests in flight share a number only if whole rounds of
  the counter lie between their recordings.
* `history_conserves_requests`: so it holds of every history. Together with the number of
  identifiers and of sequence numbers, it tells how many requests can be in flight and which of
  them can share a number.
-/

namespace EchoProbe

namespace Ledger

/-- What can be asked of a ledger. -/
inductive Operation
  | insert (draws : List Identifier) (target : IPv4) (sentAt : Instant)
  | insertAt (identifier : Identifier) (target : IPv4) (sentAt : Instant)
  | take (identifier : Identifier)
  | sweep (now : Instant) (deadline : Duration)
  | drain

/-- The request is one that the operation asks to record. -/
def Operation.Asks : Operation → Request → Prop
  | insert draws target sentAt, r => r.identifier ∈ draws ∧ r.target = target ∧ r.sentAt = sentAt
  | insertAt identifier target sentAt, r =>
    r.identifier = identifier ∧ r.target = target ∧ r.sentAt = sentAt
  | _, _ => False

/-- What a ledger answers. -/
inductive Answer
  | recorded (request : Request)
  | refused (e : LedgerError)
  /-- Every draw was in flight. -/
  | undecided
  | handedOut (requests : List Request)
  deriving DecidableEq, Repr

namespace Answer

/-- The request that entered the ledger. -/
def entered : Answer → List Request
  | recorded request => [request]
  | _ => []

/-- The requests that left the ledger. -/
def left : Answer → List Request
  | handedOut requests => requests
  | _ => []

end Answer

/-- Does what is asked. -/
def perform (l : Ledger) : Operation → Answer × Ledger
  | .insert draws target sentAt =>
    match l.insert draws target sentAt with
    | .error e => (.refused e, l)
    | .ok none => (.undecided, l)
    | .ok (some (request, l)) => (.recorded request, l)
  | .insertAt identifier target sentAt =>
    match l.insertAt identifier target sentAt with
    | .error e => (.refused e, l)
    | .ok (request, l) => (.recorded request, l)
  | .take identifier =>
    match l.take? identifier with
    | none => (.handedOut [], l)
    | some (request, l) => (.handedOut [request], l)
  | .sweep now deadline =>
    let (requests, l) := l.sweep now deadline
    (.handedOut requests, l)
  | .drain =>
    let (requests, l) := l.drain
    (.handedOut requests, l)

/-- The three things that an operation can do to a ledger. -/
inductive Effect (l : Ledger) (op : Operation) : Answer × Ledger → Prop
  | rest {a : Answer} (entered : a.entered = []) (left : a.left = []) : Effect l op (a, l)
  | record {r : Request} {k : Ledger} (asks : op.Asks r) (free : l.find? r.identifier = none)
      (ledger : l.record r.identifier r.target r.sentAt = (r, k)) : Effect l op (.recorded r, k)
  | handOut {requests : List Request} {k : Ledger} (part : k ⊆ l)
      (counter : k.nextSequenceNumber = l.nextSequenceNumber)
      (balance : l.requests.Perm (requests ++ k.requests)) : Effect l op (.handedOut requests, k)

variable {l k : Ledger} {r : Request}

/-- A request is recorded under one of the drawn identifiers. -/
theorem identifier_mem_draws {draws : List Identifier} {target : IPv4} {sentAt : Instant}
    (h : l.insert draws target sentAt = .ok (some (r, k))) : r.identifier ∈ draws := by
  unfold insert at h
  split at h
  · cases h
  · obtain ⟨i, hdrawn, hrecord⟩ := Option.map_eq_some_iff.1 (Except.ok.inj h)
    have hi : r.identifier = i := (congrArg (·.1.identifier) hrecord).symm
    exact hi ▸ List.mem_of_find?_eq_some hdrawn

/-- What is recorded has the target and the time that were asked for. -/
theorem record_eq_self {i : Identifier} {target : IPv4} {sentAt : Instant}
    (h : l.record i target sentAt = (r, k)) :
    r.identifier = i ∧ r.target = target ∧ r.sentAt = sentAt := by
  cases h
  exact ⟨rfl, rfl, rfl⟩

/-- Every operation does one of the three things. -/
theorem effect_perform (l : Ledger) (op : Operation) : Effect l op (l.perform op) := by
  cases op with
  | insert draws target sentAt =>
    simp only [perform]
    split
    · exact .rest rfl rfl
    · exact .rest rfl rfl
    · rename_i recorded
      obtain ⟨free, hrecord⟩ := insert_eq_ok recorded
      obtain ⟨-, rfl, rfl⟩ := record_eq_self hrecord
      exact .record ⟨identifier_mem_draws recorded, rfl, rfl⟩ free hrecord
  | insertAt i target sentAt =>
    simp only [perform]
    split
    · exact .rest rfl rfl
    · rename_i recorded
      obtain ⟨free, hrecord⟩ := insertAt_eq_ok_iff.1 recorded
      obtain ⟨rfl, rfl, rfl⟩ := record_eq_self hrecord
      exact .record ⟨rfl, rfl, rfl⟩ free hrecord
  | take i =>
    simp only [perform]
    split
    · exact .rest rfl rfl
    · obtain ⟨found, rfl⟩ := take?_eq_some_iff.1 ‹_›
      exact .handOut (erase_subset l i) rfl (requests_erase found)
  | sweep now deadline =>
    exact .handOut (sweep_subset l now deadline) rfl (requests_sweep l now deadline)
  | drain =>
    have balance : l.requests.Perm (l.drain.1 ++ l.drain.2.requests) := by
      rw [requests_drain_snd, List.append_nil]
      exact requests_drain l
    exact .handOut (drain_subset l) rfl balance

/-- What was recorded was asked for, and is found as it was recorded. -/
theorem perform_of_recorded {op : Operation} (h : (l.perform op).1 = .recorded r) :
    op.Asks r ∧ (l.perform op).2.find? r.identifier = some r := by
  have heffect := effect_perform l op
  generalize l.perform op = result at heffect h ⊢
  cases heffect with
  | rest entered =>
    dsimp only at h
    rw [h] at entered
    cases entered
  | record asks free ledger =>
    cases h
    exact ⟨asks, find?_of_record ledger⟩
  | handOut => cases h

/-- A recording that is refused changes nothing. -/
theorem perform_of_refused {op : Operation} {e : LedgerError}
    (h : (l.perform op).1 = .refused e) : (l.perform op).2 = l := by
  have heffect := effect_perform l op
  generalize l.perform op = result at heffect h ⊢
  cases heffect with
  | rest => rfl
  | record => cases h
  | handOut => cases h

/-! ## Histories -/

/-- A ledger with the requests that were recorded in it, in the order of their recording, and
    those that it handed out. -/
structure History where
  ledger : Ledger
  recorded : List Request
  handedOut : List Request

namespace History

/-- The history after one more operation. -/
def extend (h : History) (op : Operation) : History :=
  let (answer, ledger) := h.ledger.perform op
  ⟨ledger, h.recorded ++ answer.entered, h.handedOut ++ answer.left⟩

/-- The history of the operations, on a ledger that was empty. -/
def of (ops : List Operation) : History := ops.foldl extend ⟨.empty, [], []⟩

/-- What holds throughout a history. -/
structure Intact (h : History) : Prop where
  filed : h.ledger.Filed
  balance : h.recorded.Perm (h.handedOut ++ h.ledger.requests)
  counter : h.ledger.nextSequenceNumber = .advance .first h.recorded.length
  numbered : ∀ (k : Nat) r, h.recorded[k]? = some r → r.sequenceNumber = .advance .first k

theorem intact_nil : Intact ⟨.empty, [], []⟩ where
  filed i r h := by simp at h
  balance := by simp
  counter := rfl
  numbered k r h := by simp at h

/-- Recording a request under a free identifier keeps a history intact: the request is in flight,
    with the next number. -/
theorem Intact.record {h : History} (intact : h.Intact)
    (free : h.ledger.find? r.identifier = none)
    (ledger : h.ledger.record r.identifier r.target r.sentAt = (r, k)) :
    Intact ⟨k, h.recorded ++ [r], h.handedOut⟩ where
  filed := by
    have hfiled := intact.filed.record r.identifier r.target r.sentAt
    rwa [ledger] at hfiled
  balance := by
    -- The new request stands last on one side, and first among those in flight on the other.
    have hadded := requests_record free r.target r.sentAt
    rw [ledger] at hadded
    exact (intact.balance.append_right [r]).trans <| by
      rw [List.append_assoc]
      exact ((List.perm_append_singleton r _).trans hadded.symm).append_left _
  counter := by
    have hnext := congrArg (·.2.nextSequenceNumber) ledger
    rw [List.length_append, List.length_singleton, ← SequenceNumber.next_advance, ← intact.counter]
    exact hnext.symm
  numbered n s hs := by
    rw [List.getElem?_append] at hs
    split at hs
    · exact intact.numbered n s hs
    · -- Its rank is the next one, and its number is where the counter stood.
      have hlast : n = h.recorded.length := by
        have := (List.getElem?_eq_some_iff.1 hs).1
        simp only [List.length_singleton] at this
        omega
      subst hlast
      rw [Nat.sub_self] at hs
      obtain rfl := Option.some.inj hs
      rw [← intact.counter]
      exact (congrArg (·.1.sequenceNumber) ledger).symm

/-- So does handing requests out, as each of them moves from those in flight to those handed out. -/
theorem Intact.handOut {h : History} (intact : h.Intact) {requests : List Request}
    (part : k ⊆ h.ledger) (counter : k.nextSequenceNumber = h.ledger.nextSequenceNumber)
    (balance : h.ledger.requests.Perm (requests ++ k.requests)) :
    Intact ⟨k, h.recorded, h.handedOut ++ requests⟩ where
  filed := intact.filed.of_subset part
  balance := by
    rw [List.append_assoc]
    exact intact.balance.trans (balance.append_left h.handedOut)
  counter := counter.trans intact.counter
  numbered := intact.numbered

/-- Every operation keeps a history intact. -/
theorem Intact.extend {h : History} (intact : h.Intact) (op : Operation) :
    (h.extend op).Intact := by
  have heffect := effect_perform h.ledger op
  unfold History.extend
  generalize h.ledger.perform op = result at heffect ⊢
  cases heffect with
  | rest entered left =>
    dsimp only
    rw [entered, left, List.append_nil, List.append_nil]
    exact intact
  | record asks free ledger =>
    have := intact.record free ledger
    rwa [← List.append_nil h.handedOut] at this
  | handOut part counter balance =>
    have := intact.handOut part counter balance
    rwa [← List.append_nil h.recorded] at this

/-- Every history is intact. -/
theorem intact_of (ops : List Operation) : (of ops).Intact :=
  List.foldlRecOn ops History.extend intact_nil fun _ intact op _ => intact.extend op

namespace Intact

variable {h : History} (intact : h.Intact)
include intact

/-- The numbers go round: the one of a request is its rank, modulo how many of them there are. -/
theorem toNat_number {n : Nat} (hr : h.recorded[n]? = some r) :
    r.sequenceNumber.number.toNat = n % 65536 := by
  rw [intact.numbered n r hr, SequenceNumber.toNat_advance_first]

/-- A request in flight was recorded at some rank. -/
theorem exists_rank {i : Identifier} (hr : h.ledger.find? i = some r) :
    ∃ n : Nat, h.recorded[n]? = some r := by
  refine List.getElem?_of_mem (intact.balance.mem_iff.2 ?_)
  exact List.mem_append_right _ (mem_requests.2 ⟨i, hr⟩)

/-- The ranks of two requests in flight that share a number differ by a positive multiple of
    `65536`. -/
theorem ranks_of_same_number {i j : Identifier} {s : Request} (hij : i ≠ j)
    (hr : h.ledger.find? i = some r) (hs : h.ledger.find? j = some s)
    (hsame : r.sequenceNumber = s.sequenceNumber) {a b : Nat} (ha : h.recorded[a]? = some r)
    (hb : h.recorded[b]? = some s) : ∃ n, 0 < n ∧ (a = b + n * 65536 ∨ b = a + n * 65536) := by
  -- Requests under different identifiers are different, so their ranks are.
  have hne : a ≠ b := by
    rintro rfl
    rw [ha] at hb
    obtain rfl := Option.some.inj hb
    exact hij ((intact.filed i r hr).symm.trans (intact.filed j r hs))
  have hmod : a % 65536 = b % 65536 := by
    rw [← intact.toNat_number ha, ← intact.toNat_number hb, hsame]
  rcases Nat.lt_or_gt_of_ne hne with hlt | hlt
  · exact ⟨(b - a) / 65536, by omega, .inr (by omega)⟩
  · exact ⟨(a - b) / 65536, by omega, .inl (by omega)⟩

end Intact

end History

/-! ## How many requests there can be -/

theorem nodup_keys (l : Ledger) : (l.table.toList.map Prod.fst).Nodup := by
  rw [Std.ExtTreeMap.map_fst_toList_eq_keys]
  exact l.table.distinct_keys.imp fun h e => h (by rw [e]; exact Std.ReflCmp.compare_self)

/-- There are no more requests than identifiers. -/
theorem size_le_count (l : Ledger) : l.size ≤ Identifier.count := by
  have hle := (l.nodup_keys.subperm fun i _ => Identifier.mem_all i).length_le
  rwa [List.length_map, Std.ExtTreeMap.length_toList, Identifier.length_all] at hle

/-- As long as there are fewer requests than identifiers, one of the identifiers is free. -/
theorem isSome_firstFree?_all {l : Ledger} (h : l.size < Identifier.count) :
    (l.firstFree? Identifier.all).isSome = true := by
  refine Option.isSome_iff_ne_none.2 fun hnone => ?_
  -- Otherwise all identifiers would be keys of the table, which has fewer entries.
  have hall : Identifier.all ⊆ l.table.toList.map Prod.fst := fun i hi => by
    have hfound : l.table.contains i = true := by
      simpa [contains] using List.find?_eq_none.1 hnone i hi
    rw [Std.ExtTreeMap.map_fst_toList_eq_keys, Std.ExtTreeMap.mem_keys]
    exact Std.ExtTreeMap.mem_iff_contains.2 hfound
  have hle := (Identifier.nodup_all.subperm hall).length_le
  rw [List.length_map, Std.ExtTreeMap.length_toList, Identifier.length_all] at hle
  exact Nat.not_lt.2 hle h

/-- Requests that are filed under their own identifiers have different ones. -/
theorem nodup_identifiers (filed : l.Filed) :
    (l.requests.map (·.identifier)).Nodup := by
  have hkeys : l.requests.map (·.identifier) = l.table.toList.map Prod.fst := by
    rw [requests, List.map_map]
    exact List.map_congr_left fun pair hr => filed pair.1 pair.2 (mem_toList.1 hr)
  rw [hkeys]
  exact l.nodup_keys

/-- In every history, each request is filed under its own identifier, no two have the same, and
    there are at most `65536`. What was recorded is what was handed out and what is in flight,
    each as often. The request of rank `k` has the number `k` modulo `65536`, so two requests in
    flight share a number only if their ranks differ by a positive multiple of it. What is
    recorded next is what was asked for, and a recording that is refused changes nothing. -/
theorem history_conserves_requests (ops : List Operation) :
    let h := History.of ops
    (h.ledger.Filed ∧ (h.ledger.requests.map (·.identifier)).Nodup ∧ h.ledger.size ≤ 65536) ∧
    h.recorded.Perm (h.handedOut ++ h.ledger.requests) ∧
    (∀ (k : Nat) r, h.recorded[k]? = some r → r.sequenceNumber.number.toNat = k % 65536) ∧
    (∀ i r, h.ledger.find? i = some r → ∃ k : Nat, h.recorded[k]? = some r) ∧
    (∀ i j r s, i ≠ j → h.ledger.find? i = some r → h.ledger.find? j = some s →
      r.sequenceNumber = s.sequenceNumber →
      ∀ a b : Nat, h.recorded[a]? = some r → h.recorded[b]? = some s →
        ∃ n, 0 < n ∧ (a = b + n * 65536 ∨ b = a + n * 65536)) ∧
    (∀ op r, (h.ledger.perform op).1 = .recorded r →
      op.Asks r ∧ (h.ledger.perform op).2.find? r.identifier = some r) ∧
    ∀ op e, (h.ledger.perform op).1 = .refused e → (h.ledger.perform op).2 = h.ledger := by
  intro h
  have intact : h.Intact := History.intact_of ops
  refine ⟨⟨intact.filed, nodup_identifiers intact.filed, size_le_count h.ledger⟩, intact.balance,
    ?_, ?_, ?_, ?_, ?_⟩
  · intro k r hr
    exact intact.toNat_number hr
  · intro i r hr
    exact intact.exists_rank hr
  · intro i j r s hij hr hs hsame a b ha hb
    exact intact.ranks_of_same_number hij hr hs hsame ha hb
  · intro op r hrecorded
    exact perform_of_recorded hrecorded
  · intro op e hrefused
    exact perform_of_refused hrefused

/-- An identifier is refused while it is in flight, is drawn in vain, and is used again. -/
def identifierReused : List Operation :=
  let host : IPv4 := ⟨10, 0, 0, 1⟩
  let later : Instant := ⟨2600, by decide, by decide⟩
  [.insert [⟨5⟩] host .zero, .insertAt ⟨5⟩ host .zero, .insert [⟨5⟩, ⟨6⟩] host later, .take ⟨5⟩,
    .insertAt ⟨5⟩ host .zero, .sweep later .zero]

/-- Of three requests two were handed out, both with the same identifier, so one is in flight. -/
theorem history_conserves_requests_reuse :
    (History.of identifierReused).recorded.map (·.identifier) = [⟨5⟩, ⟨6⟩, ⟨5⟩] ∧
      (History.of identifierReused).handedOut.map (·.sequenceNumber) = [⟨0⟩, ⟨2⟩] ∧
      (History.of identifierReused).ledger.size = 1 := by
  have hrecorded : (History.of identifierReused).recorded.map (·.identifier) =
      [⟨5⟩, ⟨6⟩, ⟨5⟩] := by decide +kernel
  have hhandedOut : (History.of identifierReused).handedOut.map (·.sequenceNumber) =
      [⟨0⟩, ⟨2⟩] := by decide +kernel
  obtain ⟨-, hbalance, -⟩ := history_conserves_requests identifierReused
  have hthree := congrArg List.length hrecorded
  have htwo := congrArg List.length hhandedOut
  have hlength := hbalance.length_eq
  simp only [List.length_map, List.length_append, List.length_cons, List.length_nil,
    length_requests] at hthree htwo hlength
  exact ⟨hrecorded, hhandedOut, by omega⟩

end Ledger

end EchoProbe
