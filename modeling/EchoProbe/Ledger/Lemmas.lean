import EchoProbe.Ledger

/-!
# What the operations do to the ledger

A ledger is determined by what it finds under each identifier and by its counter
(`Ledger.ext`). For each operation, these laws say what is found afterwards.

* `find?_record`: recording adds one request, which is found under its identifier;
* `find?_erase`: erasing removes one request and no other;
* `find?_sweep`, `mem_sweep`: sweeping hands out what has expired and keeps the rest;
* `find?_drain`, `mem_drain`: draining hands out everything and keeps nothing.

Only recording moves the counter, and it moves it by one.
-/

namespace EchoProbe.Ledger

/-- Ledgers that find the same requests and count alike are equal. -/
@[ext]
theorem ext {l k : Ledger} (h : ∀ i, l.find? i = k.find? i)
    (hn : l.nextSequenceNumber = k.nextSequenceNumber) : l = k := by
  have : l.table = k.table := Std.ExtTreeMap.ext_getElem? fun i => h i
  cases l
  cases k
  congr

@[simp]
theorem find?_empty (i : Identifier) : empty.find? i = none := by
  simp [find?, empty]

theorem contains_eq_isSome_find? (l : Ledger) (i : Identifier) :
    l.contains i = (l.find? i).isSome :=
  Std.ExtTreeMap.contains_eq_isSome_getElem?

theorem mem_requests {l : Ledger} {r : Request} :
    r ∈ l.requests ↔ ∃ i, l.find? i = some r := by
  simp only [requests, List.mem_map, Prod.exists, exists_eq_right, find?]
  exact exists_congr fun i => Std.ExtTreeMap.mem_toList_iff_getElem?_eq_some

@[simp]
theorem length_requests (l : Ledger) : l.requests.length = l.size := by
  rw [requests, List.length_map, Std.ExtTreeMap.length_toList]
  rfl

/-! ## Recording -/

theorem find?_record (l : Ledger) (i j : Identifier) (target : IPv4) (sentAt : Instant) :
    (l.record i target sentAt).2.find? j =
      if i = j then some (l.record i target sentAt).1 else l.find? j := by
  simp [record, find?, Std.ExtTreeMap.getElem?_insert]

/-- A request is found as it was recorded. -/
theorem find?_of_record {l k : Ledger} {i : Identifier} {target : IPv4} {sentAt : Instant}
    {r : Request} (h : l.record i target sentAt = (r, k)) : k.find? i = some r := by
  have hfound := find?_record l i i target sentAt
  rwa [h, if_pos rfl] at hfound

/-- No other request is touched by a recording. -/
theorem find?_of_record_ne {l k : Ledger} {i j : Identifier} {target : IPv4} {sentAt : Instant}
    {r : Request} (h : l.record i target sentAt = (r, k)) (hj : j ≠ i) : k.find? j = l.find? j := by
  have hfound := find?_record l i j target sentAt
  rwa [h, if_neg (Ne.symm hj)] at hfound

@[simp]
theorem nextSequenceNumber_record (l : Ledger) (i : Identifier) (target : IPv4) (sentAt : Instant) :
    (l.record i target sentAt).2.nextSequenceNumber = l.nextSequenceNumber.next := rfl

/-- Under a free identifier, a recording adds one request. -/
theorem size_record {l : Ledger} {i : Identifier} (h : l.find? i = none) (target : IPv4)
    (sentAt : Instant) : (l.record i target sentAt).2.size = l.size + 1 := by
  have : i ∉ l.table := by
    rw [Std.ExtTreeMap.mem_iff_contains, ← contains, contains_eq_isSome_find?, h]
    simp
  simp [record, size, Std.ExtTreeMap.size_insert, this]

/-- A request is recorded under a given identifier exactly when that is free. -/
theorem insertAt_eq_ok_iff {l k : Ledger} {i : Identifier} {target : IPv4} {sentAt : Instant}
    {r : Request} :
    l.insertAt i target sentAt = .ok (r, k) ↔
      l.find? i = none ∧ l.record i target sentAt = (r, k) := by
  simp only [insertAt, contains_eq_isSome_find?]
  cases l.find? i <;> simp

/-- The search ends with a free identifier. -/
theorem firstFree?_eq_some {l : Ledger} {draws : List Identifier} {i : Identifier}
    (h : l.firstFree? draws = some i) : l.find? i = none := by
  have := List.find?_some h
  simpa [contains_eq_isSome_find?] using this

/-- A request is only ever recorded under a free identifier. -/
theorem insert_eq_ok {l k : Ledger} {draws : List Identifier} {target : IPv4} {sentAt : Instant}
    {r : Request} (h : l.insert draws target sentAt = .ok (some (r, k))) :
    l.find? r.identifier = none ∧ l.record r.identifier target sentAt = (r, k) := by
  simp only [insert] at h
  split at h
  · simp at h
  · simp only [Except.ok.injEq, Option.map_eq_some_iff] at h
    obtain ⟨i, hi, hr⟩ := h
    have : r.identifier = i := (congrArg (·.1.identifier) hr).symm
    exact ⟨this ▸ firstFree?_eq_some hi, this ▸ hr⟩

/-! ## Taking out -/

theorem find?_erase (l : Ledger) (i j : Identifier) :
    (l.erase i).find? j = if i = j then none else l.find? j := by
  simp [erase, find?, Std.ExtTreeMap.getElem?_erase]

@[simp]
theorem find?_erase_self (l : Ledger) (i : Identifier) : (l.erase i).find? i = none := by
  rw [find?_erase, if_pos rfl]

@[simp]
theorem nextSequenceNumber_erase (l : Ledger) (i : Identifier) :
    (l.erase i).nextSequenceNumber = l.nextSequenceNumber := rfl

/-- What is found is handed out and taken out of the ledger. -/
theorem take?_eq_some_iff {l k : Ledger} {i : Identifier} {r : Request} :
    l.take? i = some (r, k) ↔ l.find? i = some r ∧ k = l.erase i := by
  simp only [take?, Option.map_eq_some_iff, Prod.mk.injEq]
  constructor
  · rintro ⟨r', h, rfl, rfl⟩
    exact ⟨h, rfl⟩
  · rintro ⟨h, rfl⟩
    exact ⟨r, h, rfl, rfl⟩

theorem take?_eq_none_iff {l : Ledger} {i : Identifier} : l.take? i = none ↔ l.find? i = none := by
  simp [take?]

theorem find?_sweep (l : Ledger) (now : Instant) (deadline : Duration) (i : Identifier) :
    (l.sweep now deadline).2.find? i =
      (l.find? i).filter fun r => !r.isExpired now deadline := by
  simp [sweep, find?]

theorem mem_sweep {l : Ledger} {now : Instant} {deadline : Duration} {r : Request} :
    r ∈ (l.sweep now deadline).1 ↔ (∃ i, l.find? i = some r) ∧ r.isExpired now deadline := by
  rw [sweep, (Request.oldestFirst_perm _).mem_iff, List.mem_filter, mem_requests]

@[simp]
theorem nextSequenceNumber_sweep (l : Ledger) (now : Instant) (deadline : Duration) :
    (l.sweep now deadline).2.nextSequenceNumber = l.nextSequenceNumber := rfl

@[simp]
theorem find?_drain (l : Ledger) (i : Identifier) : l.drain.2.find? i = none := by
  simp [drain, find?]

theorem mem_drain {l : Ledger} {r : Request} : r ∈ l.drain.1 ↔ ∃ i, l.find? i = some r := by
  rw [drain, (Request.oldestFirst_perm _).mem_iff, mem_requests]

@[simp]
theorem nextSequenceNumber_drain (l : Ledger) :
    l.drain.2.nextSequenceNumber = l.nextSequenceNumber :=
  rfl

end EchoProbe.Ledger
