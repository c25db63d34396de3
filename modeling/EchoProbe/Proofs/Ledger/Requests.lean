import EchoProbe.Ledger.Lemmas

/-!
# The requests of a ledger

A ledger as a collection of requests. No operation loses or invents one: what was in the
ledger before is handed out or still in it afterwards, up to order.

* `requests_record`: recording adds one request;
* `requests_erase`: erasing takes one request out;
* `requests_sweep`, `requests_drain`: what is handed out and what is kept make up what was
  there before.

A ledger is *part of* another (`l ⊆ k`) if it finds, under every identifier, nothing or the
same request. Taking out leaves a part; the same operation on a part and on the whole
leaves a part of what it leaves of the whole (`erase_subset_erase`, `sweep_subset_sweep`,
`record_subset_record`).
-/

namespace EchoProbe.Ledger

/-! ## Conservation -/

theorem nodup_toList (l : Ledger) : l.table.toList.Nodup :=
  l.table.distinct_keys_toList.imp fun h e => h (by rw [e]; exact Std.ReflCmp.compare_self)

/-- Pairs that say the same as the table are the table, up to order. -/
theorem toList_perm {l : Ledger} {pairs : List (Identifier × Request)} (hnodup : pairs.Nodup)
    (h : ∀ i r, (i, r) ∈ pairs ↔ l.find? i = some r) : l.table.toList.Perm pairs := by
  rw [List.perm_ext_iff_of_nodup l.nodup_toList hnodup]
  rintro ⟨i, r⟩
  rw [Std.ExtTreeMap.mem_toList_iff_getElem?_eq_some, h]
  rfl

/-- The pairs of the table are what the ledger finds. -/
theorem mem_toList {l : Ledger} {i : Identifier} {r : Request} :
    (i, r) ∈ l.table.toList ↔ l.find? i = some r :=
  Std.ExtTreeMap.mem_toList_iff_getElem?_eq_some

@[simp]
theorem requests_empty : empty.requests = [] := by
  simp [requests, empty]

/-- Recording adds one request. -/
theorem requests_record {l : Ledger} {i : Identifier} (h : l.find? i = none) (target : IPv4)
    (sentAt : Instant) : (l.record i target sentAt).2.requests.Perm
      ((l.record i target sentAt).1 :: l.requests) := by
  -- The identifier is free, so the new pair stands beside the old ones.
  have hnot : ∀ r, (i, r) ∉ l.table.toList := fun r hr => by
    rw [mem_toList, h] at hr
    simp at hr
  have hnodup := List.nodup_cons.2 ⟨hnot (l.record i target sentAt).1, l.nodup_toList⟩
  refine (toList_perm hnodup fun j r => ?_).map Prod.snd
  rw [find?_record, List.mem_cons, mem_toList, Prod.mk.injEq]
  split
  · subst j
    simp [h, eq_comm]
  · simp [Ne.symm ‹_›]

/-- Erasing takes one request out. -/
theorem requests_erase {l : Ledger} {i : Identifier} {r : Request} (h : l.find? i = some r) :
    l.requests.Perm (r :: (l.erase i).requests) := by
  -- The pair is gone, so it stands beside those that are left.
  have hnot : (i, r) ∉ (l.erase i).table.toList := fun hr => by
    rw [mem_toList, find?_erase_self] at hr
    simp at hr
  have hnodup := List.nodup_cons.2 ⟨hnot, nodup_toList _⟩
  refine (toList_perm hnodup fun j s => ?_).map Prod.snd
  rw [List.mem_cons, mem_toList, find?_erase, Prod.mk.injEq]
  split
  · subst j
    simp [h, eq_comm]
  · simp [Ne.symm ‹_›]

/-- Erasing under an identifier that is not in flight changes nothing. -/
theorem erase_of_find?_eq_none {l : Ledger} {i : Identifier} (h : l.find? i = none) :
    l.erase i = l := by
  ext j : 1
  · rw [find?_erase]
    split
    · subst j
      exact h.symm
    · rfl
  · rfl

/-- What a sweep hands out and what it keeps make up what was there. -/
theorem requests_sweep (l : Ledger) (now : Instant) (deadline : Duration) :
    l.requests.Perm ((l.sweep now deadline).1 ++ (l.sweep now deadline).2.requests) := by
  have hkept : (l.sweep now deadline).2.requests =
      l.requests.filter fun r => !r.isExpired now deadline := by
    simp only [requests, sweep, Std.ExtTreeMap.toList_filter, List.filter_map]
    rfl
  -- What is kept is what has not expired, so the two make up a partition.
  rw [hkept]
  exact (List.filter_append_perm (·.isExpired now deadline) l.requests).symm.trans
    ((Request.oldestFirst_perm _).symm.append_right _)

/-- A drain hands out everything. -/
theorem requests_drain (l : Ledger) : l.requests.Perm l.drain.1 :=
  (Request.oldestFirst_perm _).symm

@[simp]
theorem requests_drain_snd (l : Ledger) : l.drain.2.requests = [] := by
  simp [drain, requests]

/-- Erasing makes no ledger larger. -/
theorem size_erase_le (l : Ledger) (i : Identifier) : (l.erase i).size ≤ l.size := by
  rw [← length_requests, ← length_requests]
  cases h : l.find? i with
  | none => exact Nat.le_of_eq (congrArg _ (congrArg requests (erase_of_find?_eq_none h)))
  | some r =>
    rw [(requests_erase h).length_eq]
    exact Nat.le_succ _

/-- What a sweep hands out is no longer in flight. -/
theorem length_sweep (l : Ledger) (now : Instant) (deadline : Duration) :
    (l.sweep now deadline).1.length + (l.sweep now deadline).2.size = l.size := by
  rw [← length_requests, ← length_requests, ← List.length_append]
  exact (requests_sweep l now deadline).length_eq.symm

theorem length_drain (l : Ledger) : l.drain.1.length = l.size :=
  (requests_drain l).length_eq.symm.trans (length_requests l)

@[simp]
theorem size_drain (l : Ledger) : l.drain.2.size = 0 := by
  rw [← length_requests, requests_drain_snd]
  rfl

/-- A sweep that hands nothing out changes nothing. -/
theorem sweep_of_fst_eq_nil {l : Ledger} {now : Instant} {deadline : Duration}
    (h : (l.sweep now deadline).1 = []) : (l.sweep now deadline).2 = l := by
  ext i : 1
  · rw [find?_sweep]
    cases hi : l.find? i with
    | none => rfl
    | some r =>
      have hr : r ∉ (l.sweep now deadline).1 := by simp [h]
      rw [mem_sweep] at hr
      have hfresh : r.isExpired now deadline = false :=
        eq_false_of_ne_true fun hexpired => hr ⟨⟨i, hi⟩, hexpired⟩
      simp [hfresh]
  · rfl

/-- A ledger that has nothing to hand out is drained already. -/
theorem drain_of_fst_eq_nil {l : Ledger} (h : l.drain.1 = []) : l.drain.2 = l := by
  ext i : 1
  · rw [find?_drain]
    cases hi : l.find? i with
    | none => rfl
    | some r => simpa [h] using mem_drain.2 ⟨i, hi⟩
  · rfl

/-! ## Parts of a ledger -/

instance : HasSubset Ledger := ⟨fun l k => ∀ i r, l.find? i = some r → k.find? i = some r⟩

theorem Subset.refl (l : Ledger) : l ⊆ l := fun _ _ h => h

theorem Subset.trans {l k j : Ledger} (h₁ : l ⊆ k) (h₂ : k ⊆ j) : l ⊆ j :=
  fun i r h => h₂ i r (h₁ i r h)

/-- An identifier that is free in a ledger is free in its parts. -/
theorem find?_eq_none_of_subset {l k : Ledger} (h : l ⊆ k) {i : Identifier}
    (hk : k.find? i = none) : l.find? i = none := by
  cases hl : l.find? i with
  | none => rfl
  | some r => simpa [hk] using h i r hl

/-- A ledger without requests finds nothing. -/
theorem find?_eq_none_of_requests {l : Ledger} (h : l.requests = []) (i : Identifier) :
    l.find? i = none := by
  cases hl : l.find? i with
  | none => rfl
  | some r => simpa [h] using mem_requests.2 ⟨i, hl⟩

/-- A part of a ledger without requests has none. -/
theorem requests_eq_nil_of_subset {l k : Ledger} (h : l ⊆ k) (hk : k.requests = []) :
    l.requests = [] := by
  refine List.eq_nil_iff_forall_not_mem.2 fun r hr => ?_
  obtain ⟨i, hi⟩ := mem_requests.1 hr
  simpa [find?_eq_none_of_requests hk i] using h i r hi

/-- Every request is filed under its own identifier. -/
def Filed (l : Ledger) : Prop := ∀ i r, l.find? i = some r → r.identifier = i

theorem Filed.of_subset {l k : Ledger} (filed : k.Filed) (h : l ⊆ k) : l.Filed :=
  fun i r hr => filed i r (h i r hr)

/-- Recording files the new request under its own identifier. -/
theorem Filed.record {l : Ledger} (filed : l.Filed) (i : Identifier) (target : IPv4)
    (sentAt : Instant) : (l.record i target sentAt).2.Filed := by
  intro j r hr
  rw [find?_record] at hr
  split at hr
  · -- It is the request that was just recorded.
    rw [← Option.some.inj hr]
    assumption
  · exact filed j r hr

theorem erase_subset (l : Ledger) (i : Identifier) : l.erase i ⊆ l := fun j r h => by
  rw [find?_erase] at h
  split at h
  · simp at h
  · exact h

theorem sweep_subset (l : Ledger) (now : Instant) (deadline : Duration) :
    (l.sweep now deadline).2 ⊆ l := fun i r h => by
  rw [find?_sweep, Option.filter_eq_some_iff] at h
  exact h.1

theorem drain_subset (l : Ledger) : l.drain.2 ⊆ l := fun i r h => by simp at h

/-- Erasing leaves a part of what it leaves of the whole. -/
theorem erase_subset_erase {l k : Ledger} (h : l ⊆ k) (i : Identifier) : l.erase i ⊆ k.erase i :=
  fun j r hj => by
    rw [find?_erase] at hj ⊢
    split
    · simp [‹i = j›] at hj
    · exact h j r (by simpa [‹¬ i = j›] using hj)

/-- So does a sweep: a request is as old in the part as in the whole. -/
theorem sweep_subset_sweep {l k : Ledger} (h : l ⊆ k) (now : Instant) (deadline : Duration) :
    (l.sweep now deadline).2 ⊆ (k.sweep now deadline).2 := fun i r hr => by
  rw [find?_sweep, Option.filter_eq_some_iff] at hr ⊢
  exact ⟨h i r hr.1, hr.2⟩

/-- And so does recording, if both ledgers are about to give out the same number. -/
theorem record_subset_record {l k : Ledger} (h : l ⊆ k)
    (hn : l.nextSequenceNumber = k.nextSequenceNumber) (i : Identifier) (target : IPv4)
    (sentAt : Instant) : (l.record i target sentAt).2 ⊆ (k.record i target sentAt).2 :=
  fun j r hj => by
    rw [find?_record] at hj ⊢
    split
    · simpa [record, ‹i = j›, hn] using hj
    · exact h j r (by simpa [‹¬ i = j›] using hj)

end EchoProbe.Ledger
