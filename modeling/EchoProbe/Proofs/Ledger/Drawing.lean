import EchoProbe.Proofs.Ledger.History
import Mathlib.Data.Nat.Find

/-!
# Drawing identifiers

A request is recorded under the first drawn identifier that is free. The draws come from outside
and never end, so the search for that identifier ends only if one of them is free; before it
begins, the ledger looks at its size alone.

* `count_le_size_iff`: the size tells whether an identifier is free, as each is in the ledger at
  most once;
* `FreeFirstAt`: where a stream of draws meets the first free identifier. It does so somewhere if
  a free identifier occurs in it at all (`exists_freeFirstAt`);
* `firstFree?_drawn`: the search goes on up to that draw and ends with it;
* `insert_of_freeFirstAt`: what is recorded then;
* `free_identifier_found`: so the search is not begun in a full ledger, and anywhere else it ends
  as soon as a draw is free.
-/

namespace EchoProbe.Ledger

variable {l k : Ledger} {r : Request} {draws : List Identifier} {draw : Nat → Identifier} {n : Nat}

/-! ## Room -/

/-- A ledger holds no more requests than there are identifiers. -/
theorem size_eq_count_iff (l : Ledger) : l.size = Identifier.count ↔ Identifier.count ≤ l.size := by
  have := size_le_count l
  omega

/-- A free identifier would make room for one more request. -/
theorem size_lt_count_of_free {i : Identifier} (free : l.find? i = none) :
    l.size < Identifier.count := by
  have hadded := size_record free .unspecified .zero
  have hle := size_le_count (l.record i .unspecified .zero).2
  omega

/-- The ledger is full exactly if all identifiers are in flight. -/
theorem count_le_size_iff (l : Ledger) :
    Identifier.count ≤ l.size ↔ ∀ i, l.contains i = true := by
  constructor
  · intro full i
    rw [contains_eq_isSome_find?, Option.isSome_iff_ne_none]
    intro free
    exact Nat.not_lt.2 full (size_lt_count_of_free free)
  · intro all
    refine Nat.le_of_not_lt fun room => ?_
    obtain ⟨i, hi⟩ := Option.isSome_iff_exists.1 (isSome_firstFree?_all room)
    have hall := all i
    rw [contains_eq_isSome_find?, firstFree?_eq_some hi] at hall
    cases hall

/-- In a full ledger, no identifier is drawn. -/
theorem insert_of_full (full : Identifier.count ≤ l.size) (draws : List Identifier)
    (target : IPv4) (sentAt : Instant) : l.insert draws target sentAt = .error .full :=
  if_pos full

/-- In a ledger that is not full, a request is recorded under a drawn identifier that is free. -/
theorem insert_of_free (room : l.size ≠ Identifier.count) (free : ∃ i ∈ draws, l.find? i = none)
    (target : IPv4) (sentAt : Instant) :
    ∃ r k, l.insert draws target sentAt = .ok (some (r, k)) := by
  obtain ⟨j, hj, hfree⟩ := free
  have hdrawn : (l.firstFree? draws).isSome = true := by
    rw [firstFree?, List.find?_isSome]
    exact ⟨j, hj, by rw [contains_eq_isSome_find?, hfree]; rfl⟩
  obtain ⟨i, hi⟩ := Option.isSome_iff_exists.1 hdrawn
  rw [insert, if_neg (mt (size_eq_count_iff l).2 room), hi]
  exact ⟨_, _, rfl⟩

/-- Under different identifiers, all of them free, as many requests are recorded. -/
theorem size_insertEach {identifiers : List Identifier} (nodup : identifiers.Nodup)
    (free : ∀ i ∈ identifiers, l.find? i = none) (target : IPv4) (sentAt : Instant) :
    (l.insertEach target sentAt identifiers).2.size = l.size + identifiers.length := by
  induction identifiers generalizing l with
  | nil => rfl
  | cons i rest ih =>
    obtain ⟨hother, hrest⟩ := List.nodup_cons.1 nodup
    have hi : l.find? i = none := free i List.mem_cons_self
    have hinsert : l.insertAt i target sentAt = .ok (l.record i target sentAt) :=
      insertAt_eq_ok_iff.2 ⟨hi, rfl⟩
    -- Recording the first one takes no other identifier.
    have hfree : ∀ j ∈ rest, (l.record i target sentAt).2.find? j = none := by
      intro j hj
      rw [find?_record, if_neg fun (h : i = j) => hother (h ▸ hj)]
      exact free j (List.mem_cons_of_mem _ hj)
    rw [insertEach, hinsert]
    show ((l.record i target sentAt).2.insertEach target sentAt rest).2.size = _
    rw [ih hrest hfree, size_record hi, List.length_cons]
    omega

/-- There is a ledger in which all identifiers are in flight. -/
theorem exists_full : ∃ l : Ledger, l.size = Identifier.count := by
  have hexists : ∀ identifiers : List Identifier, identifiers.Nodup →
      ∃ l : Ledger, l.size = identifiers.length := fun identifiers nodup =>
    ⟨(empty.insertEach default .zero identifiers).2, by
      rw [size_insertEach nodup fun i _ => find?_empty i, size, empty, Std.ExtTreeMap.size_empty,
        Nat.zero_add]⟩
  obtain ⟨l, hl⟩ := hexists Identifier.all Identifier.nodup_all
  exact ⟨l, hl.trans Identifier.length_all⟩

/-! ## The search -/

/-- The first `n` draws. -/
def drawn (draw : Nat → Identifier) (n : Nat) : List Identifier := (List.range n).map draw

/-- Of the draws, the one of number `n` is the first that is free. -/
structure FreeFirstAt (l : Ledger) (draw : Nat → Identifier) (n : Nat) : Prop where
  free : l.find? (draw n) = none
  inFlight : ∀ m < n, l.contains (draw m) = true

/-- If one of the draws is free, there is a first one. -/
theorem exists_freeFirstAt (free : ∃ n, l.find? (draw n) = none) : ∃ n, l.FreeFirstAt draw n := by
  refine ⟨Nat.find free, Nat.find_spec free, fun m hm => ?_⟩
  rw [contains_eq_isSome_find?, Option.isSome_iff_ne_none]
  exact Nat.find_min free hm

/-- The search goes on until the first free draw is made, and ends with it. -/
theorem firstFree?_drawn (first : l.FreeFirstAt draw n) (m : Nat) :
    l.firstFree? (drawn draw m) = if n < m then some (draw n) else none := by
  rw [firstFree?, drawn, List.find?_map]
  split
  · have hfound : (List.range m).find? ((fun i => !l.contains i) ∘ draw) = some n := by
      rw [List.find?_range_eq_some]
      refine ⟨?_, List.mem_range.2 ‹n < m›, fun j hj => ?_⟩
      · simp [contains_eq_isSome_find?, first.free]
      · simp [first.inFlight j hj]
    rw [hfound, Option.map_some]
  · rw [Option.map_eq_none_iff, List.find?_eq_none]
    intro j hj
    have hlt : j < n := Nat.lt_of_lt_of_le (List.mem_range.1 hj) (Nat.le_of_not_lt ‹¬ n < m›)
    simp [first.inFlight j hlt]

/-- Whoever searches records a request under the first free draw, as soon as it is made. -/
theorem insert_of_freeFirstAt (first : l.FreeFirstAt draw n) (target : IPv4) (sentAt : Instant)
    (m : Nat) : l.insert (drawn draw m) target sentAt =
      .ok (if n < m then some (l.record (draw n) target sentAt) else none) := by
  rw [insert, if_neg (Nat.not_le.2 (size_lt_count_of_free first.free)), firstFree?_drawn first]
  split <;> rfl

/-- Without a free draw the search never ends. -/
theorem insert_of_inFlight (room : l.size < Identifier.count)
    (inFlight : ∀ n, l.contains (draw n) = true) (target : IPv4) (sentAt : Instant) (m : Nat) :
    l.insert (drawn draw m) target sentAt = .ok none := by
  have hnone : l.firstFree? (drawn draw m) = none := by
    rw [firstFree?, List.find?_eq_none, drawn]
    intro i hi
    obtain ⟨n, -, rfl⟩ := List.mem_map.1 hi
    simp [inFlight n]
  rw [insert, if_neg (Nat.not_le.2 room), hnone]
  rfl

/-- What recording under a free identifier changes: one request is added, and no other is
    touched. -/
theorem record_adds_one {i : Identifier} {target : IPv4} {sentAt : Instant}
    (free : l.find? i = none) (h : l.record i target sentAt = (r, k)) :
    r = ⟨i, l.nextSequenceNumber, sentAt, target⟩ ∧ k.find? i = some r ∧
      (∀ j, j ≠ i → k.find? j = l.find? j) ∧ k.size = l.size + 1 ∧
      k.nextSequenceNumber = l.nextSequenceNumber.next := by
  have hsize := size_record free target sentAt
  rw [h] at hsize
  have hcounter := nextSequenceNumber_record l i target sentAt
  rw [h] at hcounter
  exact ⟨(congrArg Prod.fst h).symm, find?_of_record h, fun j hj => find?_of_record_ne h hj, hsize,
    hcounter⟩

/-- Recording under a drawn identifier is refused exactly if all of the `65536` identifiers are in
    flight, which the size of the ledger tells, and then nothing is changed, whatever is drawn. If
    there are fewer requests, some identifier is free. Of any stream of draws in which a free one
    occurs, the first free one is then taken as soon as it is drawn: not before, and whatever comes
    after it. One request is added under it, with the next number, and no other is touched. Only a
    stream in which none occurs is drawn from for ever. -/
theorem free_identifier_found (l : Ledger) (target : IPv4) (sentAt : Instant) :
    (l.size ≤ 65536 ∧ (l.size = 65536 ↔ ∀ i, l.contains i = true)) ∧
    (∀ draws e, (l.perform (.insert draws target sentAt)).1 = .refused e ↔
      e = .full ∧ ∀ i, l.contains i = true) ∧
    (∀ draws e, (l.perform (.insert draws target sentAt)).1 = .refused e →
      (l.perform (.insert draws target sentAt)).2 = l) ∧
    (l.size < 65536 → (∃ i, l.find? i = none) ∧
      ∀ draw : Nat → Identifier,
        ((∀ n, l.contains (draw n) = true) →
          ∀ m, l.perform (.insert (drawn draw m) target sentAt) = (.undecided, l)) ∧
        ((∃ n, l.find? (draw n) = none) → ∃ n r k,
          (l.find? (draw n) = none ∧ ∀ m < n, l.contains (draw m) = true) ∧
          (∀ m, l.perform (.insert (drawn draw m) target sentAt) =
            if n < m then (.recorded r, k) else (.undecided, l)) ∧
          r = ⟨draw n, l.nextSequenceNumber, sentAt, target⟩ ∧
          k.find? (draw n) = some r ∧ (∀ i, i ≠ draw n → k.find? i = l.find? i) ∧
          k.size = l.size + 1 ∧ k.nextSequenceNumber = l.nextSequenceNumber.next)) := by
  refine ⟨⟨size_le_count l, (size_eq_count_iff l).trans (count_le_size_iff l)⟩, ?_,
    fun _ _ h => perform_of_refused h, fun room => ⟨?_, fun draw => ⟨?_, fun free => ?_⟩⟩⟩
  · intro draws e
    rw [← count_le_size_iff, perform, insert]
    by_cases full : Identifier.count ≤ l.size
    · simp [full, eq_comm]
    · cases l.firstFree? draws <;> simp [full]
  · obtain ⟨i, hi⟩ := Option.isSome_iff_exists.1 (isSome_firstFree?_all room)
    exact ⟨i, firstFree?_eq_some hi⟩
  · intro inFlight m
    rw [perform, insert_of_inFlight room inFlight]
  · obtain ⟨n, first⟩ := exists_freeFirstAt free
    rcases hrecord : l.record (draw n) target sentAt with ⟨r, k⟩
    refine ⟨n, r, k, ⟨first.free, first.inFlight⟩, fun m => ?_, record_adds_one first.free hrecord⟩
    rw [perform, insert_of_freeFirstAt first, hrecord]
    by_cases hm : n < m
    · rw [if_pos hm, if_pos hm]
    · rw [if_neg hm, if_neg hm]

/-- With one identifier left, drawing them all in turn meets it after `40000` draws in vain. Then
    the ledger is full, and refuses another request. -/
theorem free_identifier_found_lastOne :
    let draw (n : Nat) : Identifier := ⟨.ofNat n⟩
    ∃ l : Ledger, l.size < 65536 ∧ l.find? (draw 40000) = none ∧
      l.perform (.insert (drawn draw 40000) .unspecified .zero) = (.undecided, l) ∧
      ∃ r k, l.perform (.insert (drawn draw 40001) .unspecified .zero) = (.recorded r, k) ∧
        r.identifier = ⟨40000⟩ ∧ k.size = 65536 ∧
        k.perform (.insert [⟨40000⟩] .unspecified .zero) = (.refused .full, k) := by
  intro draw
  obtain ⟨full, hfull⟩ := exists_full
  have hall := (count_le_size_iff full).1 (Nat.le_of_eq hfull.symm)
  have hfree : (full.erase (draw 40000)).find? (draw 40000) = none := find?_erase_self _ _
  have hothers (m : Nat) (hm : m < 40000) : (full.erase (draw 40000)).contains (draw m) = true := by
    have hne : draw 40000 ≠ draw m := fun h => by
      have hnumber := congrArg (·.number.toNat) h
      simp only [draw, UInt16.toNat_ofNat_of_lt' (show m < 65536 by omega)] at hnumber
      exact Nat.ne_of_gt hm hnumber
    rw [contains_eq_isSome_find?, find?_erase, if_neg hne, ← contains_eq_isSome_find?]
    exact hall _
  obtain ⟨-, -, -, hsearch⟩ :=
    free_identifier_found (full.erase (draw 40000)) .unspecified .zero
  have hroom : (full.erase (draw 40000)).size < 65536 := size_lt_count_of_free hfree
  obtain ⟨-, hfound⟩ := hsearch hroom
  obtain ⟨n, r, k, ⟨hn, hbefore⟩, hperform, rfl, -, -, hsize, -⟩ :=
    (hfound draw).2 ⟨40000, hfree⟩
  -- The draws before it are in flight, and it is not among those before the first free one.
  have hlast : n = 40000 := by
    rcases Nat.lt_trichotomy n 40000 with hlt | heq | hgt
    · have hcontains := hothers n hlt
      rw [contains_eq_isSome_find?, hn] at hcontains
      cases hcontains
    · exact heq
    · have hcontains := hbefore 40000 hgt
      rw [contains_eq_isSome_find?, hfree] at hcontains
      cases hcontains
  subst hlast
  obtain ⟨⟨-, hcount⟩, hrefused, hkept, -⟩ := free_identifier_found k .unspecified .zero
  have hkfull : k.size = 65536 := by
    obtain ⟨s, hs⟩ := Option.isSome_iff_exists.1
      ((contains_eq_isSome_find? full (draw 40000)).symm.trans (hall _))
    have hlength := (requests_erase hs).length_eq
    rw [List.length_cons, length_requests, length_requests] at hlength
    rw [hsize, ← hlength]
    exact hfull
  have hfirst := (hrefused [⟨40000⟩] .full).2 ⟨rfl, hcount.1 hkfull⟩
  exact ⟨_, hroom, hfree, hperform 40000, _, k, hperform 40001, rfl, hkfull,
    Prod.ext hfirst (hkept _ _ hfirst)⟩

end EchoProbe.Ledger
