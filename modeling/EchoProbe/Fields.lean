/-!
# Header fields

The numbers that an echo message and its IP header carry. A probe is found again
by its `Identifier`; its `SequenceNumber` tells the user which probe it was. The
three are words of different meaning and therefore different types.
-/

namespace EchoProbe

/-- The number of a probe in its run; after the last 16-bit number comes zero. -/
structure SequenceNumber where
  number : UInt16
  deriving DecidableEq, Repr, Inhabited

/-- The number under which a probe in flight is known. -/
structure Identifier where
  number : UInt16
  deriving DecidableEq, Repr, Inhabited

/-- The time to live of an IP packet. -/
structure Ttl where
  hops : UInt8
  deriving DecidableEq, Repr, Inhabited

namespace SequenceNumber

/-- The number of the first probe. -/
def first : SequenceNumber := ⟨0⟩

/-- The number after `n`. -/
def next (n : SequenceNumber) : SequenceNumber := ⟨n.number + 1⟩

/-- The number `k` places after `n`. -/
def advance (n : SequenceNumber) (k : Nat) : SequenceNumber := ⟨n.number + UInt16.ofNat k⟩

instance : Ord SequenceNumber := ⟨fun m n => compare m.number n.number⟩

instance : ToString SequenceNumber := ⟨fun n => toString n.number.toNat⟩

/-- Numbering counts modulo `65536`. -/
theorem toNat_next (n : SequenceNumber) : n.next.number.toNat = (n.number.toNat + 1) % 65536 := by
  simp [next, UInt16.toNat_add]

theorem next_advance (n : SequenceNumber) (k : Nat) : (n.advance k).next = n.advance (k + 1) := by
  simp [next, advance, UInt16.ofNat_add, UInt16.add_assoc]

/-- Less than a round apart, different places have different numbers. -/
theorem advance_inj {n : SequenceNumber} {j k : Nat} (hj : j < 65536) (hk : k < 65536)
    (h : n.advance j = n.advance k) : j = k := by
  have h : UInt16.ofNat j = UInt16.ofNat k := by simpa [advance] using h
  have := congrArg UInt16.toNat h
  rwa [UInt16.toNat_ofNat_of_lt' hj, UInt16.toNat_ofNat_of_lt' hk] at this

/-- Counted from the first probe, the number is the place modulo `65536`. -/
theorem toNat_advance_first (k : Nat) : (first.advance k).number.toNat = k % 65536 := by
  simp [first, advance]

end SequenceNumber

namespace Identifier

instance : Ord Identifier := ⟨fun i j => compare i.number j.number⟩

instance : Std.TransOrd Identifier where
  eq_swap {i j} := Std.OrientedOrd.eq_swap (α := UInt16) (a := i.number) (b := j.number)
  isLE_trans {i j k} h₁ h₂ := Std.TransOrd.isLE_trans (α := UInt16) (a := i.number) (b := j.number)
    (c := k.number) h₁ h₂

instance : Std.LawfulEqOrd Identifier where
  eq_of_compare {i j} h := by
    have : i.number = j.number := Std.LawfulEqOrd.eq_of_compare h
    cases i
    cases j
    congr

instance : ToString Identifier := ⟨fun i => toString i.number.toNat⟩

/-- How many identifiers there are. -/
def count : Nat := 65536

/-- Every identifier, each once, in order. -/
def all : List Identifier := (List.range count).map fun n => ⟨UInt16.ofNat n⟩

theorem mem_all (i : Identifier) : i ∈ all := by
  refine List.mem_map.2 ⟨i.number.toNat, List.mem_range.2 i.number.toNat_lt, ?_⟩
  simp

theorem length_all : all.length = count := by
  rw [all, List.length_map, List.length_range]

theorem nodup_all : all.Nodup := by
  refine List.pairwise_map.2 (List.nodup_range.imp_of_mem ?_)
  intro j k hj hk hne h
  have h := congrArg (·.number.toNat) h
  rw [List.mem_range, count] at hj hk
  simp only [UInt16.toNat_ofNat_of_lt' hj, UInt16.toNat_ofNat_of_lt' hk] at h
  exact hne h

end Identifier

instance : ToString Ttl := ⟨fun t => toString t.hops.toNat⟩

end EchoProbe
