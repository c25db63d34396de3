/-!
# Bytes on the wire

Packets are lists of bytes, most significant byte first. `bigEndian` reads a
number from bytes and `toBigEndian` writes it back:

* `bigEndian_toBigEndian`: writing and reading a number that fits gives it back;
* `toBigEndian_bigEndian`: reading and writing bytes gives them back.
-/

namespace EchoProbe

/-- The contents of a packet. -/
abbrev Bytes := List UInt8

namespace Wire

/-- The 16-bit word of two bytes. -/
def word (high low : UInt8) : UInt16 := UInt16.ofNat (256 * high.toNat + low.toNat)

/-- The more significant byte of a word. -/
def highByte (w : UInt16) : UInt8 := UInt8.ofNat (w.toNat / 256)

/-- The less significant byte of a word. -/
def lowByte (w : UInt16) : UInt8 := UInt8.ofNat w.toNat

theorem toNat_word (high low : UInt8) : (word high low).toNat = 256 * high.toNat + low.toNat := by
  have := high.toNat_lt
  have := low.toNat_lt
  simp only [word, UInt16.toNat_ofNat']
  omega

theorem toNat_highByte (w : UInt16) : (highByte w).toNat = w.toNat / 256 := by
  have := w.toNat_lt
  simp only [highByte, UInt8.toNat_ofNat']
  omega

theorem toNat_lowByte (w : UInt16) : (lowByte w).toNat = w.toNat % 256 := by
  simp only [lowByte, UInt8.toNat_ofNat']

@[simp]
theorem word_highByte_lowByte (w : UInt16) : word (highByte w) (lowByte w) = w := by
  apply UInt16.toNat_inj.1
  rw [toNat_word, toNat_highByte, toNat_lowByte]
  omega

@[simp]
theorem highByte_word (high low : UInt8) : highByte (word high low) = high := by
  have := low.toNat_lt
  apply UInt8.toNat_inj.1
  rw [toNat_highByte, toNat_word]
  omega

@[simp]
theorem lowByte_word (high low : UInt8) : lowByte (word high low) = low := by
  have := low.toNat_lt
  apply UInt8.toNat_inj.1
  rw [toNat_lowByte, toNat_word]
  omega

/-- The number that the bytes spell. -/
def bigEndian (bytes : Bytes) : Nat := bytes.foldl (fun n b => 256 * n + b.toNat) 0

/-- The last `width` bytes of a number. -/
def toBigEndian : (width : Nat) → Nat → Bytes
  | 0, _ => []
  | width + 1, n => toBigEndian width (n / 256) ++ [UInt8.ofNat n]

@[simp]
theorem bigEndian_concat (bytes : Bytes) (b : UInt8) :
    bigEndian (bytes ++ [b]) = 256 * bigEndian bytes + b.toNat := by
  simp [bigEndian]

@[simp]
theorem length_toBigEndian (width n : Nat) : (toBigEndian width n).length = width := by
  induction width generalizing n with
  | zero => rfl
  | succ width ih => simp [toBigEndian, ih]

theorem bigEndian_toBigEndian (width : Nat) {n : Nat} (h : n < Nat.pow 256 width) :
    bigEndian (toBigEndian width n) = n := by
  induction width generalizing n with
  | zero =>
    have : n = 0 := by simpa using h
    simp [toBigEndian, bigEndian, this]
  | succ width ih =>
    have : n / 256 < Nat.pow 256 width := by
      rw [Nat.div_lt_iff_lt_mul (by decide)]
      simpa [Nat.pow_succ] using h
    rw [toBigEndian, bigEndian_concat, ih this, UInt8.toNat_ofNat']
    omega

/-- Reading bytes as a number and writing as many of its bytes gives them back. -/
theorem toBigEndian_bigEndian (bytes : Bytes) :
    toBigEndian bytes.length (bigEndian bytes) = bytes := by
  generalize hn : bytes.length = n
  induction n generalizing bytes with
  | zero => rw [List.length_eq_zero_iff.1 hn]; rfl
  | succ n ih =>
    obtain ⟨rest, b, rfl⟩ : ∃ rest b, bytes = rest ++ [b] :=
      ⟨bytes.dropLast, bytes.getLast (by rintro rfl; simp at hn),
        (List.dropLast_concat_getLast _).symm⟩
    have hb := b.toNat_lt
    have hrest : rest.length = n := by simpa using hn
    rw [bigEndian_concat, toBigEndian,
      show (256 * bigEndian rest + b.toNat) / 256 = bigEndian rest by omega, ih rest hrest]
    congr
    apply UInt8.toNat_inj.1
    rw [UInt8.toNat_ofNat']
    omega

theorem bigEndian_lt (bytes : Bytes) : bigEndian bytes < Nat.pow 256 bytes.length := by
  generalize hn : bytes.length = n
  induction n generalizing bytes with
  | zero => rw [List.length_eq_zero_iff.1 hn]; simp [bigEndian]
  | succ n ih =>
    obtain ⟨rest, b, rfl⟩ : ∃ rest b, bytes = rest ++ [b] :=
      ⟨bytes.dropLast, bytes.getLast (by rintro rfl; simp at hn),
        (List.dropLast_concat_getLast _).symm⟩
    have hb := b.toNat_lt
    have hrest := ih rest (by simpa using hn)
    rw [bigEndian_concat, show Nat.pow 256 (n + 1) = Nat.pow 256 n * 256 from rfl]
    omega

end Wire

end EchoProbe
