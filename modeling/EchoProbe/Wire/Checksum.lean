import EchoProbe.Wire.Bytes

/-!
# The Internet checksum

A message is summed as 16-bit words in one's-complement arithmetic: a carry out
of the top bit is added back at the bottom. An odd last byte is the more
significant byte of a word whose other byte is zero. The checksum of a message is
the complement of the sum of all its words but the checksum word itself.

`toNat_onesSum` gives the sum in closed form: zero only if every word is zero,
else the residue of the plain sum (`total`) modulo `65535` in `1, …, 65535`.
-/

namespace EchoProbe.Wire

/-- The 16-bit words of a message. -/
def words : Bytes → List UInt16
  | [] => []
  | [b] => [word b 0]
  | high :: low :: rest => word high low :: words rest

/-- The one's-complement sum of two words: a carry comes back at the bottom. -/
def onesAdd (a b : UInt16) : UInt16 :=
  let total := a.toNat + b.toNat
  UInt16.ofNat (total / 65536 + total % 65536)

/-- The one's-complement sum of words. -/
def onesSum (ws : List UInt16) : UInt16 := ws.foldl onesAdd 0

/-- The plain sum of words. -/
def total (ws : List UInt16) : Nat := ws.foldr (fun w n => w.toNat + n) 0

@[simp]
theorem total_nil : total [] = 0 := rfl

@[simp]
theorem total_cons (w : UInt16) (ws : List UInt16) : total (w :: ws) = w.toNat + total ws := rfl

/-- The place of the checksum among the words of a message. -/
def checksumIndex : Nat := 1

/-- The checksum that a message should carry. -/
def checksum (message : Bytes) : UInt16 := ~~~ onesSum ((words message).eraseIdx checksumIndex)

/-- The message with its own checksum written into it, if it is long enough to
    carry one. -/
def sealed : Bytes → Bytes
  | type :: code :: high :: low :: rest =>
    let sum := checksum (type :: code :: high :: low :: rest)
    type :: code :: highByte sum :: lowByte sum :: rest
  | short => short

theorem toNat_onesAdd (a b : UInt16) :
    (onesAdd a b).toNat = (a.toNat + b.toNat) / 65536 + (a.toNat + b.toNat) % 65536 := by
  have := a.toNat_lt
  have := b.toNat_lt
  simp only [onesAdd, UInt16.toNat_ofNat']
  omega

/-- The sum is zero only of zero words; otherwise it is the residue of the plain
    sum modulo `65535`, with `65535` in the place of zero. -/
theorem toNat_onesSum (ws : List UInt16) :
    (onesSum ws).toNat =
      if total ws = 0 then 0 else (total ws - 1) % 65535 + 1 := by
  suffices h : ∀ acc : UInt16, (ws.foldl onesAdd acc).toNat =
      if acc.toNat + total ws = 0 then 0 else (acc.toNat + total ws - 1) % 65535 + 1 by
    simpa [onesSum] using h 0
  induction ws with
  | nil =>
    intro acc
    have := acc.toNat_lt
    show acc.toNat = if acc.toNat = 0 then 0 else (acc.toNat - 1) % 65535 + 1
    split <;> omega
  | cons w ws ih =>
    intro acc
    have := acc.toNat_lt
    have := w.toNat_lt
    rw [List.foldl_cons, ih, toNat_onesAdd, total_cons]
    generalize total ws = rest
    split <;> split <;> omega

end EchoProbe.Wire
