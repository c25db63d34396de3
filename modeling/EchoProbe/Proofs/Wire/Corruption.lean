import EchoProbe.Proofs.Wire.Verification

/-!
# Corrupted messages

A message arrives with one of its words changed. Sums in one's-complement arithmetic tell any two
words apart but the two zeros, all ones and no ones. So the corruption is found unless it turns the
one into the other (`TwoZeros`), and a change of a single byte never does.

* `CorruptedAt`: the messages differ in one word alone;
* `CorruptedAt.unnoticed_iff`: a message that was accepted is still accepted exactly if a word
  other than its checksum turned from one zero into the other, and there is more to sum;
* `corrupted_word_refused`: all other corruptions of one word are found, a change of one byte or
  of one bit among them. The message is then malformed, and no probe is touched.
-/

namespace EchoProbe.Wire

variable {bytes corrupted : Bytes} {j : Nat}

/-! ## Words in their places -/

/-- The word at a place of a message. A byte that is missing counts as zero. -/
def wordAt (bytes : Bytes) (j : Nat) : UInt16 :=
  word (bytes.getD (2 * j) 0) (bytes.getD (2 * j + 1) 0)

/-- The words of a message are those at its places, up to its end. -/
theorem getElem?_words (bytes : Bytes) (j : Nat) :
    (words bytes)[j]? = if 2 * j < bytes.length then some (wordAt bytes j) else none := by
  -- Along the reading of the words, two bytes at a time; the last one may lack its low byte.
  fun_induction words bytes generalizing j with
  | case1 => rfl
  | case2 b =>
    cases j with
    | zero => rfl
    | succ j => rw [if_neg (by simp only [List.length_singleton]; omega)]; rfl
  | case3 high low rest ih =>
    cases j with
    | zero => rfl
    | succ j =>
      rw [List.getElem?_cons_succ, ih]
      simp only [List.length_cons]
      exact if_congr (by omega) rfl rfl

/-- The word in the place of the checksum is the one that is carried. -/
theorem wordAt_checksumIndex (h : 4 ≤ bytes.length) : wordAt bytes checksumIndex = carried bytes := by
  match bytes, h with
  | type :: code :: high :: low :: body, _ => rfl

/-- The messages are of one length and not the same, and differ only in the bytes of one word. -/
structure CorruptedAt (j : Nat) (bytes corrupted : Bytes) : Prop where
  length : corrupted.length = bytes.length
  elsewhere : ∀ i, i / 2 ≠ j → corrupted[i]? = bytes[i]?
  differ : corrupted ≠ bytes

namespace CorruptedAt

variable (h : CorruptedAt j bytes corrupted)
include h

/-- The other words are the same. -/
theorem wordAt_eq {k : Nat} (hk : k ≠ j) : wordAt corrupted k = wordAt bytes k := by
  simp only [wordAt, List.getD_eq_getElem?_getD]
  rw [h.elsewhere (2 * k) (by omega), h.elsewhere (2 * k + 1) (by omega)]

/-- The word itself is not: were both bytes the same, the messages would be. -/
theorem wordAt_ne : wordAt corrupted j ≠ wordAt bytes j := by
  intro heq
  have hbytes (i : Nat) : corrupted.getD i 0 = bytes.getD i 0 := by
    by_cases hi : i / 2 = j
    · -- One of the two bytes of the word.
      have hhigh := congrArg highByte heq
      have hlow := congrArg lowByte heq
      simp only [wordAt, highByte_word, lowByte_word] at hhigh hlow
      obtain rfl | rfl : i = 2 * j ∨ i = 2 * j + 1 := by omega
      · exact hhigh
      · exact hlow
    · rw [List.getD_eq_getElem?_getD, List.getD_eq_getElem?_getD, h.elsewhere i hi]
  refine h.differ (List.ext_getElem h.length fun i hi hi' => ?_)
  have hbyte := hbytes i
  rwa [List.getD_eq_getElem?_getD, List.getD_eq_getElem?_getD, List.getElem?_eq_getElem hi,
    List.getElem?_eq_getElem hi'] at hbyte

/-- The corruption lies within the message. -/
theorem lt_length : 2 * j < bytes.length := by
  by_contra hge
  -- Behind the end, there is no byte in either message that could differ.
  refine h.differ (List.ext_getElem? fun i => ?_)
  by_cases hi : i / 2 = j
  · have hlength := h.length
    rw [List.getElem?_eq_none (by omega), List.getElem?_eq_none (by omega)]
  · exact h.elsewhere i hi

theorem getElem?_words_eq : (words bytes)[j]? = some (wordAt bytes j) := by
  rw [getElem?_words, if_pos h.lt_length]

/-- The words of the corrupted message are those of the message, with one of them set. -/
theorem words_eq : words corrupted = (words bytes).set j (wordAt corrupted j) := by
  refine List.ext_getElem? fun k => ?_
  rw [getElem?_words, h.length]
  by_cases hk : k = j
  · subst hk
    rw [if_pos h.lt_length,
      List.getElem?_set_self (List.getElem?_eq_some_iff.1 h.getElem?_words_eq).1]
  · rw [List.getElem?_set_ne (Ne.symm hk), getElem?_words, h.wordAt_eq hk]

end CorruptedAt

/-! ## Sums -/

/-- Sums are the same exactly if the plain sums have the same residue, and both or none are
    zero. -/
theorem onesSum_eq_iff {vs ws : List UInt16} :
    onesSum vs = onesSum ws ↔ total vs % 65535 = total ws % 65535 ∧ (total vs = 0 ↔ total ws = 0) := by
  rw [← UInt16.toNat_inj, toNat_onesSum, toNat_onesSum]
  split <;> split <;> omega

/-- Setting one word moves the sum by the difference. -/
theorem total_set {ws : List UInt16} {v : UInt16} (h : ws[j]? = some v) (w : UInt16) :
    total (ws.set j w) + v.toNat = total ws + w.toNat := by
  induction ws generalizing j with
  | nil => cases h
  | cons u ws ih =>
    cases j with
    | zero =>
      obtain rfl := Option.some.inj h
      rw [List.set_cons_zero, total_cons, total_cons]
      omega
    | succ j =>
      have htail := ih h
      rw [List.set_cons_succ, total_cons, total_cons]
      omega

/-- One of the words is zero, and the other one all ones. -/
def TwoZeros (v w : UInt16) : Prop := v = 0 ∧ w = 0xFFFF ∨ v = 0xFFFF ∧ w = 0

instance (v w : UInt16) : Decidable (TwoZeros v w) := inferInstanceAs (Decidable (_ ∨ _))

/-- The two zeros as numbers: 0 and 65535 leave the same residue. -/
theorem twoZeros_iff {v w : UInt16} :
    TwoZeros v w ↔ v.toNat = 0 ∧ w.toNat = 65535 ∨ v.toNat = 65535 ∧ w.toNat = 0 := by
  simp only [TwoZeros, ← UInt16.toNat_inj]
  rfl

/-- The two zeros have no byte in common. -/
theorem TwoZeros.bytes_ne {high low high' low' : UInt8}
    (h : TwoZeros (word high low) (word high' low')) : high ≠ high' ∧ low ≠ low' := by
  have hhigh := highByte_word high low
  have hlow := lowByte_word high low
  have hhigh' := highByte_word high' low'
  have hlow' := lowByte_word high' low'
  obtain ⟨hv, hw⟩ | ⟨hv, hw⟩ := h
  all_goals
    rw [hv] at hhigh hlow
    rw [hw] at hhigh' hlow'
    subst hhigh hlow hhigh' hlow'
    decide

/-! ## Corruptions of one word -/

namespace CorruptedAt

variable (h : CorruptedAt j bytes corrupted)
include h

/-- The checksum itself is changed: what it should be is not. -/
theorem covered_eq (hj : j = checksumIndex) : covered corrupted = covered bytes := by
  subst hj
  rw [covered, h.words_eq, List.eraseIdx_set_eq]
  rfl

theorem four_le_length (hlength : 4 ≤ bytes.length) : 4 ≤ corrupted.length := h.length ▸ hlength

/-- Then the checksum that is carried is another one. -/
theorem carried_ne (hlength : 4 ≤ bytes.length) (hj : j = checksumIndex) :
    carried corrupted ≠ carried bytes := by
  rw [← wordAt_checksumIndex hlength, ← wordAt_checksumIndex (h.four_le_length hlength), ← hj]
  exact h.wordAt_ne

/-- Another word is changed: the checksum stays, and the sum moves with the word. -/
theorem carried_eq (hlength : 4 ≤ bytes.length) (hj : j ≠ checksumIndex) :
    carried corrupted = carried bytes := by
  rw [← wordAt_checksumIndex hlength, ← wordAt_checksumIndex (h.four_le_length hlength)]
  exact h.wordAt_eq (Ne.symm hj)

/-- The sum of the words that the checksum covers moves by the difference. -/
theorem total_covered (hlength : 4 ≤ bytes.length) (hj : j ≠ checksumIndex) :
    total (covered corrupted) + (wordAt bytes j).toNat =
      total (covered bytes) + (wordAt corrupted j).toNat := by
  have hall := total_set h.getElem?_words_eq (wordAt corrupted j)
  rw [← h.words_eq, total_words hlength, total_words (h.four_le_length hlength),
    h.carried_eq hlength hj] at hall
  omega

/-- A message that carries its checksum still does so exactly if one of its other words turned from
    one zero into the other, and there is a word to sum before and after. -/
theorem unnoticed_iff (hlength : 4 ≤ bytes.length) (accepted : checksum bytes = carried bytes) :
    checksum corrupted = carried corrupted ↔
      j ≠ checksumIndex ∧ TwoZeros (wordAt bytes j) (wordAt corrupted j) ∧
        total (covered bytes) ≠ 0 ∧ total (covered corrupted) ≠ 0 := by
  by_cases hj : j = checksumIndex
  · -- The sum is what it was, but another checksum is carried.
    have hne := h.carried_ne hlength hj
    rw [checksum_eq, h.covered_eq hj, ← checksum_eq, accepted]
    exact iff_of_false (Ne.symm hne) fun hothers => hothers.1 hj
  · -- The checksum is what it was, so the sums must agree: their residues, and whether they are
    -- zero. The words differ by less than 65536, so only the two zeros do that.
    have hmoved := h.total_covered hlength hj
    have hne : (wordAt corrupted j).toNat ≠ (wordAt bytes j).toNat := fun heq =>
      h.wordAt_ne (UInt16.toNat_inj.1 heq)
    have hbefore := (wordAt bytes j).toNat_lt
    have hafter := (wordAt corrupted j).toNat_lt
    rw [h.carried_eq hlength hj, ← accepted, checksum_eq, checksum_eq, UInt16.not_inj,
      onesSum_eq_iff, twoZeros_iff]
    omega

end CorruptedAt

/-! ## One byte -/

/-- The message with another byte in one place is corrupted in the word of this place. -/
theorem corruptedAt_set {i : Nat} {a b : UInt8} (ha : bytes[i]? = some a) (hne : b ≠ a) :
    CorruptedAt (i / 2) bytes (bytes.set i b) where
  length := List.length_set
  elsewhere k hk := List.getElem?_set_ne fun hik => hk (congrArg (· / 2) hik.symm)
  differ heq := by
    have hb := List.getElem?_set_self (List.getElem?_eq_some_iff.1 ha).1 (a := b)
    rw [heq, ha] at hb
    exact hne (Option.some.inj hb).symm

/-- No single byte turns one zero into the other. -/
theorem not_twoZeros_set (bytes : Bytes) (i : Nat) (b : UInt8) :
    ¬ TwoZeros (wordAt bytes (i / 2)) (wordAt (bytes.set i b) (i / 2)) := by
  intro hzeros
  obtain ⟨hhigh, hlow⟩ := hzeros.bytes_ne
  -- The other byte of the word is the same before and after.
  have hother (k : Nat) (hk : i ≠ k) : bytes.getD k 0 = (bytes.set i b).getD k 0 := by
    rw [List.getD_eq_getElem?_getD, List.getD_eq_getElem?_getD, List.getElem?_set_ne hk]
  obtain hi | hi : i = 2 * (i / 2) ∨ i = 2 * (i / 2) + 1 := by omega
  · exact hlow (hother _ (by omega))
  · exact hhigh (hother _ (by omega))

/-- The message with one bit of one byte turned. -/
def flipped (bytes : Bytes) (i : Nat) (k : Fin 8) : Bytes :=
  bytes.modify i (· ^^^ (1 <<< UInt8.ofNat k.val))

/-- To turn a bit is to set its byte. -/
theorem flipped_eq_set {i : Nat} {a : UInt8} (ha : bytes[i]? = some a) (k : Fin 8) :
    flipped bytes i k = bytes.set i (a ^^^ (1 <<< UInt8.ofNat k.val)) := by
  rw [flipped, List.modify_eq_set, ha]
  rfl

/-- A byte with one bit turned is another byte. -/
theorem flip_ne (a : UInt8) (k : Fin 8) : a ^^^ (1 <<< UInt8.ofNat k.val) ≠ a := by
  have hbit : ∀ k : Fin 8, (1 : UInt8) <<< UInt8.ofNat k.val ≠ 0 := by decide
  exact fun heq => hbit k ((UInt8.xor_right_inj a).1 (heq.trans UInt8.xor_zero.symm))

/-! ## Refused messages -/

/-- The message is refused for its checksum. As a packet it is malformed, and it leaves every
    ledger as it was. -/
def Refused (message : Bytes) : Prop :=
  ∃ received computed, decode message = .error (.checksum received computed) ∧
    ∀ (l : Ledger) (p : Packet), p.bytes = message →
      (l.classify p).outcome =
        p.failure (.malformed (DecodeError.checksum received computed).message) none ∧
      (l.classify p).ledger = l

/-- What does not carry its checksum is refused. -/
theorem refused_of_checksum_ne (h : 4 ≤ bytes.length) (hne : checksum bytes ≠ carried bytes) :
    Refused bytes := by
  have hdecode := (decode_eq_checksum_iff h).2 ⟨hne, rfl, rfl⟩
  refine ⟨_, _, hdecode, fun l p hp => ?_⟩
  rw [Ledger.classify, hp, hdecode]
  exact ⟨rfl, rfl⟩

/-- A message of four bytes or more that is not refused for its checksum is refused once a single
    word of it is changed, unless one zero of one's-complement arithmetic is turned into the other.
    In particular, it is refused once a single byte is changed, or a single bit. -/
theorem corrupted_word_refused {bytes : Bytes} (h : 4 ≤ bytes.length)
    (accepted : ∀ received computed, decode bytes ≠ .error (.checksum received computed)) :
    (∀ j corrupted, CorruptedAt j bytes corrupted →
      ¬ TwoZeros (wordAt bytes j) (wordAt corrupted j) → Refused corrupted) ∧
    (∀ i a b, bytes[i]? = some a → b ≠ a → Refused (bytes.set i b)) ∧
    (∀ i k, i < bytes.length → Refused (flipped bytes i k)) := by
  -- A message that is not refused for its checksum carries it. From there on, all is about one
  -- word, of which a byte is a part, and a bit a part of that.
  have hcarried : checksum bytes = carried bytes := by
    by_contra hne
    exact accepted _ _ ((decode_eq_checksum_iff h).2 ⟨hne, rfl, rfl⟩)
  have hword (j : Nat) (corrupted : Bytes) (hc : CorruptedAt j bytes corrupted)
      (hzeros : ¬ TwoZeros (wordAt bytes j) (wordAt corrupted j)) : Refused corrupted :=
    refused_of_checksum_ne (hc.four_le_length h) fun heq =>
      hzeros ((hc.unnoticed_iff h hcarried).1 heq).2.1
  have hbyte (i : Nat) (a b : UInt8) (ha : bytes[i]? = some a) (hne : b ≠ a) :
      Refused (bytes.set i b) :=
    hword _ _ (corruptedAt_set ha hne) (not_twoZeros_set bytes i b)
  refine ⟨hword, hbyte, fun i k hi => ?_⟩
  have ha := List.getElem?_eq_getElem hi
  rw [flipped_eq_set ha]
  exact hbyte i _ _ ha (flip_ne _ k)

/-- An echo reply of nine bytes. -/
def oddEcho : Bytes := [0, 0, 0xF8, 0xE9, 0, 0x15, 0, 1, 7]

/-- It is refused if its identifier is set to all ones, or a bit of its checksum or of its last
    byte is turned. -/
theorem corrupted_word_refused_oddEcho :
    4 ≤ oddEcho.length ∧
    decode oddEcho = .ok (.echoReply ⟨⟨21⟩, ⟨1⟩⟩ none) ∧
    CorruptedAt 2 oddEcho [0, 0, 0xF8, 0xE9, 0xFF, 0xFF, 0, 1, 7] ∧
    ¬ TwoZeros (wordAt oddEcho 2) (wordAt [0, 0, 0xF8, 0xE9, 0xFF, 0xFF, 0, 1, 7] 2) ∧
    Refused [0, 0, 0xF8, 0xE9, 0xFF, 0xFF, 0, 1, 7] ∧
    Refused [0, 0, 0xF8, 0xE8, 0, 0x15, 0, 1, 7] ∧ Refused [0, 0, 0xF8, 0xE9, 0, 0x15, 0, 1, 0x87] := by
  have hdecode : decode oddEcho = .ok (.echoReply ⟨⟨21⟩, ⟨1⟩⟩ none) := rfl
  have hcorrupted : CorruptedAt 2 oddEcho [0, 0, 0xF8, 0xE9, 0xFF, 0xFF, 0, 1, 7] := by
    refine ⟨rfl, fun i hi => ?_, by decide⟩
    match i, hi with
    | 0, _ | 1, _ | 2, _ | 3, _ => rfl
    | 4, hi | 5, hi => exact absurd rfl hi
    | _ + 6, _ => rfl
  have hlength : 4 ≤ oddEcho.length := by decide
  obtain ⟨hword, -, hbit⟩ := corrupted_word_refused hlength fun _ _ h => by
    rw [hdecode] at h
    cases h
  exact ⟨hlength, hdecode, hcorrupted, by decide, hword 2 _ hcorrupted (by decide),
    hbit 3 0 (by decide), hbit 8 7 (by decide)⟩

end EchoProbe.Wire
