import EchoProbe.Classification
import EchoProbe.Proofs.Wire.Decoding

/-!
# Two tests of a checksum

A checksum can be tested in two ways. The standard way is to sum all words of a message, the
checksum that it carries among them: a right message sums to all ones (`Verified`). The other way
is to compute the checksum again and to compare, as the reader of messages does.

One's-complement arithmetic has two zeros, all ones and no ones, and only the sum tells the same of
both. A sum of words is all ones rather than zero unless every word is zero, so the checksum
computed for a message is never all ones, but for that one exception. A message that carries all
ones is then refused, even if it is right by the standard.

* `checksum_eq_carried_iff`: what a message must be, beside right, to be accepted;
* `verified_patchedEchoOf`: a host may echo a request without summing it again, and only add to
  the checksum what the sum loses by the change of the type. Such an echo is always right. It
  carries all ones if the request carried `0xF7FF` (`carried_patchedEchoOf_eq_iff`);
* `checksum_test_refuses_iff`: which messages are refused for their checksum;
* `right_echo_refused`: an echo that is right by the standard, and refused.
-/

namespace EchoProbe.Wire

open Message

/-- All words of the message sum to all ones. -/
def Verified (message : Bytes) : Prop := onesSum (words message) = 0xFFFF

instance (message : Bytes) : Decidable (Verified message) :=
  inferInstanceAs (Decidable (_ = _))

/-- The checksum that a message carries. -/
def carried (message : Bytes) : UInt16 := (words message).getD checksumIndex 0

/-- The words of the message but the checksum that it carries. -/
def covered (message : Bytes) : List UInt16 := (words message).eraseIdx checksumIndex

/-- The echo of a host that does not sum the message again: it changes the type, and adds to the
    checksum what the sum loses by that. -/
def patchedEchoOf : Bytes → Bytes
  | type :: code :: high :: low :: rest =>
    let sum := onesAdd (word high low) (word type 0)
    echoReplyType :: code :: highByte sum :: lowByte sum :: rest
  | short => short

variable {type code high low : UInt8} {body bytes : Bytes}

@[simp]
theorem carried_cons : carried (type :: code :: high :: low :: body) = word high low := rfl

@[simp]
theorem covered_cons :
    covered (type :: code :: high :: low :: body) = word type code :: words body := rfl

theorem checksum_eq (message : Bytes) : checksum message = ~~~ onesSum (covered message) := rfl

/-! ## Sums -/

theorem total_eq_zero_iff {ws : List UInt16} : total ws = 0 ↔ ∀ w ∈ ws, w = 0 := by
  induction ws with
  | nil => simp
  | cons w ws ih =>
    rw [total_cons, Nat.add_eq_zero_iff, ih, List.forall_mem_cons, ← UInt16.toNat_inj]
    rfl

/-- Words sum to all ones exactly if their plain sum is a multiple of `65535`, and not zero. -/
theorem onesSum_eq_allOnes_iff {ws : List UInt16} :
    onesSum ws = 0xFFFF ↔ total ws ≠ 0 ∧ total ws % 65535 = 0 := by
  rw [← UInt16.toNat_inj, toNat_onesSum]
  show _ = 65535 ↔ _
  split <;> omega

/-- The plain sum of a message is that of the carried checksum and of the words that it covers. -/
theorem total_words (h : 4 ≤ bytes.length) :
    total (words bytes) = (carried bytes).toNat + total (covered bytes) := by
  match bytes, h with
  | type :: code :: high :: low :: body, _ =>
    rw [carried_cons, covered_cons, words, words, total_cons, total_cons, total_cons]
    omega

/-- The checksum that a message carries is the one that is computed for it exactly if the message
    is right and does not carry all ones, or carries all ones because there is nothing to sum. -/
theorem checksum_eq_carried_iff (h : 4 ≤ bytes.length) :
    checksum bytes = carried bytes ↔
      Verified bytes ∧ (carried bytes = 0xFFFF → ∀ w ∈ covered bytes, w = 0) := by
  have hsum := toNat_onesSum (covered bytes)
  rw [Verified, onesSum_eq_allOnes_iff, total_words h, ← total_eq_zero_iff, checksum_eq,
    ← UInt16.toNat_inj, ← UInt16.toNat_inj, toNat_not]
  have hcarried := (carried bytes).toNat_lt
  show _ ↔ _ ∧ (_ = 65535 → _)
  -- The computed checksum is all ones exactly if the covered words sum to nothing.
  split at hsum <;> omega

/-- For a right message that carries all ones, zero is computed, unless there is nothing to sum. -/
theorem checksum_eq_zero (h : 4 ≤ bytes.length) (verified : Verified bytes)
    (hones : carried bytes = 0xFFFF) (hsome : ¬ ∀ w ∈ covered bytes, w = 0) :
    checksum bytes = 0 := by
  rw [Verified, onesSum_eq_allOnes_iff, total_words h, hones] at verified
  -- All ones add nothing to a sum of words but a multiple of `65535`, so the covered words sum to
  -- all ones by themselves.
  have hall : onesSum (covered bytes) = 0xFFFF := by
    rw [onesSum_eq_allOnes_iff]
    exact ⟨fun hzero => hsome (total_eq_zero_iff.1 hzero),
      (Nat.add_mod_left 65535 (total (covered bytes))).symm.trans verified.2⟩
  rw [checksum_eq, hall]
  rfl

/-! ## Refused messages -/

/-- The checksum is tested before the type is looked at, and not again. -/
theorem interpret_ne_checksum (received computed : UInt16) :
    interpret type code body ≠ .error (.checksum received computed) := by
  unfold interpret
  split
  · split <;> simp
  · -- A notification or a message of another type.
    split
    · split <;> simp
    · simp

/-- The reader compares the carried checksum to the computed one, and tells both if they differ. -/
theorem decode_eq_checksum_iff (h : 4 ≤ bytes.length) {received computed : UInt16} :
    decode bytes = .error (.checksum received computed) ↔
      checksum bytes ≠ carried bytes ∧ received = carried bytes ∧ computed = checksum bytes := by
  match bytes, h with
  | type :: code :: high :: low :: body, _ =>
    rw [decode, carried_cons]
    split
    · rename_i hne
      simp only [Except.error.injEq, DecodeError.checksum.injEq, ne_eq, hne, not_false_eq_true,
        true_and, eq_comm]
    · rename_i heq
      simp [interpret_ne_checksum, not_not.1 heq]

theorem sealed_eq_self_of_checksum (h : 4 ≤ bytes.length) (heq : checksum bytes = carried bytes) :
    sealed bytes = bytes := by
  match bytes, h with
  | type :: code :: high :: low :: body, _ => exact sealed_eq_self_iff.2 heq

/-! ## Echoes of a host that does not sum again -/

/-- Of the first word, the echo loses what the type stands for. -/
theorem toNat_echoedWord (type code : UInt8) :
    (word type code).toNat = (word type 0).toNat + (word echoReplyType code).toNat := by
  rw [toNat_word, toNat_word, toNat_word]
  show _ = 256 * type.toNat + 0 + (256 * 0 + code.toNat)
  omega

/-- Such an echo of a right message is right. -/
theorem verified_patchedEchoOf (verified : Verified bytes) : Verified (patchedEchoOf bytes) := by
  match bytes, verified with
  | [], verified => exact verified
  | [_], verified => exact verified
  | [_, _], verified => exact verified
  | [_, _, _], verified => exact verified
  | type :: code :: high :: low :: body, verified =>
    rw [Verified, onesSum_eq_allOnes_iff] at verified ⊢
    -- What the first word loses is added to the checksum, with the carry, so that the sum stays the
    -- same modulo `65535`.
    simp only [patchedEchoOf, words, word_highByte_lowByte, total_cons, toNat_onesAdd] at verified ⊢
    rw [toNat_echoedWord] at verified
    have htype := (word type 0).toNat_lt
    have hcarried := (word high low).toNat_lt
    generalize (word type 0).toNat = lost at *
    generalize (word high low).toNat = carried at *
    generalize (word echoReplyType code).toNat = first at *
    generalize total (words body) = rest at *
    omega

/-- The type of a request is eight, in the high byte: the echo adds `0x0800` to the checksum. -/
theorem carried_patchedEchoOf_eq_iff (h : 4 ≤ bytes.length)
    (htype : bytes.head? = some echoRequestType) :
    carried (patchedEchoOf bytes) = 0xFFFF ↔ carried bytes = 0xF7FF := by
  match bytes, h with
  | type :: code :: high :: low :: body, _ =>
    obtain rfl : type = echoRequestType := Option.some.inj htype
    simp only [patchedEchoOf, carried_cons, word_highByte_lowByte]
    rw [← UInt16.toNat_inj, ← UInt16.toNat_inj, toNat_onesAdd]
    have hcarried := (word high low).toNat_lt
    generalize (word high low).toNat = carried at *
    show (carried + 2048) / 65536 + (carried + 2048) % 65536 = 65535 ↔ carried = 63487
    omega

/-! ## Which messages are refused -/

/-- A message is refused for its checksum exactly if it is not right by the standard, or if it
    carries all ones over anything but zeros. A right message that is refused carries all ones,
    and zero was expected. All other right echo replies are read. The echo of a host that only
    patches the checksum of a right message is right, and carries all ones exactly if the request
    carried `0xF7FF`. -/
theorem checksum_test_refuses_iff (bytes : Bytes) (h : 4 ≤ bytes.length) :
    ((∃ received computed, decode bytes = .error (.checksum received computed)) ↔
      ¬ Verified bytes ∨ carried bytes = 0xFFFF ∧ ∃ w ∈ covered bytes, w ≠ 0) ∧
    (Verified bytes → ∀ received computed,
      decode bytes = .error (.checksum received computed) → received = 0xFFFF ∧ computed = 0) ∧
    (Verified bytes → carried bytes ≠ 0xFFFF → 8 ≤ bytes.length →
      bytes.head? = some echoReplyType →
      ∃ header sendTime, decode bytes = .ok (.echoReply header sendTime)) ∧
    (Verified bytes → Verified (patchedEchoOf bytes)) ∧
    (bytes.head? = some echoRequestType →
      (carried (patchedEchoOf bytes) = 0xFFFF ↔ carried bytes = 0xF7FF)) := by
  have hrefused : (∃ received computed, decode bytes = .error (.checksum received computed)) ↔
      ¬ Verified bytes ∨ carried bytes = 0xFFFF ∧ ∃ w ∈ covered bytes, w ≠ 0 := by
    calc (∃ received computed, decode bytes = .error (.checksum received computed))
        ↔ checksum bytes ≠ carried bytes := by simp [decode_eq_checksum_iff h]
      _ ↔ ¬ (Verified bytes ∧ (carried bytes = 0xFFFF → ∀ w ∈ covered bytes, w = 0)) :=
        not_congr (checksum_eq_carried_iff h)
      _ ↔ _ := by
        rw [not_and_or, Classical.not_imp]
        simp only [not_forall, exists_prop, ne_eq]
  refine ⟨hrefused, ?_, ?_, verified_patchedEchoOf, carried_patchedEchoOf_eq_iff h⟩
  · intro verified received computed hdecode
    obtain ⟨hones, w, hw, hne⟩ :=
      (hrefused.1 ⟨received, computed, hdecode⟩).resolve_left (not_not_intro verified)
    obtain ⟨-, rfl, rfl⟩ := (decode_eq_checksum_iff h).1 hdecode
    exact ⟨hones, checksum_eq_zero h verified hones fun hzero => hne (hzero w hw)⟩
  · intro verified hother hlength htype
    have heq : checksum bytes = carried bytes :=
      (checksum_eq_carried_iff h).2 ⟨verified, fun hones => absurd hones hother⟩
    exact exists_decode_eq_echoReply_iff.2 ⟨hlength, htype, sealed_eq_self_of_checksum h heq⟩

/-- A request whose identifier and number sum to all ones. -/
def balancedRequest : Bytes := [8, 0, 0xF7, 0xFF, 0x12, 0x34, 0xED, 0xCB]

/-- The request is right, so its patched echo is right too; but it is refused. -/
theorem checksum_test_refuses_iff_balanced :
    4 ≤ balancedRequest.length ∧ Verified balancedRequest ∧
      balancedRequest.head? = some echoRequestType ∧ Verified (patchedEchoOf balancedRequest) ∧
      ∃ received computed,
        decode (patchedEchoOf balancedRequest) = .error (.checksum received computed) := by
  have hverified : Verified balancedRequest := by decide
  obtain ⟨-, -, -, hpatched, hcarried⟩ :=
    checksum_test_refuses_iff balancedRequest (by decide)
  obtain ⟨hrefused, -⟩ := checksum_test_refuses_iff (patchedEchoOf balancedRequest) (by decide)
  exact ⟨by decide, hverified, rfl, hpatched hverified,
    hrefused.2 (.inr ⟨(hcarried rfl).2 rfl, 0x1234, by decide, by decide⟩)⟩

/-- The patched echo of the request, from the probed host. -/
def patchedEcho : Packet :=
  ⟨patchedEchoOf balancedRequest, IPv4.mk 127 0 0 1, ⟨64⟩, .zero, .zero⟩

/-- An echo reply of eight bytes sums to all ones, as the standard asks, and is refused for its
    checksum all the same: it is reported as malformed, and the probe that it answers stays in
    flight. -/
theorem right_echo_refused :
    let message := patchedEcho.bytes
    let l := (Ledger.empty.record ⟨0x1234⟩ ⟨127, 0, 0, 1⟩ .zero).2
    message = [0, 0, 0xFF, 0xFF, 0x12, 0x34, 0xED, 0xCB] ∧
      onesSum (words message) = 0xFFFF ∧ decode message = .error (.checksum 0xFFFF 0) ∧
      ¬ ((∃ received computed, decode message = .error (.checksum received computed)) ↔
        onesSum (words message) ≠ 0xFFFF) ∧
      (l.classify patchedEcho).outcome =
        patchedEcho.failure (.malformed "bad checksum 0xffff, expected 0x0000") none ∧
      ((l.classify patchedEcho).ledger.find? ⟨0x1234⟩).isSome = true := by
  intro message l
  have hsum : onesSum (words message) = 0xFFFF := by decide
  have hdecode : decode message = .error (.checksum 0xFFFF 0) :=
    (decode_eq_checksum_iff (by decide)).2 ⟨by decide, by decide, by decide⟩
  exact ⟨rfl, hsum, hdecode, fun h => h.1 ⟨_, _, hdecode⟩ hsum, by decide +kernel,
    by decide +kernel⟩

end EchoProbe.Wire
