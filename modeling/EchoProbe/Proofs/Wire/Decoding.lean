import EchoProbe.Proofs.Wire.RoundTrip

/-!
# What bytes are read as

A message is read only if it is sealed, that is, if it carries its own checksum. Its type then
says what it is, and its header fields lie at fixed places. These laws say which bytes are read
as which message.

* `decode_eq_echoReply_iff`: echo replies;
* `decode_eq_timeExceeded_iff`: time-exceeded notifications;
* `quotedEcho?_eq_some_iff`: the echo request in the quote of a notification. The quote is
  taken at its word about the length of its header, and nothing else of the header is looked
  at: `LooksLikeEcho` says what is tested.
-/

namespace EchoProbe.Wire

open Message

/-! ## Sealed messages -/

/-- A message is sealed if the two bytes of its checksum are those that sealing would write. -/
theorem sealed_eq_self_iff {type code high low : UInt8} {body : Bytes} :
    sealed (type :: code :: high :: low :: body) = type :: code :: high :: low :: body ↔
      checksum (type :: code :: high :: low :: body) = word high low := by
  simp only [sealed, List.cons.injEq, true_and, and_true]
  generalize checksum (type :: code :: high :: low :: body) = sum
  constructor
  · rintro ⟨rfl, rfl⟩
    exact (word_highByte_lowByte sum).symm
  · rintro rfl
    exact ⟨highByte_word high low, lowByte_word high low⟩

/-- The reader accepts sealed messages only; the rest is up to the type and to what lies behind the
    checksum. -/
theorem decode_eq_ok_iff {bytes : Bytes} {message : Message} :
    decode bytes = .ok message ↔ sealed bytes = bytes ∧ ∃ type code high low body,
      bytes = type :: code :: high :: low :: body ∧ interpret type code body = .ok message := by
  constructor
  · intro h
    match bytes, h with
    | type :: code :: high :: low :: body, h =>
      simp only [decode] at h
      split at h
      · cases h
      · exact ⟨sealed_eq_self_iff.2 (not_not.1 ‹_›), type, code, high, low, body, rfl, h⟩
  · rintro ⟨hsealed, type, code, high, low, body, rfl, h⟩
    -- Put in the place of the bytes, the sealed message passes the test by itself.
    rw [← hsealed, decode_sealed, h]

theorem interpret_eq_echoReply_iff {type code : UInt8} {body : Bytes} {header : EchoHeader}
    {sendTime : Option WallTime} :
    interpret type code body = .ok (.echoReply header sendTime) ↔
      type = echoReplyType ∧ ∃ i₁ i₂ s₁ s₂ payload, body = i₁ :: i₂ :: s₁ :: s₂ :: payload ∧
        header = echoHeader i₁ i₂ s₁ s₂ ∧ sendTime = readStamp payload := by
  constructor
  · intro h
    unfold interpret at h
    split at h
    · split at h
      · cases h
        exact ⟨‹_›, _, _, _, _, _, rfl, rfl, rfl⟩
      · cases h
    · -- A notification or a message of another type.
      split at h
      · split at h <;> cases h
      · cases h
  · rintro ⟨rfl, i₁, i₂, s₁, s₂, payload, rfl, rfl, rfl⟩
    rfl

theorem interpret_eq_timeExceeded_iff {type code : UInt8} {body : Bytes}
    {quoted : Option EchoHeader} :
    interpret type code body = .ok (.timeExceeded quoted) ↔
      type = timeExceededType ∧ ∃ u₁ u₂ u₃ u₄ quote, body = u₁ :: u₂ :: u₃ :: u₄ :: quote ∧
        quoted = quotedEcho? quote := by
  constructor
  · intro h
    unfold interpret at h
    split at h
    · -- An echo reply.
      split at h <;> cases h
    · split at h
      · split at h
        · cases h
          exact ⟨‹_›, _, _, _, _, _, rfl, rfl⟩
        · cases h
      · cases h
  · rintro ⟨rfl, u₁, u₂, u₃, u₄, quote, rfl, rfl⟩
    rfl

/-- An echo reply is a sealed message of its type, with the header fields and the stamp behind
    the checksum. -/
theorem decode_eq_echoReply_iff {bytes : Bytes} {header : EchoHeader}
    {sendTime : Option WallTime} :
    decode bytes = .ok (.echoReply header sendTime) ↔
      sealed bytes = bytes ∧ ∃ code high low i₁ i₂ s₁ s₂ payload,
        bytes = echoReplyType :: code :: high :: low :: i₁ :: i₂ :: s₁ :: s₂ :: payload ∧
          header = echoHeader i₁ i₂ s₁ s₂ ∧ sendTime = readStamp payload := by
  rw [decode_eq_ok_iff]
  refine and_congr_right fun _ => ?_
  constructor
  · rintro ⟨type, code, high, low, body, rfl, h⟩
    obtain ⟨rfl, i₁, i₂, s₁, s₂, payload, rfl, hread⟩ := interpret_eq_echoReply_iff.1 h
    exact ⟨code, high, low, i₁, i₂, s₁, s₂, payload, rfl, hread⟩
  · rintro ⟨code, high, low, i₁, i₂, s₁, s₂, payload, rfl, rfl, rfl⟩
    exact ⟨_, code, high, low, _, rfl, rfl⟩

/-- A notification is a sealed message of its type, with the quote behind eight bytes. -/
theorem decode_eq_timeExceeded_iff {bytes : Bytes} {quoted : Option EchoHeader} :
    decode bytes = .ok (.timeExceeded quoted) ↔
      sealed bytes = bytes ∧ ∃ code high low u₁ u₂ u₃ u₄ quote,
        bytes = timeExceededType :: code :: high :: low :: u₁ :: u₂ :: u₃ :: u₄ :: quote ∧
          quoted = quotedEcho? quote := by
  rw [decode_eq_ok_iff]
  refine and_congr_right fun _ => ?_
  constructor
  · rintro ⟨type, code, high, low, body, rfl, h⟩
    obtain ⟨rfl, u₁, u₂, u₃, u₄, quote, rfl, hread⟩ := interpret_eq_timeExceeded_iff.1 h
    exact ⟨code, high, low, u₁, u₂, u₃, u₄, quote, rfl, hread⟩
  · rintro ⟨code, high, low, u₁, u₂, u₃, u₄, quote, rfl, rfl⟩
    exact ⟨_, code, high, low, _, rfl, rfl⟩

/-- What is read as an echo reply: eight bytes or more, of that type and sealed. -/
theorem exists_decode_eq_echoReply_iff {bytes : Bytes} :
    (∃ header sendTime, decode bytes = .ok (.echoReply header sendTime)) ↔
      8 ≤ bytes.length ∧ bytes.head? = some echoReplyType ∧ sealed bytes = bytes := by
  constructor
  · rintro ⟨header, sendTime, h⟩
    obtain ⟨hsealed, code, high, low, i₁, i₂, s₁, s₂, payload, rfl, -⟩ :=
      decode_eq_echoReply_iff.1 h
    refine ⟨?_, rfl, hsealed⟩
    simp only [List.length_cons]
    omega
  · rintro ⟨hlength, htype, hsealed⟩
    -- Eight bytes reach up to the sequence number, so every field that is read is there.
    match bytes, hlength with
    | type :: code :: high :: low :: i₁ :: i₂ :: s₁ :: s₂ :: payload, _ =>
      obtain rfl : type = echoReplyType := Option.some.inj htype
      exact ⟨_, _, decode_eq_echoReply_iff.2
        ⟨hsealed, code, high, low, i₁, i₂, s₁, s₂, payload, rfl, rfl, rfl⟩⟩

/-! ## Quotes -/

/-- Eight bytes of which the first is the type of a request are enough; code and checksum may be
    anything. -/
theorem requestHeader?_eq_some_iff {bytes : Bytes} {header : EchoHeader} :
    requestHeader? bytes = some header ↔ ∃ code c₁ c₂ i₁ i₂ s₁ s₂ rest,
      bytes = echoRequestType :: code :: c₁ :: c₂ :: i₁ :: i₂ :: s₁ :: s₂ :: rest ∧
        header = echoHeader i₁ i₂ s₁ s₂ := by
  constructor
  · intro h
    unfold requestHeader? at h
    split at h
    · split at h
      · subst ‹_ = echoRequestType›
        exact ⟨_, _, _, _, _, _, _, _, rfl, (Option.some.inj h).symm⟩
      · cases h
    · cases h
  · rintro ⟨code, c₁, c₂, i₁, i₂, s₁, s₂, rest, rfl, rfl⟩
    rfl

/-- The length of the header that a quote states in its first byte. -/
def statedSize (quote : Bytes) : Nat := headerSize (quote.headD 0)

/-- Behind a header of the stated length, there are eight bytes of which the first is the type
    of an echo request. -/
def LooksLikeEcho (quote : Bytes) : Prop :=
  minHeaderSize ≤ quote.length ∧ statedSize quote + 8 ≤ quote.length ∧
    quote[statedSize quote]? = some echoRequestType

instance (quote : Bytes) : Decidable (LooksLikeEcho quote) :=
  inferInstanceAs (Decidable (_ ∧ _ ∧ _))

theorem quotedEcho?_eq (quote : Bytes) :
    quotedEcho? quote = if quote.length < minHeaderSize then none
      else requestHeader? (quote.drop (statedSize quote)) := by
  cases quote <;> rfl

/-- Eight bytes from some place on, of which the first is known. -/
theorem exists_drop_eq {bytes : Bytes} {place : Nat} {type : UInt8}
    (hlength : place + 8 ≤ bytes.length) (htype : bytes[place]? = some type) :
    ∃ code c₁ c₂ i₁ i₂ s₁ s₂ rest,
      bytes.drop place = type :: code :: c₁ :: c₂ :: i₁ :: i₂ :: s₁ :: s₂ :: rest := by
  have hdrop : 8 ≤ (bytes.drop place).length := by
    rw [List.length_drop]
    omega
  rw [← List.head?_drop] at htype
  match bytes.drop place, hdrop, htype with
  | _ :: code :: c₁ :: c₂ :: i₁ :: i₂ :: s₁ :: s₂ :: rest, _, htype =>
    exact ⟨code, c₁, c₂, i₁, i₂, s₁, s₂, rest, by rw [Option.some.inj htype]⟩

/-- An echo request is found in a quote exactly if the quote looks like one; its header fields
    are then those behind the header of the stated length. -/
theorem quotedEcho?_eq_some_iff {quote : Bytes} {header : EchoHeader} :
    quotedEcho? quote = some header ↔ LooksLikeEcho quote ∧
      (quote.drop (statedSize quote + 4)).take 4 =
        toBigEndian 2 header.identifier.number.toNat ++
          toBigEndian 2 header.sequenceNumber.number.toNat := by
  rw [quotedEcho?_eq, ← List.drop_drop, toBigEndian_two, toBigEndian_two]
  constructor
  · intro h
    split at h
    · cases h
    · obtain ⟨code, c₁, c₂, i₁, i₂, s₁, s₂, rest, hdrop, rfl⟩ := requestHeader?_eq_some_iff.1 h
      refine ⟨⟨by omega, ?_, ?_⟩, ?_⟩
      · have := congrArg List.length hdrop
        simp only [List.length_drop, List.length_cons] at this
        omega
      · rw [← List.head?_drop, hdrop]
        rfl
      · rw [hdrop]
        simp [echoHeader]
  · rintro ⟨⟨hmin, hlength, htype⟩, hfields⟩
    obtain ⟨code, c₁, c₂, i₁, i₂, s₁, s₂, rest, hdrop⟩ := exists_drop_eq hlength htype
    rw [if_neg (by omega)]
    refine requestHeader?_eq_some_iff.2 ⟨code, c₁, c₂, i₁, i₂, s₁, s₂, rest, hdrop, ?_⟩
    rw [hdrop] at hfields
    -- The four bytes are those of the two fields, so the fields are read from them.
    obtain ⟨rfl, rfl, rfl, rfl⟩ : i₁ = highByte header.identifier.number ∧
        i₂ = lowByte header.identifier.number ∧ s₁ = highByte header.sequenceNumber.number ∧
        s₂ = lowByte header.sequenceNumber.number := by simpa using hfields
    rw [echoHeader_bytes]

/-- So no other quote is taken for one of an echo request. -/
theorem quotedEcho?_eq_none_iff {quote : Bytes} :
    quotedEcho? quote = none ↔ ¬ LooksLikeEcho quote := by
  constructor
  · rintro h ⟨hmin, hlength, htype⟩
    obtain ⟨code, c₁, c₂, i₁, i₂, s₁, s₂, rest, hdrop⟩ := exists_drop_eq hlength htype
    rw [quotedEcho?_eq, if_neg (by omega), hdrop] at h
    cases h
  · intro h
    refine Option.eq_none_iff_forall_ne_some.2 fun header hheader => ?_
    exact h (quotedEcho?_eq_some_iff.1 hheader).1

end EchoProbe.Wire
