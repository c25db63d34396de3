import EchoProbe.Proofs.Classification
import EchoProbe.Proofs.Wire.Decoding

/-!
# Quotes of foreign datagrams

A raw socket reads the notifications about every datagram that left the machine, so a quote may
be of anything. The reader takes a quote at its word: it goes behind a header of the stated
length and tests one byte there.

* A quote that fails the test (`LooksLikeEcho`) says nothing: the ledger stays as it is, and the
  outcome names no probe (`classify_of_not_looksLikeEcho`).
* A quote that passes the test is read as an echo request, and the probe with the identifier
  that is read leaves the ledger (`classify_ledger_of_quotes`).
* Of the header, only the stated length counts (`quotedEcho?_congr`): neither the version nor
  the protocol is looked at, nor whether the stated length is that of a header at all.

Hence not all that passes the test is an echo request (`QuotesRequest`): a user datagram from a
port in `2048, …, 2303` starts with the byte that is tested, and has a length where an echo
request has its identifier (`foreign_quote_consumes_probe`).
-/

namespace EchoProbe

open Wire Message

namespace Wire

/-- Two quotes that state the same length of a header, and agree behind it, are read alike. -/
theorem quotedEcho?_congr {quote other : Bytes} (hsize : statedSize other = statedSize quote)
    (hlength : other.length = quote.length)
    (hdrop : other.drop (statedSize quote) = quote.drop (statedSize quote)) :
    quotedEcho? other = quotedEcho? quote := by
  rw [quotedEcho?_eq, quotedEcho?_eq, hsize, hlength, hdrop]

/-- The place of the protocol in an IPv4 header. -/
def protocolIndex : Nat := 9

/-- The protocol number of ICMP. -/
def icmpProtocol : UInt8 := 1

/-- The IP version that a quote states in its first byte. -/
def statedVersion (quote : Bytes) : Nat := (quote.headD 0).toNat / 16

/-- The quote is of an echo request: an IPv4 header of at least the least length, whose protocol
    is ICMP, and eight bytes behind it, of which the first is the type of an echo request. -/
def QuotesRequest (quote : Bytes) : Prop :=
  statedVersion quote = 4 ∧ minHeaderSize ≤ statedSize quote ∧
    quote[protocolIndex]? = some icmpProtocol ∧ statedSize quote + 8 ≤ quote.length ∧
    quote[statedSize quote]? = some echoRequestType

instance (quote : Bytes) : Decidable (QuotesRequest quote) :=
  inferInstanceAs (Decidable (_ ∧ _ ∧ _ ∧ _ ∧ _))

/-- Every echo request that is quoted passes the test. -/
theorem QuotesRequest.looksLikeEcho {quote : Bytes} (h : QuotesRequest quote) :
    LooksLikeEcho quote := by
  obtain ⟨-, hsize, -, hlength, htype⟩ := h
  exact ⟨by omega, hlength, htype⟩

end Wire

/-- The packet is a sealed time-exceeded notification with this quote. -/
def Packet.Quotes (p : Packet) (quote : Bytes) : Prop :=
  sealed p.bytes = p.bytes ∧ ∃ code high low u₁ u₂ u₃ u₄,
    p.bytes = timeExceededType :: code :: high :: low :: u₁ :: u₂ :: u₃ :: u₄ :: quote

variable {l : Ledger} {p : Packet} {quote : Bytes}

/-- Such a packet is read as a notification, whatever the quote is. -/
theorem Packet.Quotes.decode_eq (quotes : p.Quotes quote) :
    decode p.bytes = .ok (.timeExceeded (quotedEcho? quote)) := by
  obtain ⟨hsealed, code, high, low, u₁, u₂, u₃, u₄, hbytes⟩ := quotes
  exact decode_eq_timeExceeded_iff.2 ⟨hsealed, code, high, low, u₁, u₂, u₃, u₄, quote, hbytes, rfl⟩

namespace Ledger

/-- What becomes of it is up to what is found in the quote. -/
theorem classify_of_quotes (quotes : p.Quotes quote) :
    l.classify p = l.classifyTimeExceeded p (quotedEcho? quote) := by
  rw [classify, quotes.decode_eq]

/-- A notification about something that does not look like an echo request changes nothing and
    names no probe. -/
theorem classify_of_not_looksLikeEcho (quotes : p.Quotes quote) (h : ¬ LooksLikeEcho quote) :
    l.classify p = ⟨p.failure (.strayTimeExceeded none) none, l, []⟩ := by
  rw [classify_of_quotes quotes, quotedEcho?_eq_none_iff.2 h]
  rfl

/-- Of a quote that is read as an echo request, the probe that is read leaves the ledger. -/
theorem classify_ledger_of_quotes (quotes : p.Quotes quote) {header : EchoHeader}
    (h : quotedEcho? quote = some header) :
    (l.classify p).ledger = l.erase header.identifier := by
  rw [classify_of_quotes quotes, h]
  exact (settles_classifyTimeExceeded l p header).ledger

/-- A quote is taken at its word. An echo request is read in it exactly if eight bytes lie behind
    a header of the stated length, of which the first is the type of an echo request; so it is
    read in every quote of one. The header fields are read from these bytes, and nothing else of
    the quote decides. If none is read, the ledger stays as it is, and the outcome names no probe.
    If one is read, the probe of its identifier leaves the ledger, whatever was quoted. -/
theorem quote_taken_at_its_word (l : Ledger) (p : Packet) (quote : Bytes)
    (quotes : p.Quotes quote) :
    ((∃ header, quotedEcho? quote = some header) ↔ LooksLikeEcho quote) ∧
    (QuotesRequest quote → LooksLikeEcho quote) ∧
    (∀ header, quotedEcho? quote = some header →
      (quote.drop (statedSize quote + 4)).take 4 =
        toBigEndian 2 header.identifier.number.toNat ++
          toBigEndian 2 header.sequenceNumber.number.toNat) ∧
    (∀ other : Bytes, statedSize other = statedSize quote → other.length = quote.length →
      other.drop (statedSize quote) = quote.drop (statedSize quote) →
      quotedEcho? other = quotedEcho? quote) ∧
    (¬ LooksLikeEcho quote →
      l.classify p = ⟨p.failure (.strayTimeExceeded none) none, l, []⟩) ∧
    (∀ header, quotedEcho? quote = some header →
      (l.classify p).ledger = l.erase header.identifier) := by
  refine ⟨?_, QuotesRequest.looksLikeEcho, ?_, ?_, classify_of_not_looksLikeEcho quotes, ?_⟩
  · rw [← Option.isSome_iff_exists, ← not_iff_not, ← quotedEcho?_eq_none_iff,
      Option.not_isSome_iff_eq_none]
  · intro header hread
    exact (quotedEcho?_eq_some_iff.1 hread).2
  · intro other hsize hlength hdrop
    exact quotedEcho?_congr hsize hlength hdrop
  · intro header hread
    exact classify_ledger_of_quotes quotes hread

/-- A notification from a router on the way, with this quote. -/
def notificationOf (quote : Bytes) : Packet :=
  ⟨sealed (timeExceededType :: 0 :: 0 :: 0 :: 0 :: 0 :: 0 :: 0 :: quote), .v4 ⟨10, 0, 0, 254⟩,
    ⟨61⟩, .zero, .zero⟩

/-- A ledger whose one probe has the identifier `12`. -/
def oneProbe : Ledger := (empty.record ⟨12⟩ ⟨127, 0, 0, 1⟩ .zero).2

/-- The quote of a TCP segment from port `443`. -/
def segmentQuote : Bytes :=
  [0x45, 0, 0, 40, 0, 0, 0, 0, 64, 6, 0, 0, 127, 0, 0, 1, 127, 0, 0, 1,
    0x01, 0xBB, 0x30, 0x39, 0, 12, 0, 0]

/-- A quoted segment from port `443` does not touch the probe in flight. -/
theorem quote_taken_at_its_word_segment :
    (notificationOf segmentQuote).Quotes segmentQuote ∧ ¬ LooksLikeEcho segmentQuote ∧
      (oneProbe.classify (notificationOf segmentQuote)).ledger = oneProbe := by
  have quotes : (notificationOf segmentQuote).Quotes segmentQuote :=
    ⟨by decide +kernel, _, _, _, _, _, _, _, rfl⟩
  have hforeign : ¬ LooksLikeEcho segmentQuote := by decide
  obtain ⟨-, -, -, -, hunchanged, -⟩ :=
    quote_taken_at_its_word oneProbe (notificationOf segmentQuote) segmentQuote quotes
  exact ⟨quotes, hforeign, by rw [hunchanged hforeign]⟩

/-- The quote of a user datagram from port `2048` that carries four bytes. -/
def userDatagramQuote : Bytes :=
  [0x45, 0, 0, 32, 0, 0, 0, 0, 64, 17, 0, 0, 127, 0, 0, 1, 127, 0, 0, 1,
    0x08, 0x00, 0x30, 0x39, 0, 12, 0, 0]

/-- A quoted user datagram is no echo request, but it passes for one: its length is read as an
    identifier, and the probe with this identifier is lost. -/
theorem foreign_quote_consumes_probe :
    (notificationOf userDatagramQuote).Quotes userDatagramQuote ∧
      ¬ QuotesRequest userDatagramQuote ∧
      quotedEcho? userDatagramQuote = some ⟨⟨12⟩, ⟨0⟩⟩ ∧
      (oneProbe.find? ⟨12⟩).isSome = true ∧
      (oneProbe.classify (notificationOf userDatagramQuote)).ledger.find? ⟨12⟩ = none ∧
      (oneProbe.classify (notificationOf userDatagramQuote)).outcome.isLoss = true := by
  have quotes : (notificationOf userDatagramQuote).Quotes userDatagramQuote :=
    ⟨by decide +kernel, _, _, _, _, _, _, _, rfl⟩
  have hread : quotedEcho? userDatagramQuote = some ⟨⟨12⟩, ⟨0⟩⟩ := by decide
  refine ⟨quotes, by decide, hread, by decide +kernel, ?_, ?_⟩
  · rw [classify_ledger_of_quotes quotes hread, find?_erase_self]
  · rw [classify_of_quotes quotes, hread]
    decide +kernel

end Ledger

end EchoProbe
