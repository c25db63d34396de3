import EchoProbe.Address
import EchoProbe.Fields
import EchoProbe.Time

/-!
# Outcomes

What a run tells about its probes and about the packets it reads: a reply, or a
failure of some kind. A failure is a *loss* if it consumed a probe in flight. The
other failures speak of packets that belong to no probe.
-/

namespace EchoProbe

/-- A successful round trip. -/
structure Reply where
  size : Nat
  source : IpAddress
  ttl : Ttl
  sequenceNumber : SequenceNumber
  roundTrip : Duration
  deriving DecidableEq, Repr

/-- Why a probe or a packet gave no reply. -/
inductive FailureKind
  /-- No answer came within the deadline. -/
  | timeout
  /-- No answer came before the run stopped. -/
  | unanswered
  /-- A probe in flight ran out of hops. -/
  | timeExceeded
  /-- Something else ran out of hops; its identifier, if it was an echo request. -/
  | strayTimeExceeded (identifier : Option Identifier)
  /-- A reply to no probe in flight. -/
  | strayReply (identifier : Identifier)
  /-- A reply to a probe that was sent to another host. -/
  | wrongHost (expected : IpAddress)
  | unexpectedType (type code : UInt8)
  | malformed (reason : String)
  deriving DecidableEq, Repr

namespace FailureKind

/-- Whether the failure consumed a probe in flight, which therefore counts as
    lost. -/
def isLoss : FailureKind → Bool
  | timeout | unanswered | timeExceeded | wrongHost _ => true
  | strayTimeExceeded _ | strayReply _ | unexpectedType _ _ | malformed _ => false

instance : ToString FailureKind where
  toString
    | timeout => "request timeout"
    | unanswered => "no reply before the run stopped"
    | timeExceeded => "time to live exceeded"
    | strayTimeExceeded _ => "time to live exceeded for an untracked request"
    | strayReply identifier => s!"reply for untracked id {identifier}"
    | wrongHost expected => s!"reply did not come from the probed host {expected}"
    | unexpectedType type code => s!"unexpected ICMP type {type} (code {code})"
    | malformed reason => s!"malformed packet: {reason}"

end FailureKind

/-- A failure, with the host that answered (or was probed in vain) and the number of
    the probe, as far as they are known. -/
structure Failure where
  kind : FailureKind
  source : Option IpAddress
  sequenceNumber : Option SequenceNumber
  deriving DecidableEq, Repr

namespace Failure

instance : ToString Failure where
  toString f :=
    let source := match f.source with
      | some source => s!"From {source} "
      | none => ""
    let number := match f.sequenceNumber with
      | some number => s!"icmp_seq={number} "
      | none => ""
    source ++ number ++ toString f.kind

end Failure

/-- What is reported of a probe or a packet. -/
inductive Outcome
  | reply (reply : Reply)
  | failure (failure : Failure)
  deriving DecidableEq, Repr

namespace Outcome

/-- Whether the outcome consumed a probe in flight without a reply. -/
def isLoss : Outcome → Bool
  | reply _ => false
  | failure f => f.kind.isLoss

/-- Whether the outcome is a reply. -/
def isReply : Outcome → Bool
  | reply _ => true
  | failure _ => false

/-- Whether the outcome counts as a probe sent: it is a reply or a loss. -/
def isCounted (o : Outcome) : Bool := o.isReply || o.isLoss

/-- The number of the probe that the outcome tells about, if it is known. -/
def sequenceNumber? : Outcome → Option SequenceNumber
  | reply r => some r.sequenceNumber
  | failure f => f.sequenceNumber

end Outcome

end EchoProbe
