import EchoProbe.Address
import EchoProbe.Fields
import EchoProbe.Time
import Std.Data.ExtTreeMap

/-!
# The ledger of requests in flight

Every probe is recorded here, under its identifier, before it is sent. It leaves the
ledger once: taken by the packet that answers it, swept after its deadline, drained
at the end of a run, or taken back when it could not be sent. Sequence numbers are
given out by the ledger, in the order of the recordings.

* Recording under an identifier in flight is refused and changes nothing.
* Two ledgers with the same requests under the same identifiers are equal.
* Sweeping and draining hand requests out oldest first; requests of the same age are
  in the order of their identifiers.
-/

namespace EchoProbe

/-- A probe in flight. -/
structure Request where
  identifier : Identifier
  sequenceNumber : SequenceNumber
  sentAt : Instant
  target : IPv4
  deriving DecidableEq, Repr

namespace Request

/-- How long ago, at `now`, the probe was sent; zero if it is sent later. -/
def age (r : Request) (now : Instant) : Duration := now.since r.sentAt

/-- Whether, at `now`, the probe was sent more than `deadline` ago. -/
def isExpired (r : Request) (now : Instant) (deadline : Duration) : Bool :=
  deadline.nanos < (r.age now).nanos

/-- Requests by age, the oldest first; requests sent at the same time stay in
    order. -/
def oldestFirst (requests : List Request) : List Request :=
  requests.mergeSort fun r s => r.sentAt ≤ s.sentAt

theorem oldestFirst_perm (requests : List Request) : (oldestFirst requests).Perm requests :=
  List.mergeSort_perm _ _

end Request

/-- Why a request cannot be recorded. -/
inductive LedgerError
  | inFlight (identifier : Identifier)
  | full
  deriving DecidableEq, Repr

namespace LedgerError

/-- The text that tells the user about the error. -/
def message : LedgerError → String
  | inFlight identifier => s!"identifier {identifier} is already in flight"
  | full => s!"all {Identifier.count} identifiers are in flight"

end LedgerError

/-- The requests in flight by identifier, and the number of the next request. -/
structure Ledger where
  table : Std.ExtTreeMap Identifier Request
  nextSequenceNumber : SequenceNumber

namespace Ledger

/-- The ledger of a run that has not sent anything. -/
def empty : Ledger := ⟨∅, .first⟩

instance : Inhabited Ledger := ⟨empty⟩

/-- How many requests are in flight. -/
def size (l : Ledger) : Nat := l.table.size

def isEmpty (l : Ledger) : Bool := l.table.isEmpty

/-- The request in flight under an identifier. -/
def find? (l : Ledger) (identifier : Identifier) : Option Request := l.table[identifier]?

/-- Whether an identifier is in flight. -/
def contains (l : Ledger) (identifier : Identifier) : Bool := l.table.contains identifier

/-- The requests in flight, in the order of their identifiers. -/
def requests (l : Ledger) : List Request := l.table.toList.map Prod.snd

/-- Puts a request under a free identifier and gives it the next number. -/
def record (l : Ledger) (identifier : Identifier) (target : IPv4) (sentAt : Instant) :
    Request × Ledger :=
  let request := ⟨identifier, l.nextSequenceNumber, sentAt, target⟩
  (request, ⟨l.table.insert identifier request, l.nextSequenceNumber.next⟩)

/-- Records a request under the given identifier. -/
def insertAt (l : Ledger) (identifier : Identifier) (target : IPv4) (sentAt : Instant) :
    Except LedgerError (Request × Ledger) :=
  if l.contains identifier then .error (.inFlight identifier)
  else .ok (l.record identifier target sentAt)

/-- The first drawn identifier that is not in flight. -/
def firstFree? (l : Ledger) (draws : List Identifier) : Option Identifier :=
  draws.find? fun identifier => !l.contains identifier

/-- Records a request under the first drawn identifier that is not in flight. With
    `none` every draw was in flight, and the search needs more of them. -/
def insert (l : Ledger) (draws : List Identifier) (target : IPv4) (sentAt : Instant) :
    Except LedgerError (Option (Request × Ledger)) :=
  if Identifier.count ≤ l.size then .error .full
  else .ok ((l.firstFree? draws).map fun identifier => l.record identifier target sentAt)

/-- Records a request under each of the given identifiers, as far as it is free. -/
def insertEach (l : Ledger) (target : IPv4) (sentAt : Instant) :
    List Identifier → List (Except LedgerError Request) × Ledger
  | [] => ([], l)
  | identifier :: rest =>
    match l.insertAt identifier target sentAt with
    | .error e =>
      let (results, l) := l.insertEach target sentAt rest
      (.error e :: results, l)
    | .ok (request, l) =>
      let (results, l) := l.insertEach target sentAt rest
      (.ok request :: results, l)

/-- The ledger without the request under an identifier. -/
def erase (l : Ledger) (identifier : Identifier) : Ledger :=
  { l with table := l.table.erase identifier }

/-- Takes a request out, if it is in flight. -/
def take? (l : Ledger) (identifier : Identifier) : Option (Request × Ledger) :=
  (l.find? identifier).map fun request => (request, l.erase identifier)

/-- Takes out every request that, at `now`, was sent more than `deadline` ago. -/
def sweep (l : Ledger) (now : Instant) (deadline : Duration) : List Request × Ledger :=
  (Request.oldestFirst (l.requests.filter (·.isExpired now deadline)),
    { l with table := l.table.filter fun _ request => !request.isExpired now deadline })

/-- Takes out every request. -/
def drain (l : Ledger) : List Request × Ledger :=
  (Request.oldestFirst l.requests, { l with table := ∅ })

end Ledger

end EchoProbe
