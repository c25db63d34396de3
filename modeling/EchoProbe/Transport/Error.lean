import EchoProbe.Transport.ErrorKind
import EchoProbe.Wire.Datagram

/-!
# Transport errors

An error of the transport, and the three classes by which a run tells the errors it
survives from those that end it: `isOutOfRoom` for sends, `isSilence` and
`isUnreadable` for receives. Every other error is fatal.
-/

namespace EchoProbe

/-- An error of a send or a receive. -/
inductive TransportError
  /-- An error of the operating system, by number. -/
  | system (number : Int)
  /-- An error of which only the kind is known. -/
  | plain (kind : ErrorKind)
  /-- An error with a text of its own. -/
  | custom (kind : ErrorKind) (text : String)
  deriving DecidableEq, Repr

namespace TransportError

/-- What the error means. -/
def kind : TransportError → ErrorKind
  | system number => SystemError.kind number
  | plain kind => kind
  | custom kind _ => kind

instance : ToString TransportError where
  toString
    | system number => s!"{SystemError.text number} (os error {number})"
    | plain kind => kind.description
    | custom _ text => text

/-- The system has no room for another packet; sending may succeed when tried
    again. -/
def isOutOfRoom (e : TransportError) : Bool :=
  e = .system SystemError.noBufferSpace || e.kind = .wouldBlock

/-- Nothing arrived in time. -/
def isSilence (e : TransportError) : Bool := e.kind = .wouldBlock || e.kind = .timedOut

/-- A packet could not be read, but the socket is fine. -/
def isUnreadable (e : TransportError) : Bool := e.kind = .invalidData

end TransportError

namespace DatagramError

/-- The transport error that a read reports for an unreadable datagram. -/
def toTransportError (e : DatagramError) : TransportError := .custom .invalidData e.message

end DatagramError

end EchoProbe
