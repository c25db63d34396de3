import EchoProbe.Classification
import EchoProbe.Reporter
import EchoProbe.Sending

/-!
# Sessions

A session is a pinger whose parts are moved one at a time: probes are recorded or sent,
packets are classified, deadlines are tested at given instants, and in the end the ledger
is drained. Every outcome goes into the statistics.
-/

namespace EchoProbe

/-- The state of a session. -/
structure Session where
  settings : Settings
  filler : Wire.Filler
  ledger : Ledger := .empty
  statistics : Statistics

namespace Session

/-- What is done in a session. -/
inductive Step
  /-- Record a probe under an identifier. -/
  | insert (identifier : Identifier) (target : IPv4) (sentAt : Instant)
  /-- Classify a packet. -/
  | packet (packet : Packet)
  /-- Report every probe whose deadline has passed. -/
  | timeout (now : Instant)
  /-- Report every probe that is left. -/
  | finish
  /-- Send a probe over a transport that answers as told. -/
  | send (target : IPv4) (sendTime : WallTime) (sentAt : Instant) (draws : List Identifier)
      (results : List SendResult)

/-- What a step comes to. -/
structure Answer where
  outcomes : List Outcome := []
  log : List LogLine := []
  /-- What became of a probe to be recorded. -/
  inserted : Option (Except LedgerError Request) := none
  /-- What became of a probe to be sent. -/
  sending : Option Sending := none

/-- The session with another ledger, and outcomes added to its statistics. -/
def update (s : Session) (ledger : Ledger) (outcomes : List Outcome) : Session :=
  { s with ledger, statistics := outcomes.foldl Statistics.addOutcome s.statistics }

/-- Takes a step. -/
def step (s : Session) : Step → Session × Answer
  | .insert identifier target sentAt =>
    match s.ledger.insertAt identifier target sentAt with
    | .error e => (s, { inserted := some (.error e) })
    | .ok (request, ledger) => (s.update ledger [], { inserted := some (.ok request) })
  | .packet p =>
    let c := s.ledger.classify p
    (s.update c.ledger [c.outcome], { outcomes := [c.outcome], log := c.log })
  | .timeout now =>
    let (requests, ledger) := s.ledger.sweep now s.settings.maxRtt
    let outcomes := requests.map (·.lost .timeout)
    (s.update ledger outcomes, { outcomes })
  | .finish =>
    let (requests, ledger) := s.ledger.drain
    let outcomes := requests.map (·.lost .unanswered)
    (s.update ledger outcomes, { outcomes })
  | .send target sendTime sentAt draws results =>
    match dispatch s.settings s.filler s.ledger target sendTime sentAt draws results with
    | none => (s, {})
    | some sending => (s.update sending.ledger [], { log := sending.log, sending := some sending })

/-- Takes steps one after the other, with the session after each. -/
def steps (s : Session) : List Step → List (Answer × Session)
  | [] => []
  | a :: rest =>
    let (s, answer) := s.step a
    (answer, s) :: s.steps rest

end Session

end EchoProbe
