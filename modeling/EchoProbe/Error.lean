import EchoProbe.Ledger
import EchoProbe.Transport.Error

/-!
# Errors of a run

What ends a run or keeps it from starting. Trouble with a single probe or packet is
no error but an outcome.
-/

namespace EchoProbe

/-- The phases in the life of a pinger. -/
inductive Phase
  | idle
  | running
  | stopping
  | stopped
  deriving DecidableEq, Repr

instance : ToString Phase where
  toString
    | .idle => "Idle"
    | .running => "Running"
    | .stopping => "Stopping"
    | .stopped => "Stopped"

/-- What ends a run or keeps it from starting. -/
inductive RunError
  | transport (error : TransportError)
  | unknownHost (host : String)
  | badConfig (reason : String)
  /-- A run was asked for in a phase other than idle. -/
  | notIdle (phase : Phase)
  | noPackage
  | ledger (error : LedgerError)
  /-- An activity of the run died. -/
  | activityDied (activity : String)
  deriving DecidableEq, Repr

namespace RunError

instance : ToString RunError where
  toString
    | transport error => s!"IO error: {error}"
    | unknownHost host => s!"cannot resolve {host}: Unknown host"
    | badConfig reason => s!"invalid config: {reason}"
    | notIdle phase => s!"pinger is {phase}, a run can only start from Idle"
    | noPackage => "could not create ICMP package"
    | ledger error => error.message
    | activityDied activity => s!"{activity} thread panicked"

/-- Whether another error lies behind this one. -/
def hasCause : RunError → Bool
  | transport _ => true
  | _ => false

end RunError

end EchoProbe
