import EchoProbe.Error
import EchoProbe.Text.Quoted

/-!
# Configuration

What a user may set. `Config.validate` tests it and gives the `Settings` of a run, in
which the interval and the deadline are positive; of several faults the first in the
order of the tests is told.
-/

namespace EchoProbe

/-- The configuration as the user gives it. -/
structure Config where
  /-- The time between two probes. -/
  interval : Duration := .ofSeconds 1
  /-- The deadline after which a probe counts as lost. -/
  maxRtt : Duration := .ofSeconds 1
  /-- Whether diagnostics are logged. -/
  debug : Bool := false
  /-- The IPv4 address that the socket listens on. -/
  listenAddress : String := "0.0.0.0"
  ttl : UInt8 := 64
  deriving DecidableEq, Repr

/-- A configuration that a run can work with. -/
structure Settings where
  interval : Duration
  maxRtt : Duration
  debug : Bool
  listenAddress : IPv4
  ttl : Ttl
  interval_pos : 0 < interval.nanos
  maxRtt_pos : 0 < maxRtt.nanos
  deriving DecidableEq, Repr

/-- The settings of a configuration in which nothing was set. -/
instance : Inhabited Settings where
  default :=
    { interval := .ofSeconds 1
      maxRtt := .ofSeconds 1
      debug := false
      listenAddress := .unspecified
      ttl := ⟨64⟩
      interval_pos := by decide
      maxRtt_pos := by decide }

/-- Why a configuration cannot be used. -/
inductive ConfigError
  | zeroInterval
  | zeroMaxRtt
  | zeroTtl
  | badListenAddress (text : String)
  deriving DecidableEq, Repr

namespace ConfigError

/-- The text that tells the user about the error. -/
def message : ConfigError → String
  | zeroInterval => "interval must be greater than zero"
  | zeroMaxRtt => "max RTT must be greater than zero"
  | zeroTtl => "TTL must be greater than zero"
  | badListenAddress text => s!"listen address {Text.quote text}: invalid IPv4 address syntax"

/-- The error with which a run refuses the configuration. -/
def toRunError (e : ConfigError) : RunError := .badConfig e.message

end ConfigError

namespace Config

/-- Tests the interval, the deadline, the time to live and the listen address, in
    this order. -/
def validate (c : Config) : Except ConfigError Settings :=
  if hi : c.interval.nanos = 0 then .error .zeroInterval
  else if hm : c.maxRtt.nanos = 0 then .error .zeroMaxRtt
  else if c.ttl = 0 then .error .zeroTtl
  else match IPv4.parse? c.listenAddress with
    | none => .error (.badListenAddress c.listenAddress)
    | some listenAddress =>
      .ok ⟨c.interval, c.maxRtt, c.debug, listenAddress, ⟨c.ttl⟩,
        Nat.pos_of_ne_zero hi, Nat.pos_of_ne_zero hm⟩

/-- What is set to begin with passes the tests. -/
theorem validate_default : ({} : Config).validate.toOption = some default := by
  decide +kernel

theorem validate_eq_ok {c : Config} {s : Settings} (h : c.validate.toOption = some s) :
    c.validate = .ok s := by
  cases hc : c.validate with
  | error e =>
    rw [hc] at h
    cases h
  | ok s' =>
    rw [hc] at h
    exact congrArg _ (Option.some.inj h)

/-- The interval that was tested is that of the run. -/
theorem interval_of_validate {c : Config} {s : Settings} (valid : c.validate = .ok s) :
    s.interval = c.interval := by
  unfold validate at valid
  split at valid
  · cases valid
  split at valid
  · cases valid
  split at valid
  · cases valid
  split at valid
  · cases valid
  · obtain rfl := Except.ok.inj valid
    rfl

end Config

end EchoProbe
