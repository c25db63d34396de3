import EchoProbe.Config

/-!
# The command line

    ping [--max-rtt N] [-i N] [-d] [--listen-address A] [--ttl N] [-c N] [--] HOST

Arguments are read from left to right, and the first one that is wrong is told. Every
option may be given once, the switch any number of times; `--` ends the options. A call
for help is answered when all other arguments were read, and no option may follow it.
A command line that reads well becomes a configuration, which is then tested (`plan`).
What the program writes, and its exit code, are in `respond`.
-/

namespace EchoProbe.CommandLine

/-- Why a text is no number. -/
inductive NumberError
  | empty
  | invalidDigit
  | tooLarge
  deriving DecidableEq, Repr

namespace NumberError

/-- The text that tells the user about the error. -/
def message : NumberError → String
  | empty => "cannot parse integer from empty string"
  | invalidDigit => "invalid digit found in string"
  | tooLarge => "number too large to fit in target type"

end NumberError

/-- Reads decimal digits behind the number `n`, all below `bound`. The first digit that is
    none or makes the number too large is told. -/
def readDecimal (bound : Nat) : Nat → List Char → Except NumberError Nat
  | n, [] => .ok n
  | n, c :: rest =>
    match Text.digitValue? 10 c with
    | none => .error .invalidDigit
    | some d => if bound ≤ 10 * n + d then .error .tooLarge else readDecimal bound (10 * n + d) rest

/-- Reads a number below `bound`; a plus sign may stand in front. -/
def readNumber (bound : Nat) (text : String) : Except NumberError Nat :=
  match text.toList with
  | [] => .error .empty
  | ['+'] => .error .invalidDigit
  | '+' :: digits => readDecimal bound 0 digits
  | digits => readDecimal bound 0 digits

/-- The options that take a value. -/
inductive Key
  | maxRtt
  | interval
  | listenAddress
  | ttl
  | count
  deriving DecidableEq, Repr

/-- What an argument that begins with a dash stands for. -/
inductive Flag
  | debug
  | value (key : Key)

namespace Flag

/-- The meaning of an argument that begins with a dash. -/
def ofText? : String → Option Flag
  | "--max-rtt" => some (value .maxRtt)
  | "--interval" | "-i" => some (value .interval)
  | "--debug" | "-d" => some debug
  | "--listen-address" => some (value .listenAddress)
  | "--ttl" => some (value .ttl)
  | "--count" | "-c" => some (value .count)
  | _ => none

end Flag

/-- Why a value is refused. -/
inductive ValueError
  | duplicate
  | number (error : NumberError)
  deriving DecidableEq, Repr

namespace ValueError

/-- The text that tells the user about the error. -/
def message : ValueError → String
  | duplicate => "duplicate values provided"
  | number error => error.message

end ValueError

/-- Why a command line is refused. -/
inductive UsageError
  | unrecognized (argument : String)
  | noValue (option : String)
  | badValue (option value : String) (error : ValueError)
  | trailingAfterHelp
  | noHost
  deriving DecidableEq, Repr

namespace UsageError

/-- The text that tells the user about the error. -/
def message : UsageError → String
  | unrecognized argument => s!"Unrecognized argument: {argument}\n"
  | noValue option => s!"No value provided for option '{option}'.\n"
  | badValue option value error =>
    s!"Error parsing option '{option}' with value '{value}': {error.message}\n"
  | trailingAfterHelp => "Trailing arguments are not allowed after \x60help\x60."
  | noHost => "Required positional arguments not provided:\n    host\n"

end UsageError

/-- The arguments read so far. -/
structure Arguments where
  maxRtt : Option UInt64 := none
  interval : Option UInt64 := none
  debug : Bool := false
  listenAddress : Option String := none
  ttl : Option UInt8 := none
  count : Option UInt32 := none
  host : Option String := none
  help : Bool := false
  /-- Whether `--` was read. -/
  optionsEnded : Bool := false

namespace Arguments

/-- A number for an option that has none yet. -/
def fill (slot : Option Nat) (bound : Nat) (text : String) : Except ValueError Nat :=
  if slot.isSome then .error .duplicate
  else (readNumber bound text).mapError .number

/-- The arguments with the value of an option. -/
def set (a : Arguments) (key : Key) (text : String) : Except ValueError Arguments :=
  match key with
  | .maxRtt =>
    (fill (a.maxRtt.map UInt64.toNat) 18446744073709551616 text).map fun n =>
      { a with maxRtt := some (.ofNat n) }
  | .interval =>
    (fill (a.interval.map UInt64.toNat) 18446744073709551616 text).map fun n =>
      { a with interval := some (.ofNat n) }
  | .ttl =>
    (fill (a.ttl.map UInt8.toNat) 256 text).map fun n => { a with ttl := some (.ofNat n) }
  | .count =>
    (fill (a.count.map UInt32.toNat) 4294967296 text).map fun n =>
      { a with count := some (.ofNat n) }
  | .listenAddress =>
    if a.listenAddress.isSome then .error .duplicate else .ok { a with listenAddress := some text }

/-- The arguments with a host. -/
def setHost (a : Arguments) (text : String) : Except UsageError Arguments :=
  if a.host.isSome then .error (.unrecognized text) else .ok { a with host := some text }

/-- Reads arguments behind those read so far. -/
def read (a : Arguments) : List String → Except UsageError Arguments
  | [] => .ok a
  | text :: rest =>
    if a.optionsEnded then (a.setHost text).bind fun a => a.read rest
    else if text = "--help" ∨ text = "help" then { a with help := true }.read rest
    else if text = "--" then { a with optionsEnded := true }.read rest
    else if text.toList.head? = some '-' then
      if a.help then .error .trailingAfterHelp
      else match Flag.ofText? text with
        | none => .error (.unrecognized text)
        | some .debug => { a with debug := true }.read rest
        | some (.value key) =>
          match rest with
          | [] => .error (.noValue text)
          | value :: rest =>
            match a.set key value with
            | .error e => .error (.badValue text value e)
            | .ok a => a.read rest
    else (a.setHost text).bind fun a => a.read rest

/-- The configuration that the arguments ask for. -/
def toConfig (a : Arguments) : Config where
  interval := .ofMillis (a.interval.getD 1000)
  maxRtt := .ofMillis (a.maxRtt.getD 1000)
  debug := a.debug
  listenAddress := a.listenAddress.getD "0.0.0.0"
  ttl := a.ttl.getD 64

end Arguments

/-- What the program writes before it ends, and its exit code. -/
structure Response where
  exit : UInt32
  stdout : String := ""
  stderr : String := ""
  deriving DecidableEq, Repr

/-- What a command line comes to: the program ends, or it runs. -/
inductive Plan
  | respond (response : Response)
  | run (settings : Settings) (host : String) (count : UInt32)

/-- The answer to a call for help. -/
def helpText : String :=
  "Usage: ping [--max-rtt <max-rtt>] [-i <interval>] [-d] [--listen-address <listen-address>] " ++
  "[--ttl <ttl>] [-c <count>] [--] <host>\n\n" ++
  "ping - send ICMP ECHO_REQUEST to a host and report round trip times\n\n" ++
  "Positional Arguments:\n" ++
  "  host              host name or IPv4 address\n\n" ++
  "Options:\n" ++
  "  --max-rtt         a probe without reply after <max-rtt> milliseconds counts as\n" ++
  "                    lost\n" ++
  "  -i, --interval    wait <interval> milliseconds between probes\n" ++
  "  -d, --debug       log every packet sent and received\n" ++
  "  --listen-address  IPv4 address to listen on\n" ++
  "  --ttl             IP time to live of the probes\n" ++
  "  -c, --count       stop after <count> probes\n" ++
  "  --help, help      display usage information\n"

/-- The answer to a wrong command line. -/
def refusal (e : UsageError) : Response :=
  { exit := 1, stderr := e.message ++ "\nRun ping --help for more information.\n" }

/-- The answer to a wrong configuration. -/
def configRefusal (e : ConfigError) : Response :=
  { exit := 1, stderr := s!"Error: InvalidConfig({Text.quote e.message})\n" }

/-- The answer when the system refuses the raw socket with an error. -/
def socketRefusal (number : Int) : Response :=
  let kind := (SystemError.kind number).name
  let message := Text.quote (SystemError.text number)
  { exit := 1
    stderr := s!"Error: Io(Os \x7b code: {number}, kind: {kind}, message: {message} \x7d)\n" }

/-- What a command line comes to. -/
def plan (args : List String) : Plan :=
  match Arguments.read {} args with
  | .error e => .respond (refusal e)
  | .ok a =>
    if a.help then .respond { exit := 0, stdout := helpText ++ "\n" }
    else match a.host with
      | none => .respond (refusal .noHost)
      | some host =>
        match a.toConfig.validate with
        | .error e => .respond (configRefusal e)
        | .ok settings => .run settings host (a.count.getD 4)

/-- What the program answers to a command line. It has no privilege for raw sockets, so a
    run ends where the socket would be opened. -/
def respond (args : List String) : Response :=
  match plan args with
  | .respond r => r
  | .run .. => socketRefusal SystemError.notPermitted

end EchoProbe.CommandLine
