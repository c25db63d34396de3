/-!
# Log lines

Lines that tell the user what happens, each with a level.
-/

namespace EchoProbe

/-- How much a line matters. -/
inductive Level
  | error
  | warn
  | info
  | debug
  deriving DecidableEq, Repr

/-- A line of the log. -/
structure LogLine where
  level : Level
  text : String
  deriving DecidableEq, Repr

namespace LogLine

def error (text : String) : LogLine := ⟨.error, text⟩

def warn (text : String) : LogLine := ⟨.warn, text⟩

def info (text : String) : LogLine := ⟨.info, text⟩

def debug (text : String) : LogLine := ⟨.debug, text⟩

/-- Whether the line is shown to a user who has not asked for diagnostics. -/
def isShown (line : LogLine) : Bool := line.level ≠ .debug

end LogLine

end EchoProbe
