import EchoProbe.CommandLine

/-!
# The program

Answers the command line.
-/

open EchoProbe.CommandLine

def main (args : List String) : IO UInt32 := do
  let r := respond args
  IO.print r.stdout
  IO.eprint r.stderr
  return r.exit
