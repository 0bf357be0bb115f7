import NetAudio.Report

/-!
# Command line

Prints the sizing report for the arguments.
-/

set_option autoImplicit false

def main (args : List String) : IO UInt32 := do
  let outcome := NetAudio.Report.run args
  IO.print outcome.stdout
  IO.eprint outcome.stderr
  return outcome.code
