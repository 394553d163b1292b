import GeoFilter.CommandLine

/-!
# The program

Compiles the statement in its arguments under the settings in its environment.
-/

open GeoFilter

/-- Reads the environment, answers the arguments and prints the answer. -/
def main (args : List String) : IO UInt32 := do
  let dialect ← IO.getEnv "CQL_DIALECT"
  let level ← IO.getEnv "CQL_LOG"
  let response := CommandLine.respond (Configuration.ofVariables dialect level).1 args
  IO.print (CommandLine.printed response.output)
  IO.eprint (CommandLine.printed response.errors)
  return response.code.toUInt32
