/-
The program: reads the configuration file if one is named, runs the command
line, and prints what it gives.
-/
import CallGuard.Command

namespace CallGuard.Command

/-- The contents of a file, or nothing if it cannot be read. -/
def contentsOf? (path : String) : IO (Option String) := do
  try
    return some (← IO.FS.readFile path)
  catch _ => return none

/-- A seed that differs from run to run. -/
def processSeed : IO UInt64 := do
  let bytes ← IO.getRandomBytes 8
  return bytes.toList.foldl (fun seed byte => seed * 256 + byte.toUInt64) 0

end CallGuard.Command

open CallGuard

def main (arguments : List String) : IO UInt32 := do
  match Command.invocation? arguments with
  | none =>
    IO.eprint Command.usage
    return Command.usageExit
  | some invocation =>
    let contents ← match invocation.configuration with
      | none => pure none
      | some path => Command.contentsOf? path
    let outcome := invocation.run contents (.seeded (← Command.processSeed))
    IO.print outcome.output
    IO.eprint outcome.diagnostics
    return outcome.exit
