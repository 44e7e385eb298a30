import LintPlan.Command.Snapshot
import LintPlan.Json.Reader
/-!
# The command line

The program touches nothing of the machine that it runs on. One line of standard input describes a world; the program
prints what the command prints in that world and exits with the same status.
-/

namespace LintPlan

/-- Reads the description of a world from a line. -/
def worldOfLine? (line : String) : Option World := (Json.read line.toList).toOption.bind World.ofJson?

end LintPlan

/-- Runs the command that the arguments ask for in the world that standard input describes. -/
def main (args : List String) : IO UInt32 := do
  let line ← (← IO.getStdin).getLine
  match LintPlan.worldOfLine? line with
  | none => do
    (← IO.getStderr).putStrLn "error: no description of a world on standard input"
    return 2
  | some w => do
    let outcome := w.run args
    (← IO.getStderr).putStr (outcome.stderr w)
    (← IO.getStdout).putStr (outcome.stdout w)
    return UInt32.ofNat outcome.reply.exitStatus
