import GoopOperator.CommandLine.Execution

/-!
# The program `goopctl`

Hands its arguments and the environment to `CommandLine.execute` and prints the outcome. No transport
to a cluster is linked in, so a command that needs one says that none can be reached.
-/

namespace GoopOperator

/-- The environment variables that the program looks at. -/
def CommandLine.variables : List String :=
  ["GOOP_FINALIZER", "GOOP_POLL_SECS", "GOOP_PASS_TIMEOUT_SECS", "GOOP_IMAGE", "GOOP_JOB_COMMAND",
    "GOOP_LOG_OBJECTS", "GOOP_METRICS_ADDR", "GOOP_PAUSE_IMAGE"]

/-- The midnight at which the year 1970 began. -/
def Timestamp.epoch : Timestamp := ⟨⟨1970, 1, 1, by decide⟩, 0, 0, 0, by decide⟩

end GoopOperator

open GoopOperator

/-- Runs the program. -/
def main (args : List String) : IO UInt32 := do
  let environment ← CommandLine.variables.filterMapM fun name => do
    return (← IO.getEnv name).map fun value => (name, value)
  let get? (name : String) : Option String := environment.lookup name
  let cluster : Option (Api.Server Unit) := none
  let (progress, _) := CommandLine.execute args cluster get? (fun _ => .epoch) (.new ())
  match progress with
  | .finished outcome =>
    IO.print outcome.stdout
    IO.eprint outcome.stderr
    return UInt32.ofNat outcome.exit
  | .watching .. => return 0
