import LiveLog.CommandLine

/-!
# The program

The command line as a program. It reads the environment and the time, prints
what a run comes to, and exits with its code. The program has no network of its
own, so it finds every server out of reach; a program that has one runs the
command with what its requests come to.
-/

/-- Run the command once. -/
def main (args : List String) : IO UInt32 := do
  let environment ← LiveLog.CommandLine.variableNames.filterMapM fun name => do
    return (← IO.getEnv name).map fun value => (name, value)
  let now ← IO.monoMsNow
  let outcome := LiveLog.CommandLine.run args (fun name => environment.lookup name)
    (fun _ => .unanswered) now
  outcome.lines.forM IO.println
  outcome.usage.forM fun e => IO.eprintln ("error: " ++ e.message)
  outcome.error.forM fun e => IO.eprintln ("Error: " ++ e)
  return outcome.exitCode.toUInt32
