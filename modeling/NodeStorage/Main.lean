/-
**The program.**

The outer layer: it takes the command line, the environment and the time, writes what the report
says, and ends with its exit code.
-/

import NodeStorage.CommandLine.Program
import Std.Time

namespace NodeStorage

open CommandLine

/-- The variables of the environment that the program reads, as far as they are set. -/
def readEnvironment : IO Environment := do
  let sources := (globalOptions ++ commandSpecs.flatMap CommandSpec.options).map OptionSpec.source
  let entries ← sources.eraseDups.mapM fun source => do
    let value ← IO.getEnv source
    pure (value.map fun text => (source, text))
  pure (entries.filterMap id)

/-- The time, as it stands in a log. -/
def readTime : IO String := do
  let now ← Std.Time.Timestamp.now
  let nanoseconds := now.toNanosecondsSinceUnixEpoch.val
  pure (Instant.writeMicroseconds
    ⟨nanoseconds / 1000000000, (nanoseconds % 1000000000).toNat⟩)

end NodeStorage

open NodeStorage CommandLine in
/-- Runs the program as far as it gets without a cluster. -/
def main (words : List String) : IO UInt32 := do
  let environment ← readEnvironment
  let time ← readTime
  match start environment words time with
  | .finished exitCode output errors => do
    output.forM IO.println
    errors.forM fun line => IO.eprintln line
    pure exitCode.toUInt32
  | .ready output _ => do
    output.forM IO.println
    IO.eprintln "Error: no cluster is reachable"
    pure 1
