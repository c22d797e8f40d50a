import TextLog.Cli.Commands
import Std.Time.DateTime.Timestamp

/-!
# The Program

The command line of the logger, on a real console.

What a run depends on is gathered first: the settings in the environment, the
file `.env` of the working directory, which may be missing, and the clock. The
run itself is a function of these and of the arguments, `Cli.run`; all that is
left to do here is to print what it printed and to end with its exit code.

## Main definitions

* `surroundings`: What this run depends on.
* `conclude`: Prints how a run ended.
-/

namespace TextLog

namespace Cli

open Time

/-- The names that the environment gives to settings. -/
def environmentNames : List String :=
  (Settings.toKeywords {}).map fun p => Settings.leadIn ++ p.1

/-- The moment at a number of nanoseconds from the epoch. -/
def momentAt (nanos : Int) : Moment :=
  ⟨DateTime.ofMicros ((epochSeconds : Int) * 1000000 + nanos / 1000).toNat, some 0⟩

/-- What this run depends on beside its arguments. -/
def surroundings : IO Surroundings := do
  let environment ← environmentNames.filterMapM fun name => do
    return (← IO.getEnv name).map fun value => (name, value)
  let file ← try IO.FS.readFile ".env" catch _ => pure ""
  let now ← Std.Time.Timestamp.now
  return ⟨environment, file, momentAt now.toNanosecondsSinceUnixEpoch.toInt⟩

/-- What is said about a run that did not do what was asked for. -/
def Outcome.complaint? (o : Outcome) : Option String :=
  match o.failure with
  | some f => some f.wording
  | none => if o.code = 2 then some "Usage: heliumlog [OPTIONS] COMMAND [ARGS]..." else none

/-- Prints how a run ended, and gives its exit code. -/
def conclude (o : Outcome) : IO UInt32 := do
  IO.print o.output
  match o.complaint? with
  | some complaint => IO.eprintln complaint
  | none => pure ()
  return o.code.toUInt32

end Cli

end TextLog

/-- Runs the program on its arguments. -/
def main (args : List String) : IO UInt32 := do
  TextLog.Cli.conclude (TextLog.Cli.run (← TextLog.Cli.surroundings) args)
