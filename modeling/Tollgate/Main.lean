import Std.Time.DateTime
import Tollgate.CommandLine.Commands

/-!
The program. It reads its arguments, the variables that are set and a file `.env` beside it, and
writes what the command puts out. It opens no connections: a counter store behind an address is one
that cannot be reached, and metrics go nowhere.
-/

namespace Tollgate.CommandLine

/-- The instant that the clock of the system shows. -/
def readPresent : IO Guard.Present := do
  let seconds := (← Std.Time.Timestamp.now).toSecondsSinceUnixEpoch.toInt.toNat
  let date := Date.afterEpoch (seconds / 86400)
  return ⟨(Timestamp.ofParts? date (seconds % 86400) 0).getD (.midnight date)⟩

/-- The text of the file of variables, if it can be read. -/
def readFile : IO (Option String) := do
  try
    return some (← IO.FS.readFile ".env")
  catch _ =>
    return none

/-- The variables of the system that settings or the file may refer to. -/
def readVars (file : Option String) : IO Environment.Lookup := do
  let names := Environment.names ++ (file.map EnvFile.namesIn).getD []
  let found ← names.filterMapM fun name => do
    return (← IO.getEnv name).map fun value => (name, value)
  return fun name => found.lookup name

/-- Soaks the caches and takes the time. -/
def soakNow (s : Settings) (present : Guard.Present) (size : SoakSize) : IO Output := do
  IO.println (Soak.opening size)
  let start ← IO.monoNanosNow
  let mut x := Soak.start s size .numbered
  for _ in [0:size.requests] do
    let elapsed := (← IO.monoNanosNow) - start
    x := x.step present (fun _ => elapsed) 0
  let elapsed := (← IO.monoNanosNow) - start
  return { out := x.results (.ofMeasured size.requests elapsed) }

/-- Performs a command now. -/
def performNow (present : Guard.Present) (s : Settings) (cmd : Command) : IO Output := do
  match cmd with
  | .soak size => soakNow s present size
  | cmd =>
    let unmeasured : SoakFigures := .ofMeasured 0 0
    let unreachable : Counter.Redis.Server := { reachable := false }
    return (perform present (fun _ => 0) unmeasured s cmd unreachable).1

end Tollgate.CommandLine

open Tollgate.CommandLine in
/-- Runs the program with its arguments and yields its exit code. -/
def main (args : List String) : IO UInt32 := do
  let file ← readFile
  let vars ← readVars file
  let present ← readPresent
  let output ← run args vars file (performNow present)
  output.out.forM IO.println
  output.err.forM fun line => IO.eprintln line
  return UInt32.ofNat output.exit
