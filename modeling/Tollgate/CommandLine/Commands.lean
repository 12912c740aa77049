import Tollgate.CommandLine.Output
import Tollgate.CommandLine.SoakReport
import Tollgate.Config.Document
import Tollgate.Config.EnvFile
import Tollgate.Counter.Redis

/-!
The commands of the program: what each writes, given the settings, the day and a counter store.
-/

namespace Tollgate.CommandLine

open Counter

/-- The settings of a run: from the variables that are set and those of a file, with the failure
policy that the flag asks for. -/
def settings (vars : Environment.Lookup) (file : Option String) (failClosed : Bool) :
    Outcome Settings := do
  let s ← Environment.settings (file.elim vars (EnvFile.load vars))
  if failClosed then return { s with counter := { s.counter with policy := .failClosed } }
  else return s

/-- Writes the settings. -/
def showSettings (s : Settings) : Output where
  out := "⚙️  Effective configuration" ::
    (s.toJson.indented.toList.splitOn '\n').map String.ofList

/-- The warning of a client that has no store. -/
def disabledWarning {S : Type} (c : Client S) : List String :=
  if c.isEnabled then []
  else ["⚠️  Counter store disabled; set REDIS_ENABLED=true to use Redis"]

/-- The commands on the counter of a service. -/
inductive CounterCommand
  | count
  | read
  | reset
deriving DecidableEq, Repr

/-- Runs a command on the counter of a service with a client, and yields the line that tells its
success. -/
def CounterCommand.perform {S : Type} (c : Client S) (today : Date) (service : ServiceId) (s : S) :
    CounterCommand → Outcome String × S
  | count =>
    let (outcome, s) := c.incrementDaily today service s
    (outcome.map fun
      | some n => s!"✅ {dailyKey today service} = " ++ Decimal.signedText n
      | none => s!"➖ {dailyKey today service} not counted", s)
  | read =>
    let (outcome, s) := c.dailyCount today service s
    (outcome.map fun n => s!"{dailyKey today service} " ++ Decimal.signedText (n.getD 0), s)
  | reset =>
    let (outcome, s) := c.run (.delete (dailyKey today service)) s
    (outcome.map fun _ => s!"✅ {dailyKey today service} reset", s)

/-- What was being done when a command fails. -/
def CounterCommand.context : CounterCommand → String
  | count => "Failed to increment counter"
  | read => "Failed to read counter"
  | reset => "Failed to reset counter"

/-- Runs a command on the counter of a service, with the client that the settings ask for. -/
def runCounter (s : Settings) (today : Date) (cmd : CounterCommand) (service : ServiceId)
    (server : Redis.Server) : Output × Redis.Server :=
  match Client.ofSettings s.counter with
  | .error e => (.failed [] "Failed to configure counter store" e, server)
  | .ok c =>
    let (outcome, server) := cmd.perform c today service server
    match outcome with
    | .ok line => ({ out := disabledWarning c ++ [line] }, server)
    | .error e => (.failed (disabledWarning c) cmd.context e, server)

/-- Soaks the caches, each request at the one time that a clock shows for it, and writes the results
with the figures given. -/
def runSoak (s : Settings) (present : Guard.Present) (clock : Nat → Nat) (figures : SoakFigures)
    (size : SoakSize) : Output where
  out :=
    let x := Soak.run (fun _ => present) (fun i _ => clock i) size.requests
      (Soak.start s size .numbered)
    Soak.opening size :: x.results figures

/-- Runs the program: judges the arguments, reads the settings, and performs the command. -/
def run {m : Type → Type} [Monad m] (args : List String) (vars : Environment.Lookup)
    (file : Option String) (perform : Settings → Command → m Output) : m Output :=
  match Invocation.ofArguments args with
  | .error stop => pure (.ofStop stop)
  | .ok invocation =>
    match settings vars file invocation.failClosed with
    | .error e => pure (.failed [] "Invalid configuration" e)
    | .ok s => perform s invocation.command

/-- Performs a command with a counter store in reach. -/
def perform (present : Guard.Present) (clock : Nat → Nat) (figures : SoakFigures) (s : Settings)
    (cmd : Command) : StateM Redis.Server Output :=
  match cmd with
  | .config => pure (showSettings s)
  | .count service => runCounter s present.today .count service
  | .getCount service => runCounter s present.today .read service
  | .reset service => runCounter s present.today .reset service
  | .soak size => pure (runSoak s present clock figures size)

end Tollgate.CommandLine
