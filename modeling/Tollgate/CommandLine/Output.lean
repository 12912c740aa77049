import Tollgate.CommandLine.Help
import Tollgate.Failure

/-!
What a run of the program leaves behind: its lines on both outputs and its exit code.
-/

namespace Tollgate.CommandLine

/-- The lines written and the exit code. -/
structure Output where
  exit : Nat := 0
  out : List String := []
  err : List String := []
deriving DecidableEq, Repr

namespace Output

/-- The output of a run that fails after some lines: what was being done, and the cause, every line
of which is moved in. -/
def failed (out : List String) (context : String) (cause : Failure) : Output where
  exit := 1
  out := out
  err := [s!"Error: {context}", "", "Caused by:"] ++
    (cause.message.splitOn "\n").map fun line => "    " ++ line

/-- The output of a run that has no command to perform. -/
def ofStop : Stop → Output
  | .help topic => { out := Help.page topic }
  | .version => { out := ["tollgate 0.1.0"] }
  | .fault => { exit := 2, err := [Help.usage none, "", "For more information, try '--help'."] }

end Output

end Tollgate.CommandLine
