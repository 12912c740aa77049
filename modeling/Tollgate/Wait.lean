/-!
How long anything is waited for: as long as it takes, but no longer than thirty years.
-/

namespace Tollgate

/-- Thirty years of 365 days in milliseconds. -/
def longestWaitMs : Nat :=
  30 * 365 * 86400 * 1000

/-- The milliseconds that pass when so many are to be waited for. -/
def waitMs (ms : Nat) : Nat :=
  min ms longestWaitMs

end Tollgate
