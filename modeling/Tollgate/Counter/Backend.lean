import Tollgate.Counter.Ledger
import Tollgate.Wait

/-!
What a counter client talks to: something that takes commands and may not answer in time.
-/

namespace Tollgate.Counter

/-- A store of counters with states `S`. Within a limit of milliseconds it answers a command, or it
does not. -/
structure Backend (S : Type) where
  name : String
  call : (limitMs : Nat) → (c : Command) → S → Option (Outcome c.Answer) × S

namespace Backend

/-- The store in memory, which answers at once. -/
def memory : Backend Ledger where
  name := "memory"
  call _ c l :=
    let (answer, l) := l.run c
    (some answer, l)

/-- A store behind a slow or broken line. Each command waits for `delayMs` first, and is lost if
that takes longer than the limit; then it fails, if there is a fault, and else reaches the store. -/
def behind {S : Type} (b : Backend S) (delayMs : Nat) (fault : Option Failure) : Backend S where
  name := b.name
  call limitMs c s :=
    if waitMs limitMs < waitMs delayMs then (none, s)
    else
      match fault with
      | some f => (some (.error f), s)
      | none => b.call (limitMs - waitMs delayMs) c s

end Backend

end Tollgate.Counter
