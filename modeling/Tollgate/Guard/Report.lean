import Tollgate.Guard.Scene

/-!
The reports of a guard as metrics.
-/

namespace Tollgate.Guard

/-- The name and the sample of a report. A load tells how many milliseconds it took. -/
def Note.metric (loadMs : Nat) : Note → String × Metrics.Sample
  | .hit c => (s!"auth-cache.{c.name}.hit", .count 1)
  | .miss c => (s!"auth-cache.{c.name}.miss", .count 1)
  | .load c => (s!"auth-cache.{c.name}.load", .timing loadMs)
  | .loadFailure => ("auth.load-failure", .count 1)
  | .limitExceeded => ("rate-limit.exceeded", .count 1)
  | .size c n => (s!"auth-cache.{c.name}.size", .gauge n)

/-- The reports among deeds, the oldest first. -/
def notes {C : Type} (deeds : List (Deed C)) : List Note :=
  deeds.reverse.filterMap fun
    | .noted n => some n
    | _ => none

/-- The lines that deeds send. -/
def lines {C : Type} (sink : Metrics.Sink) (loadMs : Nat) (deeds : List (Deed C)) : List String :=
  (notes deeds).flatMap fun n => sink.send (n.metric loadMs).1 (n.metric loadMs).2

end Tollgate.Guard
