import Tollgate.Guard.Scene

/-!
How a plan runs while time passes, with no other call under way. A call reads the clock of the caches
whenever it comes to them, so the clock may move on within the call.
-/

namespace Tollgate.Guard

variable {C S B A : Type}

/-- The scene at a time of the caches' clock. -/
def Scene.atTime (x : Scene C S B) (elapsed : Nat) : Scene C S B :=
  { x with clock := { elapsed } }

/-- Runs a plan alone, at its `n`-th step and after it at the times that the clock shows for these
steps. Tells how many steps there were, too. -/
def paced (g : Guard C S B) (time : Nat → Nat) :
    Plan A → Nat → Scene C S B → Outcome A × Nat × Scene C S B
  | .done outcome, n, x => (outcome, n, x.atTime (time n))
  | .note k rest, n, x => g.paced time rest (n + 1) ((x.atTime (time n)).note k)
  | .look c s next, n, x =>
    let (fact, x) := (x.atTime (time n)).look c s
    g.paced time (next fact) (n + 1) x
  | .enter _ _ rest, n, x => g.paced time rest (n + 1) (x.atTime (time n))
  | .leave _ _ rest, n, x => g.paced time rest (n + 1) (x.atTime (time n))
  | .ask bind q s next, n, x =>
    match g.binds.runOnBind bind .ok with
    | .error e => g.paced time (next (.error e)) (n + 1) (x.atTime (time n))
    | .ok connection =>
      let (outcome, x) := (x.atTime (time n)).ask g.authority connection q s
      g.paced time (next outcome) (n + 1) x
  | .learn c s fact rest, n, x => g.paced time rest (n + 1) ((x.atTime (time n)).learn c s fact)
  | .count cmd next, n, x =>
    let (outcome, x) := (x.atTime (time n)).count g.counters cmd
    g.paced time (next outcome) (n + 1) x

end Tollgate.Guard
