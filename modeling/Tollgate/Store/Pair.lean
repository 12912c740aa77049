import Tollgate.Store.Memory

/-!
Two stores side by side: the one that is written to, and the one that is read from.
-/

namespace Tollgate

/-- One of two stores. -/
inductive Side
  | primary
  | replica
deriving DecidableEq, Repr

/-- Two stores, each behind its stage. -/
structure StorePair where
  primary : StagedStore := { store := { label := "primary" } }
  replica : StagedStore := { store := { label := "replica" } }

namespace StorePair

/-- The store of one side. -/
def side (p : StorePair) : Side → StagedStore
  | .primary => p.primary
  | .replica => p.replica

/-- The pair with another store on one side. -/
def withSide (p : StorePair) (store : StagedStore) : Side → StorePair
  | .primary => { p with primary := store }
  | .replica => { p with replica := store }

/-- Asks one side. -/
def fetch (side : Side) : Authority StorePair := fun q s p =>
  let (outcome, store) := (p.side side).fetch q s
  (outcome, p.withSide store side)

/-- The delay of questions to one side. -/
def delayMs (side : Side) (p : StorePair) : Nat :=
  (p.side side).delayMs

/-- Changes one side from outside. -/
def change (p : StorePair) (side : Side) (c : StoreChange) : Option Bool × StorePair :=
  let (known, store) := (p.side side).change c
  (known, p.withSide store side)

end StorePair

end Tollgate
