import Tollgate.Failure
import Tollgate.Table
import Tollgate.Text.Literal

/-!
Named connections, and sessions that route queries to them. A session goes to the default bind
unless it is marked with the name of another, and a mark holds for one query only, whether that
finds a connection or not.
-/

namespace Tollgate

/-- The name of the default bind. -/
def primaryBind : String := "primary"

/-- The name of the bind to read from. -/
def replicaBind : String := "replica"

/-- Named connections, the default one among them. -/
structure Binds (C : Type) where
  connections : Table String C
  hasPrimary : (connections.get? primaryBind).isSome

namespace Binds

variable {C : Type}

/-- The default connection alone. -/
def new (primary : C) : Binds C where
  connections := Table.empty.put primaryBind primary
  hasPrimary := by simp [Table.get?_put]

/-- Adds a connection under a name, in place of any other. -/
def withBind (b : Binds C) (name : String) (connection : C) : Binds C where
  connections := b.connections.put name connection
  hasPrimary := by
    rw [Table.get?_put]
    split
    · rfl
    · exact b.hasPrimary

/-- Adds the connection to read from. -/
def withReplica (b : Binds C) (connection : C) : Binds C :=
  b.withBind replicaBind connection

/-- Whether a name has a connection. -/
def contains (b : Binds C) (name : String) : Bool :=
  b.connections.contains name

/-- The connection of a name. -/
def get (b : Binds C) (name : String) : Outcome C :=
  match b.connections.get? name with
  | some connection => .ok connection
  | none => .error (.unknownBind name)

/-- The names in order, and the default one, for a reader of logs. -/
def describe (b : Binds C) : String :=
  let names := b.connections.keys.mergeSort (· ≤ ·)
  "Binds \x7b default_bind: " ++ Text.literal primaryBind ++ ", binds: [" ++
    ", ".intercalate (names.map Text.literal) ++ "] \x7d"

end Binds

/-- A session, perhaps with a mark that its next query goes to another bind. -/
structure RoutingSession where
  mark : Option String := none
deriving DecidableEq, Repr

namespace RoutingSession

/-- The bind that the next query goes to. -/
def bindName (s : RoutingSession) : String :=
  s.mark.getD primaryBind

/-- The session marked for the next query. -/
def marked (_ : RoutingSession) (name : String) : RoutingSession where
  mark := some name

/-- The connection for one query, and the session without its mark. -/
def resolve {C : Type} (s : RoutingSession) (b : Binds C) : Outcome C × RoutingSession :=
  (b.get s.bindName, {})

end RoutingSession

namespace Binds

variable {C A : Type}

/-- Runs a query on the connection of a name. -/
def runOnBind (b : Binds C) (name : String) (query : C → Outcome A) : Outcome A := do
  query (← (RoutingSession.marked {} name |>.resolve b).1)

/-- Runs a query on the connection to read from. -/
def withReadReplica (b : Binds C) (query : C → Outcome A) : Outcome A :=
  b.runOnBind replicaBind query

end Binds

end Tollgate
