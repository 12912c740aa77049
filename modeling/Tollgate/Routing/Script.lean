import Tollgate.Routing.Binds

/-!
Runs of several sessions over the same connections.
-/

namespace Tollgate.Routing

/-- One operation. Sessions are known by the order in which they were opened. A query is given as
what it makes of its connection. -/
inductive Op (C : Type)
  | openSession
  | mark (session : Nat) (names : List String)
  | resolve (session : Nat)
  | resolveOn (session : Nat) (name : String)
  | bindName (session : Nat)
  | get (name : String)
  | contains (name : String)
  | defaultBind
  | describe
  | runOnBind (name : String) (query : C → Outcome String)
  | withReadReplica (query : C → Outcome String)

/-- What an operation answers. -/
inductive Reply (C : Type)
  | done
  | opened (session : Nat)
  | connection (outcome : Outcome C)
  | text (s : String)
  | flag (b : Bool)
  | result (outcome : Outcome String)

/-- Connections and the sessions over them. -/
structure State (C : Type) where
  binds : Binds C
  sessions : List RoutingSession := [{}]

namespace State

variable {C : Type}

/-- The session of a number. -/
def session (s : State C) (i : Nat) : RoutingSession :=
  s.sessions.getD i {}

/-- The state with a session in place of another. -/
def withSession (s : State C) (i : Nat) (session : RoutingSession) : State C :=
  { s with sessions := s.sessions.set i session }

/-- Runs one operation. -/
def step (s : State C) : Op C → Reply C × State C
  | .openSession =>
    (.opened s.sessions.length, { s with sessions := s.sessions ++ [{}] })
  | .mark i names => (.done, s.withSession i (names.foldl RoutingSession.marked (s.session i)))
  | .resolve i =>
    let (outcome, session) := (s.session i).resolve s.binds
    (.connection outcome, s.withSession i session)
  | .resolveOn i name =>
    let (outcome, session) := ((s.session i).marked name).resolve s.binds
    (.connection outcome, s.withSession i session)
  | .bindName i => (.text (s.session i).bindName, s)
  | .get name => (.connection (s.binds.get name), s)
  | .contains name => (.flag (s.binds.contains name), s)
  | .defaultBind => (.text primaryBind, s)
  | .describe => (.text s.binds.describe, s)
  | .runOnBind name query => (.result (s.binds.runOnBind name query), s)
  | .withReadReplica query => (.result (s.binds.withReadReplica query), s)

end State

end Tollgate.Routing
