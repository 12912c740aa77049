import Tollgate.Counter.Client

/-!
Runs of several clients that share one store, in any order. A store in memory may go and come back
between their operations.
-/

namespace Tollgate.Counter

/-- One operation of a client: a command, under the client's own policy or another, or a daily
count. -/
inductive Op
  | run (client : Nat) (policy : Option FailurePolicy) (cmd : Command)
  | incrementDaily (client : Nat) (service : ServiceId)
  | dailyCount (client : Nat) (service : ServiceId)

/-- What an operation answers. -/
inductive Reply
  | told (cmd : Command) (outcome : Outcome cmd.Told)
  | count (outcome : Outcome (Option Int))
  | answered (cmd : Command) (outcome : Outcome cmd.Answer)
  | done

/-- Clients, the store they share and the day. -/
structure System (S : Type) where
  clients : List (Client S)
  store : S
  today : Date

namespace System

variable {S : Type}

/-- The client of a number; there is a disabled one for every number that was not given out. -/
def client (s : System S) (i : Nat) : Client S :=
  s.clients.getD i .disabled

/-- Runs one operation. -/
def step (s : System S) : Op → Reply × System S
  | .run i policy cmd =>
    let c := s.client i
    let (outcome, store) := c.runUnder (policy.getD c.policy) cmd s.store
    (.told cmd outcome, { s with store := store })
  | .incrementDaily i service =>
    let (outcome, store) := (s.client i).incrementDaily s.today service s.store
    (.count outcome, { s with store := store })
  | .dailyCount i service =>
    let (outcome, store) := (s.client i).dailyCount s.today service s.store
    (.count outcome, { s with store := store })

end System

/-- What happens to clients of a store in memory: an operation, a switch of the store, or a command
given to the store itself. -/
inductive Event
  | op (op : Op)
  | setAvailable (available : Bool)
  | direct (cmd : Command)

/-- Lets one thing happen. -/
def System.happen (s : System Ledger) : Event → Reply × System Ledger
  | .op op => s.step op
  | .setAvailable available => (.done, { s with store := { s.store with available } })
  | .direct cmd =>
    let (outcome, store) := s.store.run cmd
    (.answered cmd outcome, { s with store := store })

end Tollgate.Counter
