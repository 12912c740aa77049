import Tollgate.Config.Basic
import Tollgate.Counter.Backend
import Tollgate.Counter.Key

/-!
Clients of a counter store. Every command runs under one timeout, and a failure that may pass is
told or swallowed as the policy says. A disabled client has no store at all: it finds nothing and
stores nothing, and neither is a failure.
-/

namespace Tollgate

/-- What a policy makes of an outcome. An open one swallows what may pass. -/
def FailurePolicy.judge {α : Type} (p : FailurePolicy) : Outcome α → Outcome (Option α)
  | .ok a => .ok (some a)
  | .error f => if f.isRecoverable && p == .failOpen then .ok none else .error f

namespace Counter

/-- A client of a store with states `S`. -/
structure Client (S : Type) where
  backend : Option (Backend S)
  policy : FailurePolicy
  timeoutMs : Nat

namespace Client

variable {S : Type}

/-- The client without a store. -/
def disabled : Client S where
  backend := none
  policy := .failOpen
  timeoutMs := 0

/-- Whether the client has a store. -/
def isEnabled (c : Client S) : Bool :=
  c.backend.isSome

/-- The timeout in nanoseconds. -/
def timeout (c : Client S) : Nat :=
  c.timeoutMs * 1000000

/-- Runs a command under a policy. -/
def runUnder (c : Client S) (policy : FailurePolicy) (cmd : Command) (s : S) :
    Outcome cmd.Told × S :=
  match c.backend with
  | none => (.ok (cmd.told none), s)
  | some b =>
    let (answer, s) := b.call c.timeoutMs cmd s
    ((policy.judge (answer.getD (.error (.storeTimeout c.timeoutMs)))).map cmd.told, s)

/-- Runs a command under the client's own policy. -/
def run (c : Client S) (cmd : Command) (s : S) : Outcome cmd.Told × S :=
  c.runUnder c.policy cmd s

end Client

/-- The count that a reader sees in stored bytes: a numeral with white space around it. -/
def readCount (key : String) : Option Bytes → Outcome (Option Int)
  | none => .ok none
  | some bytes =>
    match (Utf8.decode? bytes).bind fun cs => Decimal.readInt64? (Text.trim cs) with
    | some n => .ok (some n)
    | none => .error (.invalidCount key (String.ofList (Utf8.decodeLossy bytes)))

/-- The key under which the sends of a service are counted on a day. -/
def dailyKey (today : Date) (service : ServiceId) : String :=
  CounterKey.text { service, date := today }

namespace Client

variable {S : Type}

/-- Counts one more send of a service today, and tells the new count. -/
def incrementDaily (c : Client S) (today : Date) (service : ServiceId) (s : S) :
    Outcome (Option Int) × S :=
  c.run (.incr (dailyKey today service)) s

/-- The sends of a service counted today. -/
def dailyCount (c : Client S) (today : Date) (service : ServiceId) (s : S) :
    Outcome (Option Int) × S :=
  let key := dailyKey today service
  let (found, s) := c.run (.get key) s
  (found >>= readCount key, s)

end Client

end Counter

end Tollgate
