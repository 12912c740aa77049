import Tollgate.Cache.Gate
import Tollgate.Cache.Script
import Tollgate.Cache.Settings

/-!
The cache of one concern, and the callers that take its load gates: one gate per service, so that
whoever misses a service waits only for the load of that service.
-/

namespace Tollgate

/-- A cache of the facts of one concern, by service. -/
abbrev ConcernCache (c : Concern) := Cache ServiceId c.Fact

/-- An empty cache of a concern. -/
def ConcernCache.ofSettings {c : Concern} (s : CacheSettings) : ConcernCache c :=
  Cache.empty s.ttl s.capacity.toNat

/-- Forgets what is known of a service. -/
def ConcernCache.invalidate {c : Concern} (cache : ConcernCache c) (s : ServiceId) (now : Nat) :
    ConcernCache c :=
  (Cache.remove cache s now).2

/-- Somebody who asked for the gate of a service, with the lock that stood behind it, and keeps it
until told to let go. -/
structure Caller where
  id : String
  service : ServiceId
  lock : LockId
  told : Bool := false
deriving DecidableEq

/-- One operation on the cache of a concern. -/
inductive ConcernOp (c : Concern)
  | get (s : ServiceId)
  | put (s : ServiceId) (fact : c.Fact)
  | invalidate (s : ServiceId)
  | clear
  | advance (span : Nat)
  | info
  | ask (id : String) (s : ServiceId)
  | release (id : String)
  | cancel (id : String)

/-- What an operation answers. -/
inductive ConcernReply (c : Concern)
  | done
  | fact (f : Option c.Fact)
  | info (ttl : Nat) (stats : Cache.Stats)

/-- The cache of a concern with its clock, the gates in use and the callers at them. -/
structure ConcernSession (c : Concern) where
  cache : ConcernCache c
  clock : Cache.Clock := {}
  gates : Gates ServiceId String := {}
  callers : List Caller := []

namespace ConcernSession

variable {c : Concern}

/-- Whether a caller has its gate. -/
def isHolding (s : ConcernSession c) (caller : Caller) : Bool :=
  s.gates.isHeldBy caller.lock caller.id

/-- A caller goes away. -/
def forget (s : ConcernSession c) (id : String) : List Caller :=
  s.callers.filter (·.id ≠ id)

/-- Lets callers that hold a gate and are told to let go do so, until none is left; each one that
leaves may hand its gate to another of them. -/
def settle : Nat → ConcernSession c → ConcernSession c
  | 0, s => s
  | fuel + 1, s =>
    match s.callers.find? fun caller => caller.told && s.isHolding caller with
    | none => s
    | some caller =>
      settle fuel { s with
        gates := s.gates.release caller.service caller.lock
        callers := s.forget caller.id }

/-- A caller drops out: it lets go of the gate it has, or stops waiting. -/
def cancel (s : ConcernSession c) (id : String) : ConcernSession c :=
  match s.callers.find? (·.id = id) with
  | none => s
  | some caller =>
    { s with
      gates :=
        if s.isHolding caller then s.gates.release caller.service caller.lock
        else s.gates.abandon caller.lock id
      callers := s.forget id }

/-- Runs one operation up to the point where callers may act. -/
def apply (s : ConcernSession c) : ConcernOp c → ConcernReply c × ConcernSession c
  | .get id =>
    let (fact, cache) := s.cache.get id s.clock.now
    (.fact fact, { s with cache := cache })
  | .put id fact => (.done, { s with cache := s.cache.put id fact s.clock.now })
  | .invalidate id => (.done, { s with cache := s.cache.invalidate id s.clock.now })
  | .clear => (.done, { s with cache := s.cache.clear })
  | .advance span => (.done, { s with clock := s.clock.advance span })
  | .info => (.info s.cache.ttl s.cache.stats, s)
  | .ask id service =>
    let (lock, gates) := s.gates.join service id
    (.done, { s with gates := gates, callers := s.callers ++ [{ id, service, lock }] })
  | .release id =>
    (.done, { s with
      callers := s.callers.map fun caller =>
        if caller.id = id then { caller with told := true } else caller })
  | .cancel id => (.done, s.cancel id)

/-- Runs one operation, and then every caller as far as it can go. -/
def step (s : ConcernSession c) (op : ConcernOp c) : ConcernReply c × ConcernSession c :=
  let (reply, s) := s.apply op
  (reply, s.settle s.callers.length)

end ConcernSession

end Tollgate
