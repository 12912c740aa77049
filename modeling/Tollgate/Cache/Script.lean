import Tollgate.Cache.Basic

/-!
Runs of a cache against a clock. An operation may be a load, whose loader is itself a run on the
same cache: it is started only by a miss, and what it yields is stored after it has ended.
-/

namespace Tollgate.Cache

/-- A clock that moves when told to. It knows how far it was moved, but shows no instant after the
last one; a stopped clock always shows its origin. -/
structure Clock where
  elapsed : Nat := 0
  stopped : Bool := false
deriving DecidableEq, Repr

namespace Clock

/-- The instant a clock shows. -/
def now (c : Clock) : Nat :=
  if c.stopped then 0 else min c.elapsed lastInstant

/-- Moves the clock forward. -/
def advance (c : Clock) (span : Nat) : Clock :=
  { c with elapsed := c.elapsed + span }

end Clock

/-- One operation of a run. -/
inductive Op (K V : Type)
  | put (k : K) (v : V)
  | get (k : K)
  | contains (k : K)
  | age (k : K)
  | remove (k : K)
  | clear
  | purge
  | isEmpty
  | info
  | advance (span : Nat)
  | load (k : K) (loader : List (Op K V)) (result : Option V)

/-- What an operation answers. A load tells the value it ended with and what its loader's
operations answered, if the loader ran. -/
inductive Reply (V : Type)
  | done
  | value (v : Option V)
  | flag (b : Bool)
  | age (span : Option Nat)
  | count (n : Nat)
  | info (ttl : Nat) (stats : Stats)
  | elapsed (span : Nat)
  | loaded (v : Option V) (loader : Option (List (Reply V × Stats)))

/-- A cache and the clock it reads. -/
structure Session (K V : Type) where
  cache : Cache K V
  clock : Clock := {}

namespace Session

variable {K V : Type} [DecidableEq K]

mutual

/-- Runs one operation. -/
def step : Op K V → Session K V → Reply V × Session K V
  | .put k v, s => (.done, { s with cache := s.cache.put k v s.clock.now })
  | .get k, s =>
    let (v, c) := s.cache.get k s.clock.now
    (.value v, { s with cache := c })
  | .contains k, s => (.flag (s.cache.contains k s.clock.now), s)
  | .age k, s => (.age (s.cache.age? k s.clock.now), s)
  | .remove k, s =>
    let (v, c) := s.cache.remove k s.clock.now
    (.value v, { s with cache := c })
  | .clear, s => (.done, { s with cache := s.cache.clear })
  | .purge, s =>
    (.count (s.cache.expiredCount s.clock.now), { s with cache := s.cache.purge s.clock.now })
  | .isEmpty, s => (.flag s.cache.entries.isEmpty, s)
  | .info, s => (.info s.cache.ttl s.cache.stats, s)
  | .advance span, s =>
    let clock := s.clock.advance span
    (.elapsed clock.elapsed, { s with clock := clock })
  | .load k loader result, s =>
    match s.cache.get k s.clock.now with
    | (some v, c) => (.loaded (some v) none, { s with cache := c })
    | (none, c) =>
      let (log, s) := run loader { s with cache := c }
      match result with
      | none => (.loaded none (some log), s)
      | some v => (.loaded (some v) (some log), { s with cache := s.cache.put k v s.clock.now })

/-- Runs operations in order. Each answer comes with the figures of the cache after it. -/
def run : List (Op K V) → Session K V → List (Reply V × Stats) × Session K V
  | [], s => ([], s)
  | op :: ops, s =>
    let (reply, s) := step op s
    let (log, final) := run ops s
    ((reply, s.cache.stats) :: log, final)

end

end Session

end Tollgate.Cache
