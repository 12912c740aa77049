import Tollgate.Cache.Concern

/-!
What a guard remembers: one cache for each concern.
-/

namespace Tollgate.Guard

/-- The caches of all concerns. -/
structure Memory where
  apiKeys : ConcernCache .apiKeys
  permissions : ConcernCache .permissions
  serviceActive : ConcernCache .serviceActive

namespace Memory

/-- Empty caches. -/
def ofSettings (s : CachesSettings) : Memory where
  apiKeys := .ofSettings s.apiKeys
  permissions := .ofSettings s.permissions
  serviceActive := .ofSettings s.serviceActive

/-- The cache of a concern. -/
def cache (m : Memory) : (c : Concern) → ConcernCache c
  | .apiKeys => m.apiKeys
  | .permissions => m.permissions
  | .serviceActive => m.serviceActive

/-- The memory with another cache for a concern. -/
def withCache (m : Memory) : (c : Concern) → ConcernCache c → Memory
  | .apiKeys, cache => { m with apiKeys := cache }
  | .permissions, cache => { m with permissions := cache }
  | .serviceActive, cache => { m with serviceActive := cache }

/-- Looks a fact up. -/
def look (m : Memory) (c : Concern) (s : ServiceId) (now : Nat) : Option c.Fact × Memory :=
  let (fact, cache) := (m.cache c).get s now
  (fact, m.withCache c cache)

/-- Remembers a fact. -/
def learn (m : Memory) (c : Concern) (s : ServiceId) (fact : c.Fact) (now : Nat) : Memory :=
  m.withCache c ((m.cache c).put s fact now)

/-- Forgets all about a service. -/
def invalidate (m : Memory) (s : ServiceId) (now : Nat) : Memory where
  apiKeys := m.apiKeys.invalidate s now
  permissions := m.permissions.invalidate s now
  serviceActive := m.serviceActive.invalidate s now

/-- Forgets all. -/
def clear (m : Memory) : Memory where
  apiKeys := m.apiKeys.clear
  permissions := m.permissions.clear
  serviceActive := m.serviceActive.clear

end Memory

end Tollgate.Guard
