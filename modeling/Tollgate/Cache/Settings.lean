import Tollgate.Record

/-!
How long and how much the cache of each concern remembers.
-/

namespace Tollgate

/-- The settings of one cache: how many seconds an entry lives, and how many entries it holds. -/
structure CacheSettings where
  ttlSeconds : UInt64
  capacity : UInt64
deriving DecidableEq, Repr

/-- The time to live in nanoseconds. -/
def CacheSettings.ttl (s : CacheSettings) : Nat :=
  s.ttlSeconds.toNat * 1000000000

/-- The number of entries of a cache that is told nothing else. -/
def defaultCapacity : UInt64 := 1024

/-- The settings of a concern that is told nothing else. A key may take ten seconds to lose its
rights; a permission or the active flag takes two. -/
def Concern.defaultSettings : Concern → CacheSettings
  | apiKeys => ⟨10, defaultCapacity⟩
  | permissions => ⟨2, defaultCapacity⟩
  | serviceActive => ⟨2, defaultCapacity⟩

/-- The settings of all caches. -/
structure CachesSettings where
  apiKeys : CacheSettings := Concern.apiKeys.defaultSettings
  permissions : CacheSettings := Concern.permissions.defaultSettings
  serviceActive : CacheSettings := Concern.serviceActive.defaultSettings
deriving DecidableEq, Repr

/-- The settings for one concern. -/
def CachesSettings.of (s : CachesSettings) : Concern → CacheSettings
  | .apiKeys => s.apiKeys
  | .permissions => s.permissions
  | .serviceActive => s.serviceActive

end Tollgate
