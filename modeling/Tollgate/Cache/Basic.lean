/-!
A bounded cache whose entries live for a fixed time. The entries stand in order of use, the most
recent first; a full cache first drops what has expired and only then the entry least recently
used.

Expired entries stay until a lookup of their key, a full cache or a purge meets them, so nothing
but the size, the ages and the count of expirations tells when they were dropped.
-/

namespace Tollgate

/-- The last instant a clock can show, in nanoseconds from its origin: 2^63 seconds less one
nanosecond. -/
def lastInstant : Nat :=
  9223372036854775808 * 1000000000 - 1

/-- The instant `span` after `now`, if a clock can show it. -/
def instantAfter? (now span : Nat) : Option Nat :=
  if now + span ≤ lastInstant then some (now + span) else none

/-- A stored value with the instant it was stored at and the first instant it no longer lives; an
entry without the latter never expires. -/
structure Cache.Entry (V : Type) where
  value : V
  insertedAt : Nat
  expiresAt : Option Nat
deriving DecidableEq, Repr

/-- Whether the entry's time is up: its last instant alive is the one before `expiresAt`. -/
def Cache.Entry.isExpired {V : Type} (e : Cache.Entry V) (now : Nat) : Bool :=
  match e.expiresAt with
  | none => false
  | some t => decide (t ≤ now)

/-- A cache of time to live `ttl` and at most `capacity` entries, with its counts of hits, misses,
entries pushed out and entries found expired. -/
structure Cache (K V : Type) where
  ttl : Nat
  capacity : Nat
  entries : List (K × Cache.Entry V) := []
  hits : Nat := 0
  misses : Nat := 0
  evictions : Nat := 0
  expirations : Nat := 0
deriving Repr

/-- The figures a cache reports about itself. -/
structure Cache.Stats where
  hits : Nat
  misses : Nat
  evictions : Nat
  expirations : Nat
  size : Nat
  capacity : Nat
deriving DecidableEq, Repr

/-- The share of lookups that hit; zero when there were none. -/
def Cache.Stats.hitRatio (s : Cache.Stats) : Float :=
  if s.hits + s.misses = 0 then 0 else Float.ofNat s.hits / Float.ofNat (s.hits + s.misses)

namespace Cache

variable {K V : Type}

/-- An empty cache. A capacity of zero counts as one. -/
def empty (ttl capacity : Nat) : Cache K V where
  ttl := ttl
  capacity := max capacity 1

/-- The number of entries stored, the expired ones included. -/
def size (c : Cache K V) : Nat :=
  c.entries.length

def stats (c : Cache K V) : Stats where
  hits := c.hits
  misses := c.misses
  evictions := c.evictions
  expirations := c.expirations
  size := c.size
  capacity := c.capacity

/-- Drops every entry whose time is up and counts them as expired. -/
def purge (c : Cache K V) (now : Nat) : Cache K V :=
  { c with
    entries := c.entries.filter fun p => !p.2.isExpired now
    expirations := c.expirations + c.entries.countP fun p => p.2.isExpired now }

/-- The number of entries that `purge` would drop. -/
def expiredCount (c : Cache K V) (now : Nat) : Nat :=
  c.entries.countP fun p => p.2.isExpired now

/-- Drops all entries and counts nothing. -/
def clear (c : Cache K V) : Cache K V :=
  { c with entries := [] }

variable [DecidableEq K]

/-- The entry stored under a key, expired or not. -/
def peek? (c : Cache K V) (k : K) : Option (Entry V) :=
  (c.entries.find? fun p => p.1 = k).map (·.2)

/-- The entries of all other keys. -/
def others (c : Cache K V) (k : K) : List (K × Entry V) :=
  c.entries.filter fun p => p.1 ≠ k

/-- Looks a key up. A live entry is a hit and becomes the most recent; an expired one is dropped and
counts as an expiration and a miss. -/
def get (c : Cache K V) (k : K) (now : Nat) : Option V × Cache K V :=
  match c.peek? k with
  | none => (none, { c with misses := c.misses + 1 })
  | some e =>
    if e.isExpired now then
      (none, { c with
        entries := c.others k
        expirations := c.expirations + 1
        misses := c.misses + 1 })
    else (some e.value, { c with entries := (k, e) :: c.others k, hits := c.hits + 1 })

/-- Whether a lookup would hit; this itself counts as none. -/
def contains (c : Cache K V) (k : K) (now : Nat) : Bool :=
  (c.peek? k).any fun e => !e.isExpired now

/-- The time since the key was stored, expired or not. -/
def age? (c : Cache K V) (k : K) (now : Nat) : Option Nat :=
  (c.peek? k).map fun e => now - e.insertedAt

/-- Puts an entry in front. If the cache is full without the key, the last entry is pushed out. -/
def push (c : Cache K V) (k : K) (e : Entry V) : Cache K V :=
  let kept := c.others k
  if kept.length < c.capacity then { c with entries := (k, e) :: kept }
  else { c with entries := (k, e) :: kept.dropLast, evictions := c.evictions + 1 }

/-- Stores a value as of `now`. A key not yet stored in a full cache makes the expired entries give
way first. -/
def put (c : Cache K V) (k : K) (v : V) (now : Nat) : Cache K V :=
  let c := if (c.peek? k).isNone ∧ c.capacity ≤ c.size then c.purge now else c
  c.push k { value := v, insertedAt := now, expiresAt := instantAfter? now c.ttl }

/-- Drops a key and yields its value if it was still alive. -/
def remove (c : Cache K V) (k : K) (now : Nat) : Option V × Cache K V :=
  (((c.peek? k).filter fun e => !e.isExpired now).map (·.value),
    { c with entries := c.others k })

end Cache

end Tollgate
