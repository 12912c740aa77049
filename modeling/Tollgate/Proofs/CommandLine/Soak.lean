import Mathlib.Data.Nat.Count
import Tollgate.CommandLine.Soak
import Tollgate.Proofs.Cache.Rounds
import Tollgate.Proofs.Guard.DailyLimit
import Tollgate.Proofs.Guard.Pace

/-!
The figures of a soak in which no cache forgets by time. Each cache loads every service once if it
has room for them all, and else loads at every request, since what it drops is always the service
whose turn comes first. The caches have capacities of their own, so each has its own number of loads.
-/

namespace Tollgate.CommandLine

open Guard
open Counter (Ledger dailyKey)

theorem soakReplica_succ (ids : SoakIds) (services : Nat) :
    soakReplica ids (services + 1) =
      (soakReplica ids services).upsert (ids.service services) (soakSnapshot (ids.key services)) := by
  simp [soakReplica, List.range_succ]

theorem available_soakReplica (ids : SoakIds) (services : Nat) :
    (soakReplica ids services).available = true := by
  induction services with
  | zero => rfl
  | succ services ih => rwa [soakReplica_succ]

theorem queries_soakReplica (ids : SoakIds) (services : Nat) :
    (soakReplica ids services).queries = 0 := by
  induction services with
  | zero => rfl
  | succ services ih => rwa [soakReplica_succ]

/-- Every service of a soak is known to the replica, all alike but for their keys. -/
theorem exists_get?_soakReplica (ids : SoakIds) {services i : Nat} (h : i < services) :
    ∃ key, (soakReplica ids services).services.get? (ids.service i) =
      some (soakSnapshot key) := by
  induction services with
  | zero => omega
  | succ services ih =>
      rw [soakReplica_succ]
      simp only [MemoryStore.upsert, Table.get?_put]
      split
      · exact ⟨_, rfl⟩
      · next hOther =>
          refine ih (Nat.lt_of_le_of_ne (Nat.lt_succ_iff.1 h) ?_)
          rintro rfl
          exact hOther rfl

/-- What the replica tells of a service in a concern. -/
def soakFact (ids : SoakIds) (services : Nat) (c : Concern) (s : ServiceId) : c.Fact :=
  c.factOf (((soakReplica ids services).services.get? s).getD {})

theorem exists_soakFact (ids : SoakIds) {services i : Nat} (h : i < services) :
    ∃ key, ∀ c, soakFact ids services c (ids.service i) = c.factOf (soakSnapshot key) := by
  obtain ⟨key, hHeld⟩ := exists_get?_soakReplica ids h
  exact ⟨key, fun c => by rw [soakFact, hHeld, Option.getD_some]⟩

/-- The replica of a soak once it has been asked so many questions. -/
def askedReplica (ids : SoakIds) (services queries : Nat) : StagedStore where
  store := { soakReplica ids services with queries := queries }

theorem askedReplica_zero (ids : SoakIds) (services : Nat) :
    askedReplica ids services 0 = { store := soakReplica ids services } :=
  (congrArg (askedReplica ids services) (queries_soakReplica ids services)).symm

/-- The stores of a soak once the replica has been asked so many questions, and the primary none. -/
structure SoakStores (ids : SoakIds) (services queries : Nat) (p : StorePair) : Prop where
  primary_eq : p.primary.store.queries = 0
  replica_eq : p.replica = askedReplica ids services queries

/-- A question to the replica is answered, and counted. -/
theorem SoakStores.fetch {ids : SoakIds} {services queries : Nat} {p : StorePair}
    (h : SoakStores ids services queries p) (c : Concern) {i : Nat} (hi : i < services) :
    ∃ answer q, StorePair.fetch .replica (.fact c) (ids.service i) p = (.ok answer, q) ∧
      c.fact? answer = some (soakFact ids services c (ids.service i)) ∧
      SoakStores ids services (queries + 1) q := by
  obtain ⟨key, hHeld⟩ := exists_get?_soakReplica ids hi
  have hAvailable := available_soakReplica ids services
  have hFact : c.fact? (c.answerOf (some (soakSnapshot key))) =
      some (soakFact ids services c (ids.service i)) := by
    rw [soakFact, hHeld]
    cases c <;> rfl
  refine ⟨c.answerOf (some (soakSnapshot key)),
    { p with replica := askedReplica ids services (queries + 1) }, ?_, hFact, h.primary_eq, rfl⟩
  simp [StorePair.fetch, StorePair.side, StorePair.withSide, StagedStore.fetch, MemoryStore.fetch,
    askedReplica, h.replica_eq, hAvailable, hHeld, Question.answerOf]

section Lookups

/-- How many services the cache of a concern has room for. -/
def soakRoom (caches : CachesSettings) (c : Concern) : Nat :=
  max (caches.of c).capacity.toNat 1

/-- How often the replica is asked in a concern by so many requests for the services in turn. -/
def soakLoads (caches : CachesSettings) (services : Nat) (c : Concern) (n : Nat) : Nat :=
  Cache.loadsInTurn services (soakRoom caches c) n

/-- The questions to the replica once each concern was asked for so many times. -/
def soakQueries (caches : CachesSettings) (services : Nat) (asked : Concern → Nat) : Nat :=
  soakLoads caches services .apiKeys (asked .apiKeys) +
    soakLoads caches services .permissions (asked .permissions) +
    soakLoads caches services .serviceActive (asked .serviceActive)

theorem soakLoads_zero (caches : CachesSettings) (services : Nat) (c : Concern) :
    soakLoads caches services c 0 = 0 :=
  Nat.le_zero.1 (Cache.loadsInTurn_le _ _ _)

theorem soakQueries_zero (caches : CachesSettings) (services : Nat) :
    soakQueries caches services (fun _ => 0) = 0 := by
  simp only [soakQueries, soakLoads_zero]

/-- One concern more is asked for. -/
def onceMore (asked : Concern → Nat) (c : Concern) : Concern → Nat :=
  Function.update asked c (asked c + 1)

theorem onceMore_self (asked : Concern → Nat) (c : Concern) : onceMore asked c c = asked c + 1 :=
  Function.update_self _ _ _

theorem onceMore_of_ne (asked : Concern → Nat) {c d : Concern} (h : d ≠ c) :
    onceMore asked c d = asked d :=
  Function.update_of_ne h _ _

/-- The questions in one concern come on top of those in the others. -/
theorem soakQueries_onceMore (caches : CachesSettings) (services : Nat) (asked : Concern → Nat)
    (c : Concern) :
    soakQueries caches services (onceMore asked c) + soakLoads caches services c (asked c) =
      soakQueries caches services asked + soakLoads caches services c (asked c + 1) := by
  cases c <;> simp [soakQueries, onceMore, Function.update] <;> omega

/-- What a soak acts on, once each concern was asked for so many times, always for the services in
turn. Before the request that is under way there were so many loads of each concern. -/
structure InRounds (times : Set Nat) (caches : CachesSettings) (ids : SoakIds) (services : Nat)
    (before asked : Concern → Nat) (counts : Ledger) (x : Scene Side StorePair Ledger) : Prop where
  caches_inTurn : ∀ c, Cache.InTurn times ids.service (soakFact ids services c) services
    (caches.of c).ttl (soakRoom caches c) (asked c) (x.memory.cache c)
  loads_eq : ∀ c, before c + (questions x.deeds).count (.fact c) =
    soakLoads caches services c (asked c)
  stores : SoakStores ids services (soakQueries caches services asked) x.stores
  counts_eq : x.counts = counts

variable {s : Settings} {times : Set Nat} {ids : SoakIds} {services : Nat}
  {before asked : Concern → Nat} {counts : Ledger} {x : Scene Side StorePair Ledger}

/-- After a lookup only the cache of its concern is another one, and the replica has answered the
questions of that lookup. -/
theorem InRounds.afterLookup (h : InRounds times s.caches ids services before asked counts x)
    {c : Concern} {y : Scene Side StorePair Ledger} {cache : ConcernCache c} {loads : Nat}
    {stores : StorePair} (hAfter : AfterLookup x y c cache loads stores)
    (hCache : Cache.InTurn times ids.service (soakFact ids services c) services
      (s.caches.of c).ttl (soakRoom s.caches c) (asked c + 1) cache)
    (hLoads : soakLoads s.caches services c (asked c + 1) =
      soakLoads s.caches services c (asked c) + loads)
    (hStores : SoakStores ids services (soakQueries s.caches services asked + loads) stores) :
    InRounds times s.caches ids services before (onceMore asked c) counts y where
  caches_inTurn d := by
    by_cases hSame : d = c
    · subst hSame
      rw [hAfter.cache_eq, onceMore_self]
      exact hCache
    · rw [hAfter.others d hSame, onceMore_of_ne asked hSame]
      exact h.caches_inTurn d
  loads_eq d := by
    have hBefore := h.loads_eq d
    rw [hAfter.questions_eq, List.count_append]
    by_cases hSame : d = c
    · subst hSame
      rw [List.count_replicate_self, onceMore_self]
      omega
    · rw [List.count_replicate, if_neg (by simpa using Ne.symm hSame), onceMore_of_ne asked hSame]
      omega
  stores := by
    have hQueries := soakQueries_onceMore s.caches services asked c
    have hMore : soakQueries s.caches services (onceMore asked c) =
        soakQueries s.caches services asked + loads := by omega
    rw [hAfter.stores_eq, hMore]
    exact hStores
  counts_eq := hAfter.counts.trans h.counts_eq

/-- What makes the figures of a soak exact: there are services, which all differ, and whatever is
remembered at one time of the soak lives at all others. -/
structure Steady (caches : CachesSettings) (ids : SoakIds) (services : Nat) (times : Set Nat) :
    Prop where
  pos : 0 < services
  distinct : ∀ i < services, ∀ j < services, ids.service i = ids.service j → i = j
  brief : ∀ c, Cache.Brief (caches.of c).ttl times

namespace Steady

variable {time : Nat → Nat} (hSteady : Steady s.caches ids services times)
  (hShown : ∀ n, shown time n ∈ times)
include hSteady hShown

/-- A lookup of the service whose turn it is yields what the replica tells of it. -/
theorem lookup (c : Concern) (before asked : Concern → Nat) (counts : Ledger) :
    (soakGuard s).Leads time (InRounds times s.caches ids services before asked counts)
      (.lookup c (ids.service (asked c % services)))
      (.ok (some (soakFact ids services c (ids.service (asked c % services)))))
      (InRounds times s.caches ids services before (onceMore asked c) counts) := by
  intro n x h
  have hCache := h.caches_inTurn c
  -- The service is new in the first round, and in every round if there is no room for all.
  by_cases hNew : services ≤ soakRoom s.caches c → asked c < services
  · have hNone := (hCache.peek?_eq_none_iff hSteady.distinct hSteady.pos).2 hNew
    have hRoom : 0 < soakRoom s.caches c := Nat.lt_of_lt_of_le Nat.one_pos (Nat.le_max_right _ _)
    obtain ⟨answer, stores, hAnswer, hFact, hStores⟩ :=
      h.stores.fetch c (Nat.mod_lt (asked c) hSteady.pos)
    obtain ⟨m, y, hRun, hAfter⟩ :=
      (soakGuard s).paced_lookup_of_new hNone hAnswer hFact
    have hLoaded := hCache.loaded hSteady.distinct (hSteady.brief c) hSteady.pos hRoom hNew
      (shown time n) (shown time (n + 3)) (hShown (n + 6))
    exact ⟨m, y, hRun,
      h.afterLookup hAfter hLoaded (Cache.loadsInTurn_succ_of_new hNew) hStores⟩
  · have hLive := hCache.live?_eq hSteady.distinct hSteady.pos hNew (hShown n)
    obtain ⟨m, y, hRun, hAfter⟩ := (soakGuard s).paced_lookup_of_live hLive
    have hFound := hCache.found hSteady.distinct hSteady.pos hNew (hShown n)
    exact ⟨m, y, hRun,
      h.afterLookup hAfter hFound (Cache.loadsInTurn_succ_of_stored hNew) h.stores⟩

/-- Every request of a soak is granted, and asks for each concern once. -/
theorem authorize (now : Timestamp) (n : Nat) (before : Concern → Nat) (counts : Ledger) :
    ∃ service, (soakGuard s).Leads time
      (InRounds times s.caches ids services before (fun _ => n) counts)
      (Plan.authorize now (ids.service (n % services)) Permission.sms) (.ok service)
      (InRounds times s.caches ids services before (fun _ => n + 1) counts) := by
  obtain ⟨key, hFact⟩ := exists_soakFact ids (Nat.mod_lt n hSteady.pos)
  have hLookup (c : Concern) (asked : Concern → Nat) (hAsked : asked c = n) :
      (soakGuard s).Leads time (InRounds times s.caches ids services before asked counts)
        (.lookup c (ids.service (n % services))) (.ok (some (c.factOf (soakSnapshot key))))
        (InRounds times s.caches ids services before (onceMore asked c) counts) := by
    have hOnce := hSteady.lookup hShown c before asked counts
    rwa [hAsked, hFact c] at hOnce
  have hAll : onceMore (onceMore (onceMore (fun _ => n) .serviceActive) .apiKeys) .permissions =
      fun _ => n + 1 := by
    funext c
    cases c <;> rfl
  have hActive := hLookup .serviceActive (fun _ => n) rfl
  have hKeys := hLookup .apiKeys (onceMore (fun _ => n) .serviceActive) rfl
  have hPermissions :=
    hLookup .permissions (onceMore (onceMore (fun _ => n) .serviceActive) .apiKeys) rfl
  rw [hAll] at hPermissions
  have hGrants : [⟨Permission.email⟩, ⟨Permission.sms⟩].any
      (Permission.grants · Permission.sms) := by decide
  exact ⟨_, hActive.authorize hKeys hPermissions rfl hGrants⟩

end Steady

end Lookups

section Counts

variable {present : Nat → Present} {ids : SoakIds} {services n : Nat}

/-- How many of the first `n` requests ask for a service on a day. -/
def askedOn (present : Nat → Present) (services : Nat) (day : Date) (r n : Nat) : Nat :=
  Nat.count (fun i => i % services = r ∧ (present i).today = day) n

/-- How many of the first `n` requests ask for a service whose count of that day is the largest that
there is. -/
def overflows (present : Nat → Present) (services n : Nat) : Nat :=
  Nat.count (fun i =>
    Decimal.int64Max ≤ askedOn present services (present i).today (i % services) i) n

/-- Whether the counts have room for the first `n` requests: there are no more than the largest
count, or each comes at a later instant than the ones before, as those of a clock do. -/
def CountsSuffice (present : Nat → Present) (n : Nat) : Prop :=
  (n : Int) ≤ Decimal.int64Max ∨
    ∀ i j, i < j → j < n → (present i).now.rank < (present j).now.rank

/-- A day has fewer instants than there are counts. -/
theorem askedOn_lt_of_increasing {n : Nat}
    (h : ∀ i j, i < j → j < n → (present i).now.rank < (present j).now.rank) (day : Date)
    (r : Nat) : (askedOn present services day r n : Int) < Decimal.int64Max := by
  -- The requests of a day have instants of their own in it, which are fewer than there are counts.
  let instant (i : Nat) : Nat := (present i).now.second * 2000000000 + (present i).now.nanos
  have hCard : askedOn present services day r n ≤ (Finset.range (86400 * 2000000000)).card := by
    rw [askedOn, Nat.count_eq_card_filter_range]
    apply Finset.card_le_card_of_injOn instant
    · intro i hi
      obtain ⟨hSecond, hNanos, _⟩ := (present i).now.isTime
      simp only [Finset.coe_range, Set.mem_Iio, instant]
      omega
    · intro i hi j hj hSame
      rw [Finset.mem_coe, Finset.mem_filter, Finset.mem_range] at hi hj
      have hRank : (present i).now.rank = (present j).now.rank := by
        have hDay : (present i).now.date = (present j).now.date := hi.2.2.trans hj.2.2.symm
        simp only [Timestamp.rank, hDay, instant] at hSame ⊢
        omega
      rcases Nat.lt_trichotomy i j with hLess | hEq | hMore
      · have hLater := h i j hLess hj.1
        omega
      · exact hEq
      · have hLater := h j i hMore hi.1
        omega
  rw [Finset.card_range] at hCard
  simp only [Decimal.int64Max]
  omega

/-- Where the counts have room, no count is ever the largest when a request comes. -/
theorem overflows_eq_zero (h : CountsSuffice present n) : overflows present services n = 0 := by
  rw [overflows, Nat.count_eq_card_filter_range, Finset.card_eq_zero, Finset.filter_eq_empty_iff]
  intro i hi
  have hLess := Finset.mem_range.1 hi
  rw [not_le]
  rcases h with hFew | hIncreasing
  · have hCount : askedOn present services (present i).today (i % services) i ≤ i :=
      Nat.count_le _
    omega
  · exact askedOn_lt_of_increasing (fun j k hjk hk => hIncreasing j k hjk (by omega)) _ _

/-- The counts of a soak after so many requests. Each tells how many of them asked for its service on
its day, but never more than the largest count. -/
structure Tallied (present : Nat → Present) (ids : SoakIds) (services n : Nat) (l : Ledger) :
    Prop where
  available : l.available
  stored : ∀ r < services, ∀ day, l.stored? (dailyKey day (ids.service r)) =
    some (min (askedOn present services day r n : Int) Decimal.int64Max)

namespace Tallied

theorem empty : Tallied present ids services 0 {} where
  available := rfl
  stored _ _ _ := rfl

variable {l : Ledger}

/-- What the count of a service comes to by the next request, be it for this service or not. -/
theorem incr (h : Tallied present ids services n l) {caches : CachesSettings} {times : Set Nat}
    (hSteady : Steady caches ids services times) :
    Tallied present ids services (n + 1)
      (l.run (.incr (dailyKey (present n).today (ids.service (n % services))))).2 where
  available := (Ledger.available_run l _).trans h.available
  stored r hr day := by
    have hBefore := h.stored r hr day
    rw [askedOn, Nat.count_succ, ← askedOn]
    -- Only the count of the service whose turn it is moves, and not past the largest.
    by_cases hSame : n % services = r ∧ (present n).today = day
    · obtain ⟨rfl, rfl⟩ := hSame
      rw [if_pos ⟨rfl, rfl⟩]
      by_cases hRoom : (askedOn present services (present n).today (n % services) n : Int) <
          Decimal.int64Max
      · rw [min_eq_left (by omega)] at hBefore
        rw [(Ledger.run_incr_of_stored? h.available hBefore hRoom).2, min_eq_left (by omega)]
        rfl
      · rw [min_eq_right (by omega)] at hBefore
        rw [(Ledger.run_incr_of_stored?_largest h.available hBefore).2, min_eq_right (by omega)]
    · rw [if_neg hSame, Ledger.stored?_run_of_ne]
      · exact hBefore
      · intro hKey
        obtain ⟨hService, hDay⟩ := Counter.dailyKey_inj hKey
        exact hSame ⟨hSteady.distinct _ (Nat.mod_lt n hSteady.pos) _ hr hService, hDay⟩

end Tallied

end Counts

namespace Soak

variable {s : Settings} {times : Set Nat} {ids : SoakIds} {services : Nat}
  {present : Nat → Present}

/-- The counts of a soak are in memory, so a command is always answered. -/
theorem counters_run (s : Settings) (cmd : Counter.Command) (l : Ledger) :
    (soakGuard s).counters.run cmd l =
      ((s.counter.policy.judge (l.run cmd).1).map cmd.told, (l.run cmd).2) :=
  rfl

/-- A request is granted unless the largest count is reached, and counts as one. -/
theorem request_runs (hSteady : Steady s.caches ids services times) {time : Nat → Nat}
    (hShown : ∀ m, shown time m ∈ times) {n : Nat} {before : Concern → Nat} {counts : Ledger}
    {x : Scene Side StorePair Ledger}
    (h : InRounds times s.caches ids services before (fun _ => n) counts x)
    (hTallied : Tallied present ids services n counts) :
    ∃ outcome m y,
      (soakGuard s).paced time (soakRequest (present n) (ids.service (n % services))) 0 x =
        (outcome, m, y) ∧
      InRounds times s.caches ids services before (fun _ => n + 1)
        (counts.run (.incr (dailyKey (present n).today (ids.service (n % services))))).2 y ∧
      outcome.isOk = decide ((askedOn present services (present n).today (n % services) n : Int) <
        Decimal.int64Max) := by
  obtain ⟨service, hLeads⟩ := hSteady.authorize hShown (present n).now n before counts
  obtain ⟨m, y, hGranted, hy⟩ := hLeads 0 x h
  obtain rfl := hy.counts_eq
  have hStored := hTallied.stored _ (Nat.mod_lt n hSteady.pos) (present n).today
  have hTold := counters_run s
    (.incr (dailyKey (present n).today (ids.service (n % services)))) y.counts
  rw [soakRequest, Plan.andThen, paced_followedBy, hGranted]
  by_cases hRoom : (askedOn present services (present n).today (n % services) n : Int) <
      Decimal.int64Max
  · rw [min_eq_left (by omega)] at hStored
    rw [(Ledger.run_incr_of_stored? hTallied.available hStored hRoom).1] at hTold
    refine ⟨_, _, _, paced_checkLimit_of_within hTold (by omega), ?_, ?_⟩
    · exact ⟨hy.caches_inTurn, hy.loads_eq, hy.stores, rfl⟩
    · exact (decide_eq_true hRoom).symm
  · rw [min_eq_right (by omega)] at hStored
    obtain ⟨text, hFailed⟩ :=
      (Ledger.run_incr_of_stored?_largest hTallied.available hStored).1
    rw [hFailed] at hTold
    refine ⟨_, _, _, paced_checkLimit_of_error hTold _, ?_, ?_⟩
    · exact ⟨hy.caches_inTurn, hy.loads_eq, hy.stores, rfl⟩
    · exact (decide_eq_false hRoom).symm

/-- A soak whose requests asked for every concern once each, and of which none was denied but where
its service could not be counted any further. -/
structure Holds (s : Settings) (present : Nat → Present) (times : Set Nat) (ids : SoakIds)
    (services : Nat) (x : Soak) : Prop where
  guard_eq : x.guard = soakGuard s
  ids_eq : x.ids = ids
  services_eq : x.services = services
  scene : InRounds times s.caches ids services (soakLoads s.caches services · x.requests)
    (fun _ => x.requests) x.scene.counts x.scene
  tallied : Tallied present ids services x.requests x.scene.counts
  denied_eq : x.denied = overflows present services x.requests

/-- What a soak acts on right after its next request. -/
def afterNext (present : Present) (time : Nat → Nat) (x : Soak) : Scene Side StorePair Ledger :=
  (x.guard.paced time (soakRequest present (x.ids.service (x.requests % x.services))) 0 x.scene).2.2

/-- How many questions about a concern the next requests of a soak put to the stores. -/
def loads (present : Nat → Present) (time : Nat → Nat → Nat) (c : Concern) : Nat → Soak → Nat
  | 0, _ => 0
  | n + 1, x =>
    (questions (x.afterNext (present x.requests) (time x.requests)).deeds).count (.fact c) +
      loads present time c n (x.step (present x.requests) (time x.requests) 0)

namespace Holds

theorem start (s : Settings) (size : SoakSize) (ids : SoakIds) (present : Nat → Present)
    (times : Set Nat) :
    (Soak.start s size ids).Holds s present times ids (max size.services 1) where
  guard_eq := rfl
  ids_eq := rfl
  services_eq := rfl
  scene := {
    caches_inTurn := by
      intro c
      show Cache.InTurn _ _ _ _ _ _ _ ((Memory.ofSettings s.caches).cache c)
      rw [Memory.cache_ofSettings]
      exact .empty _ _ _ _ _ _
    loads_eq := fun _ => rfl
    stores := {
      primary_eq := rfl
      replica_eq := by
        have hNone := soakQueries_zero s.caches (max size.services 1)
        exact (askedReplica_zero ids _).symm.trans (congrArg (askedReplica ids _) hNone.symm) }
    counts_eq := rfl }
  tallied := .empty
  denied_eq := rfl

variable {x : Soak}

theorem step (h : x.Holds s present times ids services)
    (hSteady : Steady s.caches ids services times) {time : Nat → Nat}
    (hShown : ∀ m, shown time m ∈ times) (loadMs : Nat) :
    (x.step (present x.requests) time loadMs).Holds s present times ids services := by
  obtain ⟨outcome, m, y, hRun, hy, hOutcome⟩ := request_runs hSteady hShown h.scene h.tallied
  have hTallied := h.tallied.incr hSteady
  rw [← hy.counts_eq] at hTallied
  have hStep : x.step (present x.requests) time loadMs = Soak.report
      { x with
        scene := y
        requests := x.requests + 1
        denied := x.denied + if outcome.isOk then 0 else 1 } loadMs := by
    rw [Soak.step, h.guard_eq, h.ids_eq, h.services_eq, hRun]
  rw [hStep]
  constructor
  case guard_eq => exact h.guard_eq
  case ids_eq => exact h.ids_eq
  case services_eq => exact h.services_eq
  case scene => exact ⟨hy.caches_inTurn, fun _ => rfl, hy.stores, rfl⟩
  case tallied => exact hTallied
  case denied_eq =>
    show x.denied + _ = overflows present services (x.requests + 1)
    rw [h.denied_eq, overflows, overflows, Nat.count_succ, hOutcome]
    by_cases hRoom : (askedOn present services (present x.requests).today (x.requests % services)
        x.requests : Int) < Decimal.int64Max
    · rw [decide_eq_true hRoom, if_pos rfl, if_neg (not_le.2 hRoom)]
    · rw [decide_eq_false hRoom, if_neg Bool.false_ne_true, if_pos (not_lt.1 hRoom)]

/-- The questions of the next request make the loads those of one request more. -/
theorem questions_afterNext (h : x.Holds s present times ids services)
    (hSteady : Steady s.caches ids services times) {time : Nat → Nat}
    (hShown : ∀ m, shown time m ∈ times) (c : Concern) :
    soakLoads s.caches services c x.requests +
        (questions (x.afterNext (present x.requests) time).deeds).count (.fact c) =
      soakLoads s.caches services c (x.requests + 1) := by
  obtain ⟨outcome, m, y, hRun, hy, _⟩ := request_runs hSteady hShown h.scene h.tallied
  rw [afterNext, h.guard_eq, h.ids_eq, h.services_eq, hRun]
  exact hy.loads_eq c

theorem run (h : x.Holds s present times ids services)
    (hSteady : Steady s.caches ids services times) {time : Nat → Nat → Nat} (n : Nat)
    (hShown : ∀ i < x.requests + n, ∀ m, shown (time i) m ∈ times) :
    (Soak.run present time n x).Holds s present times ids services ∧
      (Soak.run present time n x).requests = x.requests + n ∧
      ∀ c, soakLoads s.caches services c x.requests + x.loads present time c n =
        soakLoads s.caches services c (x.requests + n) := by
  induction n generalizing x with
  | zero => exact ⟨h, rfl, fun _ => rfl⟩
  | succ n ih =>
      have hNow := hShown x.requests (by omega)
      have hRequests : (x.step (present x.requests) (time x.requests) 0).requests =
          x.requests + 1 := rfl
      have hAfter : x.requests + 1 + n = x.requests + (n + 1) := by omega
      obtain ⟨hHolds, hCount, hLoads⟩ := ih (h.step hSteady hNow 0) (by rwa [hRequests, hAfter])
      rw [hRequests, hAfter] at hCount hLoads
      refine ⟨hHolds, hCount, fun c => ?_⟩
      rw [← hLoads c, ← h.questions_afterNext hSteady hNow c, Nat.add_assoc]
      rfl

end Holds

/-- The figures of a soak of so many requests with so many loads of each concern. Nothing is denied
as long as the counts have room, and nothing is asked of the primary. A concern is loaded once for
every service if its cache has room for all, and else at every request. What a cache does not find is
looked up twice, before the gate and behind it, so each load counts as two misses. -/
structure Exact (caches : CachesSettings) (present : Nat → Present) (services requests : Nat)
    (loads : Concern → Nat) (x : Soak) : Prop where
  requests_eq : x.requests = requests
  granted : CountsSuffice present requests → x.denied = 0
  denied_eq : x.denied = overflows present services requests
  loads_eq : ∀ c, loads c =
    if services ≤ soakRoom caches c then min requests services else requests
  primary_eq : (x.scene.stores.side .primary).store.queries = 0
  replica_eq : (x.scene.stores.side .replica).store.queries =
    loads .apiKeys + loads .permissions + loads .serviceActive
  stats_eq : ∀ c, (x.scene.memory.cache c).stats = {
    hits := requests - loads c
    misses := 2 * loads c
    evictions := loads c - soakRoom caches c
    expirations := 0
    size := min (loads c) (soakRoom caches c)
    capacity := soakRoom caches c }

/-- The instants at which the first `requests` of a soak come to the caches. -/
def instants (time : Nat → Nat → Nat) (requests : Nat) : Set Nat :=
  { t | ∃ i < requests, ∃ m, t = shown (time i) m }

/-- What is stored lives as long as a soak takes less than the time to live. -/
theorem brief_instants {time : Nat → Nat → Nat} {requests ttl : Nat}
    (h : ∀ i < requests, ∀ j < requests, ∀ m k, time j k < time i m + ttl) :
    Cache.Brief ttl (instants time requests) := by
  rintro _ ⟨i, hi, m, rfl⟩
  refine ⟨Cache.Clock.now_le_lastInstant _, ?_⟩
  rintro _ ⟨j, hj, k, rfl⟩
  have hLess := h i hi j hj m k
  have hOwn := h i hi i hi m m
  simp only [shown, Cache.Clock.now, Bool.false_eq_true, if_false]
  omega

/-- The figures of a soak are exact, whatever the sizes of its caches, if its services differ and if
it takes less time than any entry lives. At its `m`-th step the `i`-th request comes to the caches at
`time i m`, and `present i` is the instant at which it is counted. That nothing is denied (`granted`)
needs `CountsSuffice`; how many requests are denied in any other case is told by `denied_eq`, which
needs nothing of the kind. -/
theorem figures_exact (s : Settings) (size : SoakSize) (ids : SoakIds) (present : Nat → Present)
    (time : Nat → Nat → Nat)
    (hDistinct : ∀ i < max size.services 1, ∀ j < max size.services 1,
      ids.service i = ids.service j → i = j)
    (hBrief : ∀ c, ∀ i < size.requests, ∀ j < size.requests, ∀ m k,
      time j k < time i m + (s.caches.of c).ttl) :
    Exact s.caches present (max size.services 1) size.requests
      (fun c => (Soak.start s size ids).loads present time c size.requests)
      (Soak.run present time size.requests (Soak.start s size ids)) := by
  have hSteady : Steady s.caches ids (max size.services 1) (instants time size.requests) := {
    pos := by omega
    distinct := hDistinct
    brief := fun c => brief_instants (hBrief c) }
  have hStart := Holds.start s size ids present (instants time size.requests)
  obtain ⟨hHolds, hRequests, hLoads⟩ := hStart.run hSteady size.requests
    (fun i hi m => ⟨i, Nat.zero_add size.requests ▸ hi, m, rfl⟩)
  have hTotal : (Soak.run present time size.requests (Soak.start s size ids)).requests =
      size.requests := hRequests.trans (Nat.zero_add _)
  have hDenied := hHolds.denied_eq
  have hScene := hHolds.scene
  rw [hTotal] at hDenied hScene
  have hEach : (fun c => (Soak.start s size ids).loads present time c size.requests) =
      fun c => soakLoads s.caches (max size.services 1) c size.requests := by
    funext c
    have hGrown := hLoads c
    rwa [show (Soak.start s size ids).requests = 0 from rfl, soakLoads_zero, Nat.zero_add,
      Nat.zero_add] at hGrown
  rw [hEach]
  constructor
  case requests_eq => exact hTotal
  case granted => exact fun hSuffice => hDenied.trans (overflows_eq_zero hSuffice)
  case denied_eq => exact hDenied
  case loads_eq => exact fun _ => rfl
  case primary_eq => exact hScene.stores.primary_eq
  case replica_eq => exact congrArg (fun replica => replica.store.queries) hScene.stores.replica_eq
  case stats_eq => exact fun c => (hScene.caches_inTurn c).stats_eq

/-- Seven requests for three services, with room for two of them, for one, and for all. -/
theorem figures_exact_three_services :
    let s : Settings := { caches := { apiKeys := ⟨10, 2⟩, permissions := ⟨2, 0⟩ } }
    let size : SoakSize := { services := 3, requests := 7, workers := 1 }
    let present (_ : Nat) : Present := ⟨.midnight .epoch⟩
    let time (i m : Nat) : Nat := 1000 * i + min m 30
    let start := Soak.start s size .numbered
    let loads (c : Concern) : Nat := start.loads present time c size.requests
    let x := Soak.run present time size.requests start
    x.denied = 0 ∧ loads .apiKeys = 7 ∧ loads .permissions = 7 ∧ loads .serviceActive = 3 ∧
      (x.scene.stores.side .primary).store.queries = 0 ∧
      (x.scene.stores.side .replica).store.queries = 17 ∧
      (x.scene.memory.cache .apiKeys).stats = ⟨0, 14, 5, 0, 2, 2⟩ ∧
      (x.scene.memory.cache .permissions).stats = ⟨0, 14, 6, 0, 1, 1⟩ ∧
      (x.scene.memory.cache .serviceActive).stats = ⟨4, 6, 0, 0, 3, 1024⟩ := by
  intro s size present time start loads x
  have hDistinct : ∀ i < 3, ∀ j < 3,
      SoakIds.numbered.service i = SoakIds.numbered.service j → i = j := by decide
  have hTtl : ∀ c, 2000000000 ≤ (s.caches.of c).ttl := by
    intro c
    cases c <;> decide
  have hBrief : ∀ c, ∀ i < 7, ∀ j < 7, ∀ m k, time j k < time i m + (s.caches.of c).ttl := by
    intro c i hi j hj m k
    have hLong := hTtl c
    simp only [time]
    omega
  have hExact : Exact s.caches present 3 7 loads x :=
    figures_exact s size .numbered present time hDistinct hBrief
  clear_value loads x
  have hKeys : loads .apiKeys = 7 := (hExact.loads_eq .apiKeys).trans (by decide)
  have hPermissions : loads .permissions = 7 := (hExact.loads_eq .permissions).trans (by decide)
  have hActive : loads .serviceActive = 3 := (hExact.loads_eq .serviceActive).trans (by decide)
  refine ⟨hExact.granted (Or.inl (by decide)), hKeys, hPermissions, hActive, hExact.primary_eq,
    ?_, ?_, ?_, ?_⟩
  · rw [hExact.replica_eq, hKeys, hPermissions, hActive]
  · rw [hExact.stats_eq, hKeys]
    decide
  · rw [hExact.stats_eq, hPermissions]
    decide
  · rw [hExact.stats_eq, hActive]
    decide

end Soak

end Tollgate.CommandLine
