import Tollgate.Proofs.Guard.Decision
import Tollgate.Proofs.Guard.Reachable
import Tollgate.Proofs.Guard.Settings

/-!
Priming, which loads all facts about a service at once and past the gates. It remembers all of them
or nothing. Over facts that stand still it leaves alive just what lookups do that find the service
forgotten, and where anything lives at all, an authorization after it asks nobody.
-/

namespace Tollgate.Cache

variable {K V : Type} [DecidableEq K]

/-- A cache after a load looked a key up before its gate and behind it. -/
def lookedTwice (c : Cache K V) (k : K) (now : Nat) : Cache K V :=
  ((c.get k now).2.get k now).2

theorem live?_remove (c : Cache K V) (k : K) (now : Nat) :
    (c.remove k now).2.live? k now = none := by
  have hNone : (c.remove k now).2.peek? k = none :=
    peek?_eq_none_iff.2 fun _ hp => (mem_entries_remove.1 hp).2
  rw [live?, hNone]
  rfl

/-- What is stored under a time to live that is not zero lives. -/
theorem live?_put {c : Cache K V} (hTtl : 0 < c.ttl) (k : K) (v : V) {now : Nat}
    (hNow : now ≤ lastInstant) : (c.put k v now).live? k now = some v := by
  refine live?_eq_some_iff.2 ⟨entryAt c.ttl v now, ?_, ?_, rfl⟩
  · rw [peek?, put_kept, List.find?_cons]
    simp
  · rw [entryAt, isExpired_instantAfter v now c.ttl hNow, decide_eq_false_iff_not]
    omega

namespace Proper

variable {c : Cache K V}

theorem living_lookedTwice (h : c.Proper) {k : K} {now : Nat} (hNone : c.live? k now = none) :
    (c.lookedTwice k now).living now = c.living now := by
  have hFirst : (c.get k now).1 = none := (get_fst _ _ _).trans hNone
  have hSecond : ((c.get k now).2.get k now).1 = none := by rw [get_fst, live?_get, hNone]
  rw [lookedTwice, (h.get k now).living_get_of_none hSecond, h.living_get_of_none hFirst]

/-- To store a key, and to drop it, miss it and load it again, leave the same alive. Entries that
had expired may be dropped on one way and not on the other, but what a store keeps goes by what
lives. -/
theorem living_put_lookedTwice (h : c.Proper) (k : K) (v : V) (now : Nat) :
    (((c.remove k now).2.lookedTwice k now).put k v now).living now =
      (c.put k v now).living now := by
  have hRemoved := h.remove k now
  have hOthers : ((c.remove k now).2.lookedTwice k now).livingOthers k now =
      c.livingOthers k now := by
    rw [livingOthers, hRemoved.living_lookedTwice (live?_remove c k now), living_remove,
      livingOthers, List.filter_filter]
    simp only [Bool.and_self]
  have hTtl : ((c.remove k now).2.lookedTwice k now).ttl = c.ttl := by
    rw [lookedTwice, ttl_get, ttl_get]
    rfl
  have hCapacity : ((c.remove k now).2.lookedTwice k now).capacity = c.capacity := by
    rw [lookedTwice, capacity_get, capacity_get]
    rfl
  have hLooked : ((c.remove k now).2.lookedTwice k now).Proper := (hRemoved.get k now).get k now
  rw [hLooked.living_put, h.living_put, hOthers, hTtl, hCapacity]

end Proper

end Tollgate.Cache

namespace Tollgate.Guard

variable {C S B A D : Type}

/-- What the replica tells of a service that is asked for as a whole. -/
def fetched (g : Guard C S B) (x : Scene C S B) (s : ServiceId) : Outcome (Option Snapshot) :=
  ((Fetch.snapshot g.joined).run (g.authority g.replica) s x.stores).1

/-- A fetch leaves traces only in the stores and among the deeds. -/
theorem alone_fetch (g : Guard C S B) (f : Fetch A) (s : ServiceId) (x : Scene C S B) :
    ∃ stores deeds, g.alone (Plan.fetch s f) x =
      ((f.run (g.authority g.replica) s x.stores).1, { x with stores, deeds }) := by
  induction f generalizing x with
  | done outcome => exact ⟨x.stores, x.deeds, rfl⟩
  | ask q next ih =>
      obtain ⟨stores, deeds, hNext⟩ := ih (x.ask g.authority g.replica q s).1
        (x.ask g.authority g.replica q s).2
      exact ⟨stores, deeds, (alone_ask_replica g q s _ x).trans hNext⟩

/-- Remembers all that a snapshot says. -/
def Scene.learnAll (x : Scene C S B) (s : ServiceId) (snapshot : Snapshot) : Scene C S B :=
  Concern.all.foldl (fun y c => y.learn c s (c.factOf snapshot)) x

theorem Scene.cache_learnAll (x : Scene C S B) (s : ServiceId) (snapshot : Snapshot)
    (c : Concern) : (x.learnAll s snapshot).memory.cache c =
      (x.memory.cache c).put s (c.factOf snapshot) x.clock.now := by
  cases c <;> rfl

/-- A priming remembers a whole snapshot, or nothing where there is none or the fetch fails. -/
theorem alone_prime (g : Guard C S B) (s : ServiceId) (x : Scene C S B) :
    ∃ stores deeds, g.alone (Plan.prime g.joined s) x =
      ((g.fetched x s).map Option.isSome,
        match g.fetched x s with
        | .ok (some snapshot) => { x with stores, deeds }.learnAll s snapshot
        | _ => { x with stores, deeds }) := by
  obtain ⟨stores, deeds, hFetch⟩ := alone_fetch g (Fetch.snapshot g.joined) s x
  refine ⟨stores, deeds, ?_⟩
  rw [Plan.prime, alone_andThen, hFetch, fetched]
  cases ((Fetch.snapshot g.joined).run (g.authority g.replica) s x.stores).1 with
  | error e => rfl
  | ok snapshot => cases snapshot <;> rfl

section Steady

variable {g : Guard C S B} {facts : Facts} {holds : S → Prop} {x : Scene C S B} {s : ServiceId}

/-- Over facts that stand still a fetch comes to what its plan promises. -/
theorem run_of_promises (hSteady : g.Steady facts holds) {f : Fetch A} {P : Outcome A → Prop}
    (hf : (Plan.fetch s f).Promises facts P) {stores : S} (hStores : holds stores) :
    P (f.run (g.authority g.replica) s stores).1 := by
  induction f generalizing stores with
  | done outcome => exact hf
  | ask q next ih =>
      simp only [Fetch.run, hSteady.answers stores hStores q s]
      exact ih _ hf.2 (hSteady.stays stores hStores q s)

theorem fetched_of_steady (hSteady : g.Steady facts holds) (hStores : holds x.stores) :
    g.fetched x s = .ok (facts.snapshot s) :=
  run_of_promises hSteady (Plan.fetch_snapshot_promises g.joined s) hStores

theorem holds_alone_lookup (hSteady : g.Steady facts holds) (hStores : holds x.stores)
    (c : Concern) : holds (g.alone (Plan.lookup c s) x).2.stores := by
  rw [stores_alone_lookup, effective]
  split
  · exact hStores
  · exact hSteady.stays _ hStores _ s

/-- A lookup of a fact that is not alive loads it anew. -/
theorem cache_alone_lookup (hSteady : g.Steady facts holds) (hStores : holds x.stores)
    {c : Concern} {fact : c.Fact} (hFact : c.fact? (facts c s) = some fact)
    (hLive : x.live? c s = none) :
    (g.alone (Plan.lookup c s) x).2.memory.cache c =
      ((x.memory.cache c).lookedTwice s x.clock.now).put s fact x.clock.now := by
  have hAnswer : ((missed x c s).ask g.authority g.replica (.fact c) s).1 = .ok (facts c s) :=
    hSteady.answers x.stores hStores (.fact c) s
  have hMissed : (missed x c s).memory.cache c =
      (x.memory.cache c).lookedTwice s x.clock.now :=
    (Scene.cache_look _ c s).trans
      (congrArg (fun cache : ConcernCache c => (cache.get s x.clock.now).2) (x.cache_look c s))
  rw [alone_lookup_of_not_live g hLive, hAnswer]
  simp only [settled, hFact]
  rw [Scene.cache_learn]
  exact congrArg (fun cache : ConcernCache c => cache.put s fact x.clock.now) hMissed

/-- A lookup leaves the facts of other concerns alive as they were. -/
theorem live?_alone_lookup_of_ne (g : Guard C S B) (x : Scene C S B) {c d : Concern} (hd : d ≠ c)
    (s r : ServiceId) : (g.alone (Plan.lookup c s) x).2.live? d r = x.live? d r := by
  unfold Scene.live?
  rw [clock_alone_lookup, cache_alone_lookup_of_ne g hd]

/-- Lookups of a service, of one concern after the other. -/
def lookups (g : Guard C S B) (s : ServiceId) (cs : List Concern) (x : Scene C S B) :
    Scene C S B :=
  cs.foldl (fun y c => (g.alone (Plan.lookup c s) y).2) x

theorem cache_lookups_of_not_mem {cs : List Concern} {c : Concern} (hc : c ∉ cs) :
    (g.lookups s cs x).memory.cache c = x.memory.cache c := by
  induction cs generalizing x with
  | nil => rfl
  | cons d cs ih =>
      rw [List.mem_cons, not_or] at hc
      exact (ih hc.2).trans (cache_alone_lookup_of_ne g hc.1 s x)

/-- Each lookup of a service of which nothing is alive loads its own fact. -/
theorem cache_lookups (hSteady : g.Steady facts holds) {snapshot : Snapshot}
    (hSnapshot : facts.snapshot s = some snapshot) {cs : List Concern} (hNodup : cs.Nodup)
    (hStores : holds x.stores) (hLive : ∀ c ∈ cs, x.live? c s = none) {c : Concern} (hc : c ∈ cs) :
    (g.lookups s cs x).memory.cache c =
      ((x.memory.cache c).lookedTwice s x.clock.now).put s (c.factOf snapshot) x.clock.now := by
  induction cs generalizing x with
  | nil => cases hc
  | cons d cs ih =>
      obtain ⟨hd, hcs⟩ := List.nodup_cons.1 hNodup
      rcases List.mem_cons.1 hc with rfl | hc
      · exact (cache_lookups_of_not_mem hd).trans (cache_alone_lookup hSteady hStores
          (facts.fact?_of_snapshot hSnapshot c) (hLive c List.mem_cons_self))
      · -- The first lookup is of another concern, and leaves this one forgotten.
        have hLater : ∀ e ∈ cs, (g.alone (Plan.lookup d s) x).2.live? e s = none := by
          intro e he
          rw [live?_alone_lookup_of_ne g x (ne_of_mem_of_not_mem he hd)]
          exact hLive e (List.mem_cons_of_mem _ he)
        refine (ih hcs (holds_alone_lookup hSteady hStores d) hLater hc).trans ?_
        rw [cache_alone_lookup_of_ne g (ne_of_mem_of_not_mem hc hd), clock_alone_lookup]

end Steady

/-- The plan looks up nothing but facts about one service, and asks, remembers and counts nothing,
as long as it finds what a snapshot says; and it ends as it should. -/
def Plan.Finds (s : ServiceId) (snapshot : Snapshot) (P : Outcome A → Prop) : Plan A → Prop
  | .done outcome => P outcome
  | .note _ rest => rest.Finds s snapshot P
  | .look c r next => r = s ∧ (next (some (c.factOf snapshot))).Finds s snapshot P
  | .enter .. | .leave .. | .ask .. | .learn .. | .count .. => False

namespace Plan

variable {s : ServiceId} {snapshot : Snapshot} {P : Outcome A → Prop} {Q : Outcome D → Prop}

theorem Finds.followedBy {p : Plan A} {f : Outcome A → Plan D} (hp : p.Finds s snapshot P)
    (hf : ∀ outcome, P outcome → (f outcome).Finds s snapshot Q) :
    (p.followedBy f).Finds s snapshot Q := by
  induction p with
  | done outcome => exact hf outcome hp
  | note n rest ih => exact ih hp
  | look c r next ih => exact ⟨hp.1, ih _ hp.2⟩
  | enter | leave | ask | learn | count => exact hp.elim

theorem finds_outlook (s : ServiceId) (snapshot : Snapshot) :
    Outlook fun P p => p.Finds s snapshot P where
  done h := h
  followedBy := Finds.followedBy

end Plan

/-- The facts that a snapshot tells. -/
def Facts.ofSnapshot (snapshot : Snapshot) : Facts :=
  fun c _ => c.answerOf (some snapshot)

theorem Plan.lookup_finds (snapshot : Snapshot) (c : Concern) (s : ServiceId) :
    (lookup c s).Finds s snapshot (· = .ok (c.fact? (Facts.ofSnapshot snapshot c s))) := by
  have hFact : c.fact? (Facts.ofSnapshot snapshot c s) = some (c.factOf snapshot) :=
    (Facts.ofSnapshot snapshot).fact?_of_snapshot rfl c
  exact ⟨rfl, congrArg Except.ok hFact.symm⟩

theorem Plan.authorize_finds (now : Timestamp) (s : ServiceId) (permission : String)
    (snapshot : Snapshot) :
    (authorize now s permission).Finds s snapshot
      (· = (Facts.ofSnapshot snapshot).decision now s permission) :=
  (finds_outlook s snapshot).authorize (lookup_finds snapshot · s) now permission

/-- All that happened on the way from one scene to another was reports. -/
structure OnlyReports (x y : Scene C S B) : Prop where
  stores : y.stores = x.stores
  deeds : ∃ notes : List Note, y.deeds = notes.map .noted ++ x.deeds

/-- A call that finds all that it looks for asks nobody. -/
theorem alone_of_finds (g : Guard C S B) {s : ServiceId} {snapshot : Snapshot}
    {P : Outcome A → Prop} {p : Plan A} (hp : p.Finds s snapshot P) {x : Scene C S B}
    (hLive : ∀ c, x.live? c s = some (c.factOf snapshot)) :
    P (g.alone p x).1 ∧ OnlyReports x (g.alone p x).2 := by
  induction p generalizing x with
  | done outcome => exact ⟨hp, rfl, [], rfl⟩
  | note n rest ih =>
      obtain ⟨hOutcome, hStores, notes, hDeeds⟩ := ih hp (x := x.note n) hLive
      exact ⟨hOutcome, hStores, notes ++ [n], hDeeds.trans (by simp [Scene.note])⟩
  | look c r next ih =>
      obtain ⟨rfl, hNext⟩ := hp
      have hFound : (x.look c r).1 = some (c.factOf snapshot) := by rw [Scene.look_fst, hLive]
      simp only [alone, hFound]
      obtain ⟨hOutcome, hStores, hDeeds⟩ :=
        ih _ hNext fun d => (x.live?_look c d r r).trans (hLive d)
      exact ⟨hOutcome, hStores, hDeeds⟩
  | enter | leave | ask | learn | count => exact hp.elim

/-- To forget a service, and then to look all its facts up. -/
def coldLookups (present : Present) (s : ServiceId) : List (Act S B) :=
  [.invalidate s, .call present (.isActive s), .call present (.apiKeys s),
    .call present (.permissions s)]

theorem acts_coldLookups (g : Guard C S B) (present : Present) (s : ServiceId)
    (x : Scene C S B) :
    g.acts x (coldLookups present s) =
      g.lookups s [.serviceActive, .apiKeys, .permissions] (x.invalidate s) := by
  have hMap {A D : Type} (f : A → D) (p : Plan A) (y : Scene C S B) :
      (g.alone (p.map f) y).2 = (g.alone p y).2 := congrArg Prod.snd (g.alone_map f p y)
  have hActive (y : Scene C S B) : g.act y (.call present (.isActive s)) =
      (g.alone (Plan.lookup .serviceActive s) y).2 := hMap _ _ y
  have hKeys (y : Scene C S B) : g.act y (.call present (.apiKeys s)) =
      (g.alone (Plan.lookup .apiKeys s) y).2 := (hMap _ _ y).trans (hMap _ _ y)
  have hPermissions (y : Scene C S B) : g.act y (.call present (.permissions s)) =
      (g.alone (Plan.lookup .permissions s) y).2 := (hMap _ _ y).trans (hMap _ _ y)
  simp only [acts, coldLookups, lookups, List.foldl_cons, List.foldl_nil, hActive, hKeys,
    hPermissions]
  rfl

/-- What a priming comes to. It tells whether the replica has a snapshot of the service, and changes
no memory if it has none or fails. Otherwise, over facts that stand still, it leaves the same alive
in every cache as lookups that find the service forgotten; and if entries live for any time, an
authorization right after it decides by the snapshot and asks nobody. -/
structure Primes (g : Guard C S B) (settings : CachesSettings) (x : Scene C S B) (s : ServiceId)
    (primed : Outcome Bool × Scene C S B) : Prop where
  outcome : primed.1 = (g.fetched x s).map Option.isSome
  nothing : primed.1 ≠ .ok true → primed.2.memory = x.memory
  all : primed.1 = .ok true → ∀ facts holds, g.Steady facts holds → holds x.stores →
    ∀ present c, (primed.2.memory.cache c).living x.clock.now =
      ((g.acts x (coldLookups present s)).memory.cache c).living x.clock.now
  decides : ∀ snapshot, g.fetched x s = .ok (some snapshot) → (∀ c, 0 < (settings.of c).ttl) →
    ∀ now permission,
      (g.alone (Plan.authorize now s permission) primed.2).1 =
          (Facts.ofSnapshot snapshot).decision now s permission ∧
        OnlyReports primed.2 (g.alone (Plan.authorize now s permission) primed.2).2

/-- Every fact of a snapshot lives once the snapshot is remembered. -/
theorem live?_learnAll {settings : CachesSettings} {x : Scene C S B}
    (hProper : x.memory.Proper settings) (hTtl : ∀ c, 0 < (settings.of c).ttl) (s : ServiceId)
    (snapshot : Snapshot) (c : Concern) :
    (x.learnAll s snapshot).live? c s = some (c.factOf snapshot) := by
  have hPositive : 0 < (x.memory.cache c).ttl := by
    rw [hProper.ttl]
    exact hTtl c
  rw [Scene.live?, Scene.cache_learnAll]
  exact Cache.live?_put hPositive s (c.factOf snapshot) x.clock.now_le_lastInstant

/-- Looking all facts up anew leaves the same alive as remembering them all. -/
theorem living_coldLookups {g : Guard C S B} {facts : Facts} {holds : S → Prop}
    {settings : CachesSettings} {x : Scene C S B} {s : ServiceId} {snapshot : Snapshot}
    (hProper : x.memory.Proper settings) (hSteady : g.Steady facts holds)
    (hStores : holds x.stores) (hSnapshot : facts.snapshot s = some snapshot) (present : Present)
    (c : Concern) :
    ((g.acts x (coldLookups present s)).memory.cache c).living x.clock.now =
      ((x.memory.cache c).put s (c.factOf snapshot) x.clock.now).living x.clock.now := by
  have hForgotten (d : Concern) : (x.invalidate s).live? d s = none := by
    rw [Scene.live?, Scene.invalidate, Memory.cache_invalidate]
    exact Cache.live?_remove _ _ _
  have hAll : c ∈ [Concern.serviceActive, .apiKeys, .permissions] := by cases c <;> decide
  have hCache := cache_lookups (x := x.invalidate s) hSteady hSnapshot (by decide) hStores
    (fun d _ => hForgotten d) hAll
  rw [acts_coldLookups, hCache, Scene.invalidate, Memory.cache_invalidate]
  exact (hProper.cache c).living_put_lookedTwice s (c.factOf snapshot) x.clock.now

theorem primes {g : Guard C S B} {settings : CachesSettings} {x : Scene C S B}
    (hProper : x.memory.Proper settings) (s : ServiceId) :
    g.Primes settings x s (g.alone (Plan.prime g.joined s) x) := by
  obtain ⟨stores, deeds, hPrime⟩ := g.alone_prime s x
  constructor
  case outcome => rw [hPrime]
  case nothing =>
    rw [hPrime]
    match g.fetched x s with
    | .error e => exact fun _ => rfl
    | .ok none => exact fun _ => rfl
    | .ok (some snapshot) => exact fun hNot => absurd rfl hNot
  case all =>
    intro hAll facts holds hSteady hStores present c
    rw [hPrime, fetched_of_steady hSteady hStores] at hAll
    rw [hPrime, fetched_of_steady hSteady hStores]
    cases hSnapshot : facts.snapshot s with
    | none =>
        rw [hSnapshot] at hAll
        cases hAll
    | some snapshot =>
        simp only
        rw [Scene.cache_learnAll]
        exact (living_coldLookups hProper hSteady hStores hSnapshot present c).symm
  case decides =>
    intro snapshot hFetched hTtl now permission
    rw [hPrime, hFetched]
    exact g.alone_of_finds (Plan.authorize_finds now s permission snapshot)
      (live?_learnAll (x := { x with stores, deeds }) hProper hTtl s snapshot)

/-- Priming is all or nothing, at every moment of every run. -/
theorem primes_all_or_nothing (g : Guard C S B) (settings : CachesSettings) (clock : Cache.Clock)
    (stores : S) (counts : B) (events : List (Event S B (Present × Call))) (s : ServiceId) :
    let start : Machine C S B Reply :=
      { floor := { scene := opening settings clock stores counts } }
    let x := (start.run g (events.map (Event.planned g.joined))).floor.scene
    g.Primes settings x s (g.alone (Plan.prime g.joined s) x) := by
  intro start x
  exact primes (Memory.Proper.run g settings clock stores counts _) s

/-- A lookup remembered that a service is inactive. The service is activated and primed: what lives
is what lookups would find after it was forgotten, and an authorization is granted without a
question. -/
theorem primed_after_activation :
    let s : ServiceId := default
    let present : Present := { now := .midnight .epoch }
    let key : ApiKey := { id := default, secretRef := "secret/0" }
    let snapshot : Snapshot := { apiKeys := [key], permissions := [⟨"send"⟩] }
    let store : MemoryStore := { label := "replica" }
    let events : List (Event MemoryStore Unit (Present × Call)) :=
      [.start (present, .isActive s), .turn 0, .answer 0, .turn 0,
        .changeStores fun m => (m.setActive s true).2]
    let start : Machine Unit MemoryStore Unit Reply :=
      { floor := { scene := opening {} {} (store.upsert s snapshot) () } }
    let x := (start.run ofMemory (events.map (Event.planned ofMemory.joined))).floor.scene
    let primed := ofMemory.alone (Plan.prime ofMemory.joined s) x
    let authorized := ofMemory.alone (Plan.authorize present.now s "send") primed.2
    x.memory.serviceActive.entries.map (fun p => (p.2.value : Bool)) = [false] ∧
      primed.1 = .ok true ∧
      (∀ c, (primed.2.memory.cache c).living x.clock.now =
        ((ofMemory.acts x (coldLookups present s)).memory.cache c).living x.clock.now) ∧
      authorized.1 = .ok { service := s, apiKeys := [key], permissions := [⟨"send"⟩] } ∧
      OnlyReports primed.2 authorized.2 := by
  intro s present key snapshot store events start x primed authorized
  have hPrimes : ofMemory.Primes {} x s primed :=
    primes_all_or_nothing ofMemory {} {} (store.upsert s snapshot) () events s
  have hFetched : ofMemory.fetched x s = .ok (some { snapshot with active := true }) := rfl
  have hOutcome : primed.1 = .ok true := by
    rw [hPrimes.outcome, hFetched]
    rfl
  have hSteady := steady_of_memory (g := ofMemory) rfl x.stores.services
  have hDecides := hPrimes.decides _ hFetched (by intro c; cases c <;> decide) present.now "send"
  have hRemembers :
      x.memory.serviceActive.entries.map (fun p => (p.2.value : Bool)) = [false] := by
    simp only [x, start, events, store, snapshot, key, present, s]
    decide +kernel
  have hHeld : Facts.Held x.stores.services x.stores := ⟨rfl, rfl⟩
  exact ⟨hRemembers, hOutcome, hPrimes.all hOutcome _ _ hSteady hHeld present,
    hDecides.1.trans rfl, hDecides.2⟩

end Tollgate.Guard
