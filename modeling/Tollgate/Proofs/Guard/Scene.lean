import Tollgate.Guard.Call
import Tollgate.Guard.Scene
import Tollgate.Proofs.Cache.Entries

/-!
What calls see of a scene, and what a call that runs alone makes of it. A lookup yields the live
fact of its cache, if there is one, and puts one question to the replica otherwise.
-/

namespace Tollgate.Guard

variable {C S B A D : Type}

@[simp]
theorem Memory.cache_withCache (m : Memory) (c : Concern) (cache : ConcernCache c) :
    (m.withCache c cache).cache c = cache := by
  cases c <;> rfl

theorem Memory.cache_withCache_of_ne (m : Memory) {c d : Concern} (cache : ConcernCache c)
    (h : d ≠ c) : (m.withCache c cache).cache d = m.cache d := by
  cases c <;> cases d <;> first | rfl | exact absurd rfl h

theorem Memory.cache_ofSettings (s : CachesSettings) (c : Concern) :
    (Memory.ofSettings s).cache c = .ofSettings (s.of c) := by
  cases c <;> rfl

theorem Memory.cache_invalidate (m : Memory) (s : ServiceId) (now : Nat) (c : Concern) :
    (m.invalidate s now).cache c = (m.cache c).invalidate s now := by
  cases c <;> rfl

theorem Memory.cache_clear (m : Memory) (c : Concern) :
    m.clear.cache c = (m.cache c).clear := by
  cases c <;> rfl

theorem Memory.cache_look (m : Memory) (c : Concern) (s : ServiceId) (now : Nat) :
    (m.look c s now).2.cache c = ((m.cache c).get s now).2 :=
  Memory.cache_withCache _ _ _

theorem Memory.cache_look_of_ne (m : Memory) {c d : Concern} (s : ServiceId) (now : Nat)
    (h : d ≠ c) : (m.look c s now).2.cache d = m.cache d :=
  Memory.cache_withCache_of_ne _ _ h

theorem Memory.cache_learn (m : Memory) (c : Concern) (s : ServiceId) (fact : c.Fact) (now : Nat) :
    (m.learn c s fact now).cache c = (m.cache c).put s fact now :=
  Memory.cache_withCache _ _ _

theorem Memory.cache_learn_of_ne (m : Memory) {c d : Concern} (s : ServiceId) (fact : c.Fact)
    (now : Nat) (h : d ≠ c) : (m.learn c s fact now).cache d = m.cache d :=
  Memory.cache_withCache_of_ne _ _ h

namespace Scene

/-- The fact about a service that a cache holds alive. -/
def live? (x : Scene C S B) (c : Concern) (s : ServiceId) : Option c.Fact :=
  (x.memory.cache c).live? s x.clock.now

theorem look_fst (x : Scene C S B) (c : Concern) (s : ServiceId) :
    (x.look c s).1 = x.live? c s :=
  Cache.get_fst _ _ _

theorem cache_look (x : Scene C S B) (c : Concern) (s : ServiceId) :
    (x.look c s).2.memory.cache c = ((x.memory.cache c).get s x.clock.now).2 :=
  Memory.cache_look _ _ _ _

theorem cache_look_of_ne (x : Scene C S B) {c d : Concern} (s : ServiceId) (h : d ≠ c) :
    (x.look c s).2.memory.cache d = x.memory.cache d :=
  Memory.cache_look_of_ne _ _ _ h

theorem cache_learn (x : Scene C S B) (c : Concern) (s : ServiceId) (fact : c.Fact) :
    (x.learn c s fact).memory.cache c = (x.memory.cache c).put s fact x.clock.now :=
  Memory.cache_learn _ _ _ _ _

theorem cache_learn_of_ne (x : Scene C S B) {c d : Concern} (s : ServiceId) (fact : c.Fact)
    (h : d ≠ c) : (x.learn c s fact).memory.cache d = x.memory.cache d :=
  Memory.cache_learn_of_ne _ _ _ _ h

/-- Looking a fact up leaves every live fact as it is, of whatever concern. -/
theorem live?_look (x : Scene C S B) (c d : Concern) (s r : ServiceId) :
    (x.look c s).2.live? d r = x.live? d r := by
  by_cases h : d = c
  · subst d
    unfold live?
    rw [cache_look]
    exact Cache.live?_get _ _ _ _
  · unfold live?
    rw [cache_look_of_ne x s h]
    rfl

end Scene

/-- The connection to read from. -/
def replica (g : Guard C S B) : C :=
  (g.binds.connections.get? replicaBind).get g.hasReplica

/-- A query that is routed to the replica always finds a connection. -/
theorem runOnBind_replica (g : Guard C S B) (query : C → Outcome A) :
    g.binds.runOnBind replicaBind query = query g.replica := by
  have hFound : g.binds.connections.get? replicaBind = some g.replica := (Option.some_get _).symm
  have hGet : g.binds.get replicaBind = .ok g.replica := by simp only [Binds.get, hFound]
  unfold Binds.runOnBind RoutingSession.marked RoutingSession.resolve RoutingSession.bindName
  simp only [Option.getD_some, hGet]
  rfl

/-- Calls that follow one another run one after the other. -/
theorem alone_followedBy (g : Guard C S B) (p : Plan A) (f : Outcome A → Plan D)
    (x : Scene C S B) :
    g.alone (p.followedBy f) x = g.alone (f (g.alone p x).1) (g.alone p x).2 := by
  induction p generalizing x with
  | done outcome => rfl
  | note n rest ih => exact ih _
  | look c s next ih => exact ih _ _
  | enter c s rest ih => exact ih _
  | leave c s rest ih => exact ih _
  | ask bind q s next ih =>
      simp only [Plan.followedBy, alone]
      cases g.binds.runOnBind bind Except.ok with
      | error e => exact ih _ _
      | ok connection => exact ih _ _
  | learn c s fact rest ih => exact ih _
  | count cmd next ih => exact ih _ _

theorem alone_andThen (g : Guard C S B) (p : Plan A) (f : A → Plan D) (x : Scene C S B) :
    g.alone (p.andThen f) x =
      match (g.alone p x).1 with
      | .ok a => g.alone (f a) (g.alone p x).2
      | .error e => (.error e, (g.alone p x).2) := by
  unfold Plan.andThen
  rw [alone_followedBy]
  cases (g.alone p x).1 <;> rfl

theorem alone_map (g : Guard C S B) (f : A → D) (p : Plan A) (x : Scene C S B) :
    g.alone (p.map f) x = ((g.alone p x).1.map f, (g.alone p x).2) :=
  alone_followedBy g p _ x

theorem alone_ask_replica (g : Guard C S B) (q : Question) (s : ServiceId)
    (next : Outcome q.Answer → Plan A) (x : Scene C S B) :
    g.alone (.ask replicaBind q s next) x =
      g.alone (next (x.ask g.authority g.replica q s).1) (x.ask g.authority g.replica q s).2 := by
  simp only [alone, runOnBind_replica]

/-- A scene after a lookup of a fact that is not live, up to the question to the replica. -/
def missed (x : Scene C S B) (c : Concern) (s : ServiceId) : Scene C S B :=
  (((x.look c s).2.note (.miss c)).look c s).2

/-- A scene after the outcome of a load. Only an answer that holds a fact is remembered. -/
def settled (x : Scene C S B) (c : Concern) (s : ServiceId) : Outcome c.Answer → Scene C S B
  | .error _ => x
  | .ok answer =>
    match c.fact? answer with
    | none => x.note (.load c)
    | some fact => (x.note (.load c)).learn c s fact

theorem alone_settle (g : Guard C S B) (c : Concern) (s : ServiceId) (outcome : Outcome c.Answer)
    (x : Scene C S B) :
    g.alone (Plan.settle c s outcome) x = (outcome.map c.fact?, settled x c s outcome) := by
  cases outcome with
  | error e => rfl
  | ok answer =>
      simp only [Plan.settle, alone, settled]
      cases h : c.fact? answer <;> simp [alone, Except.map, h]

/-- A lookup that finds a live fact is a hit and asks nobody. -/
theorem alone_lookup_of_live (g : Guard C S B) {c : Concern} {s : ServiceId} {x : Scene C S B}
    {fact : c.Fact} (h : x.live? c s = some fact) :
    g.alone (Plan.lookup c s) x = (.ok (some fact), (x.look c s).2.note (.hit c)) := by
  simp only [Plan.lookup, alone, Scene.look_fst, h]

/-- A lookup without a live fact asks the replica once and settles what it is told. -/
theorem alone_lookup_of_not_live (g : Guard C S B) {c : Concern} {s : ServiceId}
    {x : Scene C S B} (h : x.live? c s = none) :
    g.alone (Plan.lookup c s) x =
      (((missed x c s).ask g.authority g.replica (.fact c) s).1.map c.fact?,
        settled ((missed x c s).ask g.authority g.replica (.fact c) s).2 c s
          ((missed x c s).ask g.authority g.replica (.fact c) s).1) := by
  have hAgain : ((x.look c s).2.note (.miss c)).live? c s = none :=
    (Scene.live?_look x c c s s).trans h
  simp only [Plan.lookup, Plan.behindGate, alone, Scene.look_fst, h, hAgain]
  exact (alone_ask_replica g (.fact c) s (Plan.settle c s) _).trans (alone_settle g c s _ _)

end Tollgate.Guard
