import Tollgate.Guard.Pace
import Tollgate.Proofs.Guard.Scene

/-!
Plans that run alone while time passes. A clock that stands makes no difference to a plan. Else a
lookup meets its cache at up to four instants: where it looks first, where it looks again behind the
gate, where it asks, and where it remembers the answer.
-/

namespace Tollgate.Guard

variable {C S B A D : Type}

@[simp]
theorem Scene.atTime_atTime (x : Scene C S B) (earlier elapsed : Nat) :
    (x.atTime earlier).atTime elapsed = x.atTime elapsed :=
  rfl

/-- A plan sets the clock itself. -/
theorem paced_atTime (g : Guard C S B) (time : Nat → Nat) (p : Plan A) (n : Nat) (x : Scene C S B)
    (elapsed : Nat) : g.paced time p n (x.atTime elapsed) = g.paced time p n x := by
  cases p with
  | ask bind q s next => simp only [paced, Scene.atTime_atTime]
  | _ => rfl

/-- Plans that follow one another run one after the other. -/
theorem paced_followedBy (g : Guard C S B) (time : Nat → Nat) (p : Plan A) (f : Outcome A → Plan D)
    (n : Nat) (x : Scene C S B) :
    g.paced time (p.followedBy f) n x =
      g.paced time (f (g.paced time p n x).1) (g.paced time p n x).2.1 (g.paced time p n x).2.2 := by
  induction p generalizing n x with
  | done outcome => exact (g.paced_atTime time (f outcome) n x (time n)).symm
  | note k rest ih => exact ih _ _
  | look c s next ih => exact ih _ _ _
  | enter c s rest ih => exact ih _ _
  | leave c s rest ih => exact ih _ _
  | ask bind q s next ih =>
      simp only [Plan.followedBy, paced]
      cases g.binds.runOnBind bind Except.ok with
      | error e => exact ih _ _ _
      | ok connection => exact ih _ _ _
  | learn c s fact rest ih => exact ih _ _
  | count cmd next ih => exact ih _ _ _

/-- Where the clock stands, a plan comes to what it comes to alone. The two ways of running a plan are
defined apart, `paced` for the soak and `alone` for all other sequential runs; this is what says that
they run the same calls. -/
theorem paced_of_still (g : Guard C S B) (elapsed : Nat) (p : Plan A) (n : Nat)
    {x : Scene C S B} (h : x.clock = { elapsed }) :
    (g.paced (fun _ => elapsed) p n x).1 = (g.alone p x).1 ∧
      (g.paced (fun _ => elapsed) p n x).2.2 = (g.alone p x).2 := by
  have hStill {y : Scene C S B} (hy : y.clock = { elapsed }) : y.atTime elapsed = y := by
    rw [Scene.atTime, ← hy]
  induction p generalizing n x with
  | done outcome => exact ⟨rfl, hStill h⟩
  | note k rest ih =>
      simp only [paced, alone, hStill h]
      exact ih _ h
  | look c s next ih =>
      simp only [paced, alone, hStill h]
      exact ih _ _ h
  | enter c s rest ih =>
      simp only [paced, alone, hStill h]
      exact ih _ h
  | leave c s rest ih =>
      simp only [paced, alone, hStill h]
      exact ih _ h
  | ask bind q s next ih =>
      simp only [paced, alone, hStill h]
      cases g.binds.runOnBind bind Except.ok with
      | error e => exact ih _ _ h
      | ok connection => exact ih _ _ h
  | learn c s fact rest ih =>
      simp only [paced, alone, hStill h]
      exact ih _ h
  | count cmd next ih =>
      simp only [paced, alone, hStill h]
      exact ih _ _ h

/-- A plan ends at the time of its last step. -/
theorem paced_atTime_end (g : Guard C S B) (time : Nat → Nat) (p : Plan A) (n : Nat)
    (x : Scene C S B) :
    (g.paced time p n x).2.2.atTime (time (g.paced time p n x).2.1) = (g.paced time p n x).2.2 := by
  induction p generalizing n x with
  | done outcome => rfl
  | note k rest ih => exact ih _ _
  | look c s next ih => exact ih _ _ _
  | enter c s rest ih => exact ih _ _
  | leave c s rest ih => exact ih _ _
  | ask bind q s next ih =>
      simp only [paced]
      cases g.binds.runOnBind bind Except.ok with
      | error e => exact ih _ _ _
      | ok connection => exact ih _ _ _
  | learn c s fact rest ih => exact ih _ _
  | count cmd next ih => exact ih _ _ _

/-- From every scene with one property, and at whatever step, a plan comes to an outcome and to a
scene with another property. -/
def Leads (g : Guard C S B) (time : Nat → Nat) (P : Scene C S B → Prop) (p : Plan A)
    (outcome : Outcome A) (Q : Scene C S B → Prop) : Prop :=
  ∀ n x, P x → ∃ m y, g.paced time p n x = (outcome, m, y) ∧ Q y

namespace Leads

variable {g : Guard C S B} {time : Nat → Nat} {P Q R T : Scene C S B → Prop}

theorem followedBy {p : Plan A} {f : Outcome A → Plan D} {outcome : Outcome A}
    {final : Outcome D} (h : g.Leads time P p outcome Q)
    (hNext : g.Leads time Q (f outcome) final R) : g.Leads time P (p.followedBy f) final R := by
  intro n x hx
  obtain ⟨m, y, hRun, hy⟩ := h n x hx
  rw [paced_followedBy, hRun]
  exact hNext m y hy

theorem andThen {p : Plan A} {f : A → Plan D} {a : A} {final : Outcome D}
    (h : g.Leads time P p (.ok a) Q) (hNext : g.Leads time Q (f a) final R) :
    g.Leads time P (p.andThen f) final R :=
  h.followedBy hNext

/-- What only changes the outcome of a plan adds nothing to it. -/
theorem followedBy_done {p : Plan A} {f : Outcome A → Plan D} {outcome : Outcome A}
    {final : Outcome D} (h : g.Leads time P p outcome Q) (hDone : f outcome = .done final) :
    g.Leads time P (p.followedBy f) final Q := by
  intro n x hx
  obtain ⟨m, y, hRun, hy⟩ := h n x hx
  have hEnd := g.paced_atTime_end time p n x
  rw [hRun] at hEnd
  refine ⟨m, y, ?_, hy⟩
  rw [paced_followedBy, hRun, hDone, paced, hEnd]

/-- Where all lookups of an authorization lead to facts that grant it, so does the authorization. -/
theorem authorize {s : ServiceId} {keys : List ApiKey} {permissions : List Permission}
    {now : Timestamp} {permission : String}
    (hActive : g.Leads time P (.lookup .serviceActive s) (.ok (some true)) Q)
    (hKeys : g.Leads time Q (.lookup .apiKeys s) (.ok (some keys)) R)
    (hPermissions : g.Leads time R (.lookup .permissions s) (.ok (some permissions)) T)
    (hLive : (keys.filter (·.isLiveAt now)).isEmpty = false)
    (hGrants : permissions.any (·.grants permission)) :
    g.Leads time P (Plan.authorize now s permission)
      (.ok { service := s, apiKeys := keys.filter (·.isLiveAt now), permissions }) T := by
  have hEvaluate : g.Leads time P (Plan.evaluate now s permission)
      (.ok { service := s, apiKeys := keys.filter (·.isLiveAt now), permissions }) T := by
    have hKeyList : g.Leads time Q (Plan.apiKeys s) (.ok keys) R := hKeys.followedBy_done rfl
    have hNames : g.Leads time R (Plan.permissions s) (.ok permissions) T :=
      hPermissions.followedBy_done rfl
    refine hActive.andThen (hKeyList.andThen ?_)
    simp only [hLive, Bool.false_eq_true, if_false]
    exact hNames.followedBy_done (if_pos hGrants)
  exact hEvaluate.followedBy_done rfl

end Leads

/-- The instant that the clock of the caches shows at a step. -/
def shown (time : Nat → Nat) (n : Nat) : Nat :=
  Cache.Clock.now { elapsed := time n }

/-- The questions among deeds, the newest first. -/
def questions (deeds : List (Deed C)) : List Question :=
  deeds.filterMap fun
    | .asked _ q _ _ _ => some q
    | _ => none

/-- A scene `y` after a lookup in a scene `x` that put its question so many times: this cache of the
concern, these stores, and all else that is kept as it was. -/
structure AfterLookup (x y : Scene C S B) (c : Concern) (cache : ConcernCache c) (loads : Nat)
    (stores : S) : Prop where
  cache_eq : y.memory.cache c = cache
  others : ∀ d, d ≠ c → y.memory.cache d = x.memory.cache d
  questions_eq : questions y.deeds = List.replicate loads (.fact c) ++ questions x.deeds
  stores_eq : y.stores = stores
  counts : y.counts = x.counts

variable {g : Guard C S B} {time : Nat → Nat} {c : Concern} {s : ServiceId} {fact : c.Fact} {n : Nat}
  {x : Scene C S B}

theorem paced_look (g : Guard C S B) (time : Nat → Nat) (c : Concern) (s : ServiceId)
    (next : Option c.Fact → Plan A) (n : Nat) (x : Scene C S B) :
    g.paced time (.look c s next) n x =
      g.paced time (next ((x.atTime (time n)).live? c s)) (n + 1)
        ((x.atTime (time n)).look c s).2 := by
  simp only [paced, Scene.look_fst]

theorem paced_ask_replica (g : Guard C S B) (time : Nat → Nat) (q : Question) (s : ServiceId)
    (next : Outcome q.Answer → Plan A) (n : Nat) (x : Scene C S B) :
    g.paced time (.ask replicaBind q s next) n x =
      g.paced time (next ((x.atTime (time n)).ask g.authority g.replica q s).1) (n + 1)
        ((x.atTime (time n)).ask g.authority g.replica q s).2 := by
  simp only [paced, runOnBind_replica]

/-- A lookup that finds a live fact looks once and asks nobody. -/
theorem paced_lookup_of_live (h : (x.memory.cache c).live? s (shown time n) = some fact) :
    ∃ m y, g.paced time (.lookup c s) n x = (.ok (some fact), m, y) ∧
      AfterLookup x y c ((x.memory.cache c).get s (shown time n)).2 0 x.stores := by
  have hLive : (x.atTime (time n)).live? c s = some fact := h
  rw [Plan.lookup, paced_look, hLive]
  refine ⟨_, _, rfl, ?_⟩
  constructor
  case cache_eq => exact Scene.cache_look (x.atTime (time n)) c s
  case others => exact fun d hd => Scene.cache_look_of_ne (x.atTime (time n)) s hd
  case questions_eq => rfl
  case stores_eq => rfl
  case counts => rfl

/-- What is not live behind the gate either is asked for, and what is told is remembered. -/
theorem paced_behindGate (h : (x.memory.cache c).live? s (shown time n) = none) {answer : c.Answer}
    {stores : S} (hAnswer : g.authority g.replica (.fact c) s x.stores = (.ok answer, stores))
    (hFact : c.fact? answer = some fact) :
    ∃ m y, g.paced time (.behindGate c s) n x = (.ok (some fact), m, y) ∧
      AfterLookup x y c
        (((x.memory.cache c).get s (shown time n)).2.put s fact (shown time (n + 3))) 1 stores := by
  have hLive : (x.atTime (time n)).live? c s = none := h
  let y := ((x.atTime (time n)).look c s).2.atTime (time (n + 1))
  let z : Scene C S B := { y with
    stores := stores
    deeds := .asked g.replica (.fact c) s y.clock.now (.ok answer) :: y.deeds }
  have hAsk : y.ask g.authority g.replica (.fact c) s = (.ok answer, z) := by
    unfold Scene.ask
    rw [show y.stores = x.stores from rfl, hAnswer]
  -- The load is reported between the answer and the moment at which it is remembered.
  let w := ((z.atTime (time (n + 2))).note (.load c)).atTime (time (n + 3))
  have hCache : w.memory.cache c = ((x.memory.cache c).get s (shown time n)).2 :=
    Scene.cache_look (x.atTime (time n)) c s
  have hRun : g.paced time (.behindGate c s) n x =
      (.ok (some fact), n + 5, (w.learn c s fact).atTime (time (n + 5))) := by
    rw [Plan.behindGate, paced_look, hLive]
    refine (g.paced_ask_replica time (.fact c) s (Plan.settle c s) (n + 1) _).trans ?_
    rw [hAsk]
    simp only [Plan.settle, hFact]
    rfl
  refine ⟨_, _, hRun, ?_⟩
  constructor
  case cache_eq =>
    rw [← hCache]
    exact Scene.cache_learn w c s fact
  case others =>
    intro d hd
    exact (Scene.cache_learn_of_ne w s fact hd).trans
      (Scene.cache_look_of_ne (x.atTime (time n)) s hd)
  case questions_eq => rfl
  case stores_eq => rfl
  case counts => rfl

/-- A lookup of what is not stored looks twice, and remembers what it is told. -/
theorem paced_lookup_of_new (h : (x.memory.cache c).peek? s = none) {answer : c.Answer} {stores : S}
    (hAnswer : g.authority g.replica (.fact c) s x.stores = (.ok answer, stores))
    (hFact : c.fact? answer = some fact) :
    ∃ m y, g.paced time (.lookup c s) n x = (.ok (some fact), m, y) ∧
      AfterLookup x y c
        ((((x.memory.cache c).get s (shown time n)).2.get s (shown time (n + 3))).2.put s fact
          (shown time (n + 6))) 1 stores := by
  have hLive : (x.atTime (time n)).live? c s = none := Cache.live?_of_new h _
  let y := ((((x.atTime (time n)).look c s).2.atTime (time (n + 1))).note (.miss c)).atTime
    (time (n + 2))
  have hCache : y.memory.cache c = ((x.memory.cache c).get s (shown time n)).2 :=
    Scene.cache_look (x.atTime (time n)) c s
  have hAgain : (y.memory.cache c).live? s (shown time (n + 3)) = none := by
    rw [hCache, Cache.get_of_new h]
    exact Cache.live?_of_new (c := { x.memory.cache c with misses := _ }) h _
  have hRun : g.paced time (.lookup c s) n x = g.paced time (.behindGate c s) (n + 3) y := by
    rw [Plan.lookup, paced_look, hLive]
    rfl
  obtain ⟨m, z, hGate, hz⟩ := g.paced_behindGate hAgain hAnswer hFact
  refine ⟨m, z, hRun.trans hGate, ?_⟩
  constructor
  case cache_eq => rw [hz.cache_eq, hCache]
  case others =>
    intro d hd
    exact (hz.others d hd).trans (Scene.cache_look_of_ne (x.atTime (time n)) s hd)
  case questions_eq => exact hz.questions_eq
  case stores_eq => exact hz.stores_eq
  case counts => exact hz.counts

section CheckLimit

open Counter (Command dailyKey)

variable {today : Date} {counts : B}

theorem Scene.count_atTime {counters : Counter.Client B} {cmd : Command} {told : Outcome cmd.Told}
    (h : counters.run cmd x.counts = (told, counts)) (elapsed : Nat) :
    (x.atTime elapsed).count counters cmd =
      (told, { x.atTime elapsed with counts := counts }) := by
  unfold count
  rw [show (x.atTime elapsed).counts = x.counts from rfl, h]

/-- A check that is told a count within the limit admits. -/
theorem paced_checkLimit_of_within {sent limit : Int}
    (h : g.counters.run (.incr (dailyKey today s)) x.counts = (.ok (some sent), counts))
    (hWithin : sent ≤ limit) :
    g.paced time (.checkLimit today s limit) n x =
      (.ok sent, n + 1, { x.atTime (time (n + 1)) with counts := counts }) := by
  simp only [Plan.checkLimit, Plan.incrementDaily, Plan.andThen, Plan.followedBy, paced,
    Scene.count_atTime h, if_neg (Int.not_lt.2 hWithin)]
  rfl

/-- A check that is told a failure fails by it. -/
theorem paced_checkLimit_of_error {e : Failure}
    (h : g.counters.run (.incr (dailyKey today s)) x.counts = (.error e, counts)) (limit : Int) :
    g.paced time (.checkLimit today s limit) n x =
      (.error e, n + 1, { x.atTime (time (n + 1)) with counts := counts }) := by
  simp only [Plan.checkLimit, Plan.incrementDaily, Plan.andThen, Plan.followedBy, paced,
    Scene.count_atTime h]
  rfl

end CheckLimit

end Tollgate.Guard
