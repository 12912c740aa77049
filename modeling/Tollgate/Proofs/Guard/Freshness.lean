import Tollgate.Proofs.Guard.Account
import Tollgate.Proofs.Guard.Course
import Tollgate.Proofs.Guard.Decision
import Tollgate.Proofs.Guard.Parts

/-!
How old the facts are on which calls go. A call remembers only what the replica has told it, so the
account of the memory holds along every run. A fact that a lookup finds is then younger than the
time to live of its concern, and what is not found is asked for within the call.
-/

namespace Tollgate.Guard

variable {C S B A D : Type}

/-- The facts about services that a call may take for true. -/
abbrev Knowledge := (c : Concern) → ServiceId → c.Fact → Prop

/-- What is known once the outcome of a question is. Only the replica is trusted. -/
def Knowledge.extend (known : Knowledge) (bind : String) (q : Question) (s : ServiceId)
    (outcome : Outcome q.Answer) : Knowledge :=
  fun c r fact => known c r fact ∨ (bind = replicaBind ∧ r = s ∧ Holds c fact q outcome)

/-- The plan remembers only facts that are known or that the replica has told before. -/
def Plan.Honest : Plan A → Knowledge → Prop
  | .done _, _ => True
  | .note _ rest, known => rest.Honest known
  | .look _ _ next, known => ∀ fact, (next fact).Honest known
  | .enter _ _ rest, known => rest.Honest known
  | .leave _ _ rest, known => rest.Honest known
  | .ask bind q s next, known =>
    ∀ outcome, (next outcome).Honest (known.extend bind q s outcome)
  | .learn c s fact rest, known => known c s fact ∧ rest.Honest known
  | .count _ next, known => ∀ outcome, (next outcome).Honest known

theorem Plan.Honest.mono {p : Plan A} {known more : Knowledge} (h : p.Honest known)
    (hMore : ∀ c s fact, known c s fact → more c s fact) : p.Honest more := by
  induction p generalizing known more with
  | done outcome => trivial
  | note n rest ih => exact ih h hMore
  | look c s next ih => exact fun fact => ih fact (h fact) hMore
  | enter c s rest ih => exact ih h hMore
  | leave c s rest ih => exact ih h hMore
  | ask bind q s next ih =>
      intro outcome
      refine ih outcome (h outcome) ?_
      rintro c r fact (hKnown | hHolds)
      · exact Or.inl (hMore c r fact hKnown)
      · exact Or.inr hHolds
  | learn c s fact rest ih => exact ⟨hMore c s fact h.1, ih h.2 hMore⟩
  | count cmd next ih => exact fun outcome => ih outcome (h outcome) hMore

/-- What follows a plan may rely on all that was known before it. -/
theorem Plan.Honest.followedBy {p : Plan A} {f : Outcome A → Plan D} {known : Knowledge}
    (h : p.Honest known) (hf : ∀ outcome, (f outcome).Honest known) :
    (p.followedBy f).Honest known := by
  induction p generalizing known with
  | done outcome => exact hf outcome
  | note n rest ih => exact ih h hf
  | look c s next ih => exact fun fact => ih fact (h fact) hf
  | enter c s rest ih => exact ih h hf
  | leave c s rest ih => exact ih h hf
  | ask bind q s next ih =>
      intro outcome
      exact ih outcome (h outcome) fun o => (hf o).mono fun _ _ _ => Or.inl
  | learn c s fact rest ih => exact ⟨h.1, ih h.2 hf⟩
  | count cmd next ih => exact fun outcome => ih outcome (h outcome) hf

/-- A lookup remembers what the answer to its own question holds. -/
theorem Plan.lookup_honest (c : Concern) (s : ServiceId) (known : Knowledge) :
    (Plan.lookup c s).Honest known := by
  intro found
  cases found with
  | some fact => trivial
  | none =>
      intro again
      cases again with
      | some fact => trivial
      | none =>
          intro outcome
          cases outcome with
          | error e => trivial
          | ok answer =>
              simp only [Plan.settle, Plan.Honest]
              cases hFact : c.fact? answer with
              | none => trivial
              | some fact => exact ⟨Or.inr ⟨rfl, rfl, .single hFact⟩, trivial⟩

/-- A plan that remembers all that a snapshot says is honest if the snapshot is known. -/
theorem Plan.learnAll_honest {s : ServiceId} {snapshot : Snapshot} {known : Knowledge}
    (outcome : Outcome A) (cs : List Concern) (hKnown : ∀ c, known c s (c.factOf snapshot)) :
    Plan.Honest (cs.foldr (fun c rest => .learn c s (c.factOf snapshot) rest) (.done outcome))
      known := by
  induction cs with
  | nil => trivial
  | cons c cs ih => exact ⟨hKnown c, ih⟩

/-- Whether a snapshot is fetched whole or fact by fact, each fact that it holds was an answer. -/
theorem Plan.prime_honest (joined : Bool) (s : ServiceId) (known : Knowledge) :
    (Plan.prime joined s).Honest known := by
  cases joined with
  | true =>
      intro outcome
      match outcome with
      | .error e => trivial
      | .ok none => trivial
      | .ok (some snapshot) =>
          exact Plan.learnAll_honest (.ok true) _ fun c => Or.inr ⟨rfl, rfl, .joined rfl⟩
  | false =>
      intro active
      match active with
      | .error e => trivial
      | .ok none => trivial
      | .ok (some flag) =>
          intro keys
          match keys with
          | .error e => trivial
          | .ok (ks : List ApiKey) =>
              intro permissions
              match permissions with
              | .error e => trivial
              | .ok (ps : List Permission) =>
                  refine Plan.learnAll_honest (.ok true) _ fun c => ?_
                  cases c with
                  | apiKeys => exact Or.inl (Or.inr ⟨rfl, rfl, .single rfl⟩)
                  | permissions => exact Or.inr ⟨rfl, rfl, .single rfl⟩
                  | serviceActive => exact Or.inl (Or.inl (Or.inr ⟨rfl, rfl, .single rfl⟩))

/-- No call takes anything for true that was not an answer to a question of its own. -/
theorem Call.plan_honest (present : Present) (joined : Bool) (call : Call) (known : Knowledge) :
    (call.plan present joined).Honest known :=
  Call.plan_of_parts (P := fun p => p.Honest known) (fun _ => trivial) (fun _ _ _ h => h)
    (fun _ _ h => h) (fun _ _ h hf => h.followedBy hf) (fun c s => Plan.lookup_honest c s known)
    (fun _ _ => trivial) present call fun s _ => Plan.prime_honest joined s known

/-- A scene that a call reaches: no time has passed, and nothing was forgotten. -/
structure Continues (x y : Scene C S B) : Prop where
  clock : y.clock = x.clock
  deeds : ∃ later, y.deeds = later ++ x.deeds ∧ ∀ e ∈ later, ∀ s, ¬e.Forgets s

namespace Continues

variable {x y z : Scene C S B}

theorem of_deeds_eq (hClock : y.clock = x.clock) (hDeeds : y.deeds = x.deeds) :
    Continues x y where
  clock := hClock
  deeds := ⟨[], hDeeds, fun _ h => by cases h⟩

theorem refl (x : Scene C S B) : Continues x x :=
  of_deeds_eq rfl rfl

theorem note (x : Scene C S B) (n : Note) : Continues x (x.note n) where
  clock := rfl
  deeds := ⟨[.noted n], rfl, fun e h => by rw [List.mem_singleton.1 h]; exact fun _ => id⟩

theorem ask (x : Scene C S B) (authority : C → Authority S) (connection : C) (q : Question)
    (s : ServiceId) : Continues x (x.ask authority connection q s).2 where
  clock := rfl
  deeds := ⟨[.asked connection q s x.clock.now (x.ask authority connection q s).1], rfl,
    fun e h => by rw [List.mem_singleton.1 h]; exact fun _ => id⟩

theorem look (x : Scene C S B) (c : Concern) (s : ServiceId) : Continues x (x.look c s).2 :=
  of_deeds_eq rfl rfl

theorem learn (x : Scene C S B) (c : Concern) (s : ServiceId) (fact : c.Fact) :
    Continues x (x.learn c s fact) :=
  of_deeds_eq rfl rfl

theorem count (x : Scene C S B) (counters : Counter.Client B) (cmd : Counter.Command) :
    Continues x (x.count counters cmd).2 :=
  of_deeds_eq rfl rfl

theorem trans (first : Continues x y) (second : Continues y z) : Continues x z := by
  obtain ⟨earlier, hEarlier, hKept⟩ := first.deeds
  obtain ⟨later, hLater, hKeptToo⟩ := second.deeds
  refine ⟨second.clock.trans first.clock, later ++ earlier, ?_, fun e he => ?_⟩
  · rw [hLater, hEarlier, List.append_assoc]
  · exact (List.mem_append.1 he).elim (hKeptToo e) (hKept e)

theorem suffix (h : Continues x y) : x.deeds <:+ y.deeds := by
  obtain ⟨later, hLater, _⟩ := h.deeds
  exact ⟨later, hLater.symm⟩

theorem toldSince (h : Continues x y) {g : Guard C S B} {earlier : List (Deed C)} {c : Concern}
    {s : ServiceId} {fact : c.Fact} {time : Nat}
    (hTold : g.ToldSince x.deeds earlier c s fact time) :
    g.ToldSince y.deeds earlier c s fact time := by
  obtain ⟨later, hLater, hKept⟩ := h.deeds
  rw [hLater]
  exact hTold.append fun e he => hKept e he s

end Continues

/-- A call forgets nothing and takes no time. -/
theorem Reaches.continues {g : Guard C S B} {p q : Plan A} {x y : Scene C S B}
    (h : g.Reaches p x q y) : Continues x y := by
  induction h with
  | refl => exact .refl _
  | note _ ih => exact (Continues.note _ _).trans ih
  | asked _ _ ih => exact (Continues.ask _ _ _ _ _).trans ih
  | look _ ih => exact (Continues.look _ _ _).trans ih
  | learn _ ih => exact (Continues.learn _ _ _ _).trans ih
  | count _ ih => exact (Continues.count _ _ _).trans ih
  | enter _ ih | leave _ ih | refused _ _ ih => exact ih

theorem settled_continues (x : Scene C S B) (c : Concern) (s : ServiceId)
    (outcome : Outcome c.Answer) : Continues x (settled x c s outcome) := by
  unfold settled
  split
  · exact .refl x
  · split
    · exact .note x _
    · exact (Continues.note x _).trans (.learn _ c s _)

/-- What is known was told by the replica at this time, and its service was not forgotten since. -/
def Knowledge.Backed (known : Knowledge) (g : Guard C S B) (x : Scene C S B) : Prop :=
  ∀ c s fact, known c s fact →
    ∃ earlier, g.ToldSince x.deeds earlier c s fact x.clock.now

theorem Knowledge.Backed.continues {known : Knowledge} {g : Guard C S B} {x y : Scene C S B}
    (h : known.Backed g x) (hLater : Continues x y) : known.Backed g y := by
  intro c s fact hKnown
  obtain ⟨earlier, hTold⟩ := h c s fact hKnown
  rw [hLater.clock]
  exact ⟨earlier, hLater.toldSince hTold⟩

/-- An answer of the replica backs what is learnt from it. -/
theorem Knowledge.Backed.asked {known : Knowledge} {g : Guard C S B} {x : Scene C S B}
    (h : known.Backed g x) {bind : String} {connection : C}
    (hBind : g.binds.runOnBind bind Except.ok = .ok connection) (q : Question) (s : ServiceId) :
    (known.extend bind q s (x.ask g.authority connection q s).1).Backed g
      (x.ask g.authority connection q s).2 := by
  rintro c r fact (hKnown | ⟨rfl, rfl, hHolds⟩)
  · exact h.continues (.ask x g.authority connection q s) c r fact hKnown
  · rw [runOnBind_replica] at hBind
    cases hBind
    exact ⟨x.deeds, [], _, rfl, .intro hHolds, fun _ h => by cases h⟩

/-- The deeds of a scene account for its memory. -/
abbrev AccountedIn (g : Guard C S B) (settings : CachesSettings) (x : Scene C S B) : Prop :=
  g.Accounted settings x.memory x.clock.now x.deeds

/-- The account holds at every stage of an honest call. -/
theorem Reaches.accounted {g : Guard C S B} {settings : CachesSettings} {p q : Plan A}
    {x y : Scene C S B} (h : g.Reaches p x q y) {known : Knowledge} (hHonest : p.Honest known)
    (hBacked : known.Backed g x) (hAccounted : g.AccountedIn settings x) :
    g.AccountedIn settings y := by
  induction h generalizing known with
  | refl => exact hAccounted
  | note _ ih =>
      exact ih hHonest (hBacked.continues (.note _ _)) (hAccounted.noted _)
  | look _ ih =>
      exact ih (hHonest _) (hBacked.continues (.look _ _ _)) (hAccounted.look _ _)
  | enter _ ih | leave _ ih => exact ih hHonest hBacked hAccounted
  | refused _ _ ih =>
      refine ih (hHonest _) ?_ hAccounted
      rintro c s fact (hKnown | ⟨_, _, hHolds⟩)
      · exact hBacked c s fact hKnown
      · cases hHolds
  | asked hBind _ ih =>
      exact ih (hHonest _) (hBacked.asked hBind _ _) (hAccounted.asked _ _ _ _)
  | learn _ ih =>
      obtain ⟨earlier, hTold⟩ := hBacked _ _ _ hHonest.1
      exact ih hHonest.2 (hBacked.continues (.learn _ _ _ _)) (hAccounted.learn hTold)
  | count _ ih =>
      exact ih (hHonest _) (hBacked.continues (.count _ _ _)) hAccounted

/-- Nothing is known when a call begins. -/
theorem Reaches.accounted_of_call {g : Guard C S B} {settings : CachesSettings}
    {present : Present} {call : Call} {q : Plan Reply} {x y : Scene C S B}
    (h : g.Reaches (call.plan present g.joined) x q y) (hAccounted : g.AccountedIn settings x) :
    g.AccountedIn settings y :=
  h.accounted (Call.plan_honest present g.joined call fun _ _ _ => False)
    (fun _ _ _ hKnown => hKnown.elim) hAccounted

theorem lookup_accounted {g : Guard C S B} {settings : CachesSettings} {x : Scene C S B}
    (h : g.AccountedIn settings x) (c : Concern) (s : ServiceId) :
    g.AccountedIn settings (g.alone (Plan.lookup c s) x).2 :=
  (g.reaches_done _ x).accounted (Plan.lookup_honest c s fun _ _ _ => False)
    (fun _ _ _ hKnown => hKnown.elim) h

/-- Whatever happens next, the account still holds. -/
theorem act_accounted {g : Guard C S B} {settings : CachesSettings} {x : Scene C S B}
    (h : g.AccountedIn settings x) (a : Act S B) : g.AccountedIn settings (g.act x a) := by
  cases a with
  | call present call => exact (g.reaches_done _ x).accounted_of_call h
  | invalidate s => exact h.invalidate s
  | clear => exact h.clear
  | advance span => exact h.mono (Cache.Clock.now_le_now_advance x.clock span)
  | changeStores change => exact h
  | changeCounts change => exact h

theorem acts_accounted {g : Guard C S B} {settings : CachesSettings} {x : Scene C S B}
    (h : g.AccountedIn settings x) (run : List (Act S B)) :
    g.AccountedIn settings (g.acts x run) := by
  induction run generalizing x with
  | nil => exact h
  | cons a run ih => exact ih (act_accounted h a)

/-- No deed is ever unsaid. -/
theorem deeds_suffix_act (g : Guard C S B) (x : Scene C S B) (a : Act S B) :
    x.deeds <:+ (g.act x a).deeds := by
  cases a with
  | call present call => exact (g.reaches_done _ x).continues.suffix
  | invalidate s => exact List.suffix_cons _ _
  | clear => exact List.suffix_cons _ _
  | advance span => exact List.suffix_rfl
  | changeStores change => exact List.suffix_rfl
  | changeCounts change => exact List.suffix_rfl

theorem deeds_suffix_acts (g : Guard C S B) (x : Scene C S B) (run : List (Act S B)) :
    x.deeds <:+ (g.acts x run).deeds := by
  induction run generalizing x with
  | nil => exact List.suffix_rfl
  | cons a run ih => exact (deeds_suffix_act g x a).trans (ih (g.act x a))

/-- A fact that a call begun in the scene `x` has found by the scene `z` is fresh: the replica told
it within the call, or less than its time to live ago, and its service was not forgotten since. -/
def Fresh (g : Guard C S B) (settings : CachesSettings) (x z : Scene C S B) (c : Concern)
    (s : ServiceId) (fact : c.Fact) (earlier : List (Deed C)) (time : Nat) : Prop :=
  g.ToldSince z.deeds earlier c s fact time ∧ time ≤ z.clock.now ∧
    (x.deeds <:+ earlier ∨ z.clock.now < time + (settings.of c).ttl)

/-- A lookup that had to ask has the fact from the answer it was given. -/
theorem toldSince_of_loaded {g : Guard C S B} {x : Scene C S B} {c : Concern} {s : ServiceId}
    {fact : c.Fact} (hLive : x.live? c s = none)
    (hFound : (g.alone (Plan.lookup c s) x).1 = .ok (some fact)) :
    g.ToldSince (g.alone (Plan.lookup c s) x).2.deeds (missed x c s).deeds c s fact
      x.clock.now := by
  rw [alone_lookup_of_not_live g hLive] at hFound ⊢
  have hTells : ∀ outcome : Outcome (Question.fact c).Answer,
      outcome.map c.fact? = .ok (some fact) →
      g.Tells c s fact x.clock.now (.asked g.replica (.fact c) s x.clock.now outcome) := by
    intro outcome hOutcome
    cases outcome with
    | error e => cases hOutcome
    | ok answer => exact .intro (.single (Except.ok.inj hOutcome))
  have hAsked : g.ToldSince ((missed x c s).ask g.authority g.replica (.fact c) s).2.deeds
      (missed x c s).deeds c s fact x.clock.now :=
    ⟨[], _, rfl, hTells _ hFound, fun _ h => by cases h⟩
  refine (settled_continues _ c s _).toldSince hAsked

/-- A lookup that succeeds with a fact has it from the replica: from now, or from the time at which
the live entry of the cache was stored. -/
theorem lookup_fresh {g : Guard C S B} {settings : CachesSettings} {x : Scene C S B}
    (h : g.AccountedIn settings x) {c : Concern} {s : ServiceId} {fact : c.Fact}
    (hFound : (g.alone (Plan.lookup c s) x).1 = .ok (some fact)) :
    ∃ earlier time, g.Fresh settings x (g.alone (Plan.lookup c s) x).2 c s fact earlier time := by
  cases hLive : x.live? c s with
  | some known =>
      rw [alone_lookup_of_live g hLive] at hFound ⊢
      cases hFound
      obtain ⟨e, hEntry, hAlive, rfl⟩ := Cache.live?_eq_some_iff.1 hLive
      have hMem := Cache.mem_of_peek? hEntry
      obtain ⟨earlier, hTold⟩ := h.told c _ hMem
      have hYoung : x.clock.now < e.insertedAt + (settings.of c).ttl := by
        have hExpired := (h.timed c _ hMem).isExpired_iff x.clock.now_le_lastInstant
        simp only at hExpired
        rw [hAlive] at hExpired
        simpa using hExpired
      refine ⟨earlier, e.insertedAt, hTold.cons id, ?_, Or.inr hYoung⟩
      obtain ⟨later, d, hLog, hTells, _⟩ := hTold
      cases hTells with
      | intro => exact h.past _ _ _ _ _ (hLog ▸ List.mem_append_right _ List.mem_cons_self)
  | none =>
      have hClock : (g.alone (Plan.lookup c s) x).2.clock = x.clock := clock_alone_lookup g c s x
      refine ⟨_, _, toldSince_of_loaded hLive hFound, Nat.le_of_eq ?_,
        Or.inl (List.suffix_cons _ _)⟩
      rw [hClock]

/-- A fact that is fresh for a call within a call is fresh for the whole call. -/
theorem Fresh.of_continues {g : Guard C S B} {settings : CachesSettings} {w x y z : Scene C S B}
    {c : Concern} {s : ServiceId} {fact : c.Fact} {earlier : List (Deed C)} {time : Nat}
    (h : g.Fresh settings x y c s fact earlier time) (hBefore : w.deeds <:+ x.deeds)
    (hAfter : Continues y z) : g.Fresh settings w z c s fact earlier time := by
  obtain ⟨hTold, hPast, hRecent⟩ := h
  refine ⟨hAfter.toldSince hTold, ?_, ?_⟩
  · rwa [hAfter.clock]
  · rw [hAfter.clock]
    exact hRecent.imp_left hBefore.trans

/-- What happened on the replica a time to live before the call is reflected in a fresh fact. -/
theorem Fresh.reflects {g : Guard C S B} {settings : CachesSettings} {w x z : Scene C S B}
    {c : Concern} {s : ServiceId} {fact : c.Fact} {earlier : List (Deed C)} {time : Nat}
    (h : g.Fresh settings x z c s fact earlier time) (hAccounted : g.AccountedIn settings w)
    (hBefore : w.deeds <:+ x.deeds) (hDuring : x.deeds <:+ z.deeds)
    (hOld : w.clock.now + (settings.of c).ttl ≤ z.clock.now) : w.deeds <:+ earlier := by
  obtain ⟨hTold, _, hRecent | hYoung⟩ := h
  · exact hBefore.trans hRecent
  · refine hTold.after (hBefore.trans hDuring) fun connection q r outcome hMem => ?_
    have := hAccounted.past connection q r time outcome hMem
    omega

/-- A fact that a call begun in the scene `x` has found by the scene `z` is fresh, and was told
after the earlier scene `w` if its time to live has passed since: it reflects what the replica held
then or later. -/
def Current (g : Guard C S B) (settings : CachesSettings) (w x z : Scene C S B) (c : Concern)
    (s : ServiceId) (fact : c.Fact) : Prop :=
  ∃ earlier time, g.Fresh settings x z c s fact earlier time ∧
    (w.clock.now + (settings.of c).ttl ≤ x.clock.now → w.deeds <:+ earlier)

/-- A lookup made in the scene `y` of a call finds a fact that is current in every later scene `z`
of the call. -/
theorem current_of_lookup {g : Guard C S B} {settings : CachesSettings} {w x y z : Scene C S B}
    (hw : g.AccountedIn settings w) (hy : g.AccountedIn settings y)
    (hBefore : w.deeds <:+ x.deeds) (hCall : Continues x y) {c : Concern} {s : ServiceId}
    {fact : c.Fact} (hFound : (g.alone (Plan.lookup c s) y).1 = .ok (some fact))
    (hAfter : Continues (g.alone (Plan.lookup c s) y).2 z) :
    g.Current settings w x z c s fact := by
  obtain ⟨earlier, time, hFresh⟩ := lookup_fresh hy hFound
  have hCourse : Continues y z := (g.reaches_done _ y).continues.trans hAfter
  have hWhole : g.Fresh settings x z c s fact earlier time :=
    hFresh.of_continues hCall.suffix hAfter
  refine ⟨earlier, time, hWhole, fun hOld => ?_⟩
  have hClock : z.clock = x.clock := (hCall.trans hCourse).clock
  rw [← hClock] at hOld
  exact hWhole.reflects hw hBefore (hCall.trans hCourse).suffix hOld

/-- Whatever calls begun in the scene `x` find is current, against an earlier scene `w`: facts found
at any stage of a call, facts that a call yields, and the three facts on which a grant rests. -/
structure FindsCurrent (g : Guard C S B) (settings : CachesSettings) (w x : Scene C S B) :
    Prop where
  lookup : ∀ present call c s fact k y,
    g.Reaches (Call.plan present g.joined call) x ((Plan.lookup c s).followedBy k) y →
    (g.alone (Plan.lookup c s) y).1 = .ok (some fact) →
    g.Current settings w x (g.alone (Plan.lookup c s) y).2 c s fact
  apiKeys : ∀ s keys, (g.alone (Plan.apiKeys s) x).1 = .ok keys →
    g.Current settings w x (g.alone (Plan.apiKeys s) x).2 .apiKeys s keys
  permissions : ∀ s permissions, (g.alone (Plan.permissions s) x).1 = .ok permissions →
    g.Current settings w x (g.alone (Plan.permissions s) x).2 .permissions s permissions
  isActive : ∀ s flag, (g.alone (Plan.isActive s) x).1 = .ok (some flag) →
    g.Current settings w x (g.alone (Plan.isActive s) x).2 .serviceActive s flag
  authorize : ∀ now s permission a, (g.alone (Plan.authorize now s permission) x).1 = .ok a →
    g.Current settings w x (g.alone (Plan.authorize now s permission) x).2 .serviceActive s true ∧
      (∃ keys, a.apiKeys = keys.filter (·.isLiveAt now) ∧
        g.Current settings w x (g.alone (Plan.authorize now s permission) x).2 .apiKeys s keys) ∧
      g.Current settings w x (g.alone (Plan.authorize now s permission) x).2 .permissions s
        a.permissions

theorem current_of_authorize {g : Guard C S B} {settings : CachesSettings} {w x : Scene C S B}
    (hw : g.AccountedIn settings w) (hx : g.AccountedIn settings x)
    (hBefore : w.deeds <:+ x.deeds) {now : Timestamp} {s : ServiceId} {permission : String}
    {a : Plan.Authorized} (h : g.Grants x now s permission a) :
    g.Current settings w x (g.afterPermissions x s) .serviceActive s true ∧
      (∃ keys, a.apiKeys = keys.filter (·.isLiveAt now) ∧
        g.Current settings w x (g.afterPermissions x s) .apiKeys s keys) ∧
      g.Current settings w x (g.afterPermissions x s) .permissions s a.permissions := by
  have hActive : Continues x (g.afterActive x s) := (g.reaches_done _ x).continues
  have hKeys : Continues (g.afterActive x s) (g.afterKeys x s) := (g.reaches_done _ _).continues
  have hPermissions : Continues (g.afterKeys x s) (g.afterPermissions x s) :=
    (g.reaches_done _ _).continues
  have hAccountedActive : g.AccountedIn settings (g.afterActive x s) := lookup_accounted hx _ s
  have hAccountedKeys : g.AccountedIn settings (g.afterKeys x s) :=
    lookup_accounted hAccountedActive _ s
  obtain ⟨keys, hFound, _, hFilter⟩ := h.keys
  refine ⟨?_, ⟨keys, hFilter, ?_⟩, ?_⟩
  · refine current_of_lookup hw hx hBefore (.refl x) ?_ (hKeys.trans hPermissions)
    rw [alone_lookup_fst]
    exact h.active
  · refine current_of_lookup hw hAccountedActive hBefore hActive ?_ hPermissions
    rw [alone_lookup_fst, effective_afterActive]
    exact hFound
  · refine current_of_lookup hw hAccountedKeys hBefore (hActive.trans hKeys) ?_ (.refl _)
    rw [alone_lookup_fst, effective_afterKeys]
    exact h.permissions

/-- Where every answer holds a fact, what a call yields is never the default. -/
theorem lookup_of_getD {g : Guard C S B} {x : Scene C S B} {c : Concern} {s : ServiceId}
    {fallback fact : c.Fact} (hFact : ∀ a : c.Answer, ∃ fact, c.fact? a = some fact)
    (h : (g.alone ((Plan.lookup c s).map fun found => found.getD fallback) x).1 = .ok fact) :
    (g.alone (Plan.lookup c s) x).1 = .ok (some fact) := by
  rw [alone_map] at h
  cases hOutcome : (g.alone (Plan.lookup c s) x).1 with
  | error e => rw [hOutcome] at h; cases h
  | ok found =>
      rw [hOutcome] at h
      rw [alone_lookup_fst] at hOutcome
      obtain ⟨known, rfl⟩ := effective_ok hFact hOutcome
      cases h
      rfl

/-- Bounded staleness of every fact on which calls go, for all settings and in every run of calls,
changes and failures of the stores, and moves of the clock. -/
theorem finds_current (g : Guard C S B) (settings : CachesSettings) (clock : Cache.Clock)
    (stores : S) (counts : B) (before after : List (Act S B)) :
    g.FindsCurrent settings (g.acts (opening settings clock stores counts) before)
      (g.acts (g.acts (opening settings clock stores counts) before) after) := by
  have hw : g.AccountedIn settings (g.acts (opening settings clock stores counts) before) :=
    acts_accounted .opening before
  generalize g.acts (opening settings clock stores counts) before = w at hw ⊢
  have hx : g.AccountedIn settings (g.acts w after) := acts_accounted hw after
  have hBefore : w.deeds <:+ (g.acts w after).deeds := deeds_suffix_acts g w after
  generalize g.acts w after = x at hx hBefore ⊢
  constructor
  case lookup =>
    intro present call c s fact k y hReach hFound
    exact current_of_lookup hw (hReach.accounted_of_call hx) hBefore hReach.continues hFound
      (.refl _)
  case apiKeys =>
    intro s keys hFound
    have hEnd : (g.alone (Plan.apiKeys s) x).2 = (g.alone (Plan.lookup .apiKeys s) x).2 :=
      congrArg Prod.snd (alone_map g _ _ x)
    rw [hEnd]
    exact current_of_lookup hw hx hBefore (.refl x) (lookup_of_getD (fun ks => ⟨ks, rfl⟩) hFound)
      (.refl _)
  case permissions =>
    intro s permissions hFound
    have hEnd : (g.alone (Plan.permissions s) x).2 = (g.alone (Plan.lookup .permissions s) x).2 :=
      congrArg Prod.snd (alone_map g _ _ x)
    rw [hEnd]
    exact current_of_lookup hw hx hBefore (.refl x) (lookup_of_getD (fun ps => ⟨ps, rfl⟩) hFound)
      (.refl _)
  case isActive =>
    intro s flag hFound
    exact current_of_lookup hw hx hBefore (.refl x) hFound (.refl _)
  case authorize =>
    intro now s permission a hGranted
    have hGrants := (authorize_eq_ok_iff g x now s permission a).1 hGranted
    rw [alone_authorize_of_grants hGrants]
    exact current_of_authorize hw hx hBefore hGrants

end Tollgate.Guard
