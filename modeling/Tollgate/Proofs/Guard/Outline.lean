import Tollgate.Proofs.Guard.Orderly

/-!
Calls in outline: the lookups that a call makes, one after another, and what it does between them.
The plan of a call is the one that its outline describes, so that wherever a call is within a lookup
one can say which lookup that is, and what is done with its outcome.
-/

namespace Tollgate.Guard

variable {A D : Type}

/-- A call in outline. A lookup is one step of it, whatever it takes to get its outcome. -/
inductive Outline (A : Type)
  | done (outcome : Outcome A)
  | note (n : Note) (rest : Outline A)
  | ask (bind : String) (q : Question) (s : ServiceId) (next : Outcome q.Answer → Outline A)
  | learn (c : Concern) (s : ServiceId) (fact : c.Fact) (rest : Outline A)
  | count (cmd : Counter.Command) (next : Outcome cmd.Told → Outline A)
  | lookup (c : Concern) (s : ServiceId) (next : Outcome (Option c.Fact) → Outline A)

namespace Outline

/-- The plan that an outline describes. -/
def plan : Outline A → Plan A
  | done outcome => .done outcome
  | note n rest => .note n rest.plan
  | ask bind q s next => .ask bind q s fun outcome => (next outcome).plan
  | learn c s fact rest => .learn c s fact rest.plan
  | count cmd next => .count cmd fun outcome => (next outcome).plan
  | lookup c s next => (Plan.lookup c s).followedBy fun outcome => (next outcome).plan

/-- One outline after another, which may depend on the outcome. -/
def followedBy : Outline A → (Outcome A → Outline D) → Outline D
  | done outcome, f => f outcome
  | note n rest, f => note n (rest.followedBy f)
  | ask bind q s next, f => ask bind q s fun outcome => (next outcome).followedBy f
  | learn c s fact rest, f => learn c s fact (rest.followedBy f)
  | count cmd next, f => count cmd fun outcome => (next outcome).followedBy f
  | lookup c s next, f => lookup c s fun outcome => (next outcome).followedBy f

/-- One outline after another that succeeds. -/
def andThen (p : Outline A) (f : A → Outline D) : Outline D :=
  p.followedBy fun
    | .ok a => f a
    | .error e => done (.error e)

/-- An outline with its result changed. -/
def map (f : A → D) (p : Outline A) : Outline D :=
  p.followedBy fun outcome => done (outcome.map f)

theorem plan_followedBy (p : Outline A) (f : Outcome A → Outline D) :
    (p.followedBy f).plan = p.plan.followedBy fun outcome => (f outcome).plan := by
  induction p with
  | done outcome => rfl
  | note n rest ih => exact congrArg (Plan.note n) ih
  | ask bind q s next ih => exact congrArg (Plan.ask bind q s) (funext ih)
  | learn c s fact rest ih => exact congrArg (Plan.learn c s fact) ih
  | count cmd next ih => exact congrArg (Plan.count cmd) (funext ih)
  | lookup c s next ih =>
      refine Eq.trans ?_ (Plan.followedBy_assoc _ _ _).symm
      exact congrArg (Plan.lookup c s).followedBy (funext ih)

/-- Outlines that describe the same plans do so one after another. -/
theorem plan_andThen {p : Outline A} {q : Plan A} {f : A → Outline D} {k : A → Plan D}
    (hFirst : p.plan = q) (hSecond : ∀ a, (f a).plan = k a) :
    (p.andThen f).plan = q.andThen k := by
  unfold andThen Plan.andThen
  rw [plan_followedBy, hFirst]
  congr 1
  funext outcome
  cases outcome with
  | ok a => exact hSecond a
  | error e => rfl

theorem plan_map {p : Outline A} {q : Plan A} (f : A → D) (h : p.plan = q) :
    (p.map f).plan = q.map f := by
  unfold map Plan.map
  rw [plan_followedBy, h]
  rfl

/-- A lookup and nothing else. -/
def single (c : Concern) (s : ServiceId) : Outline (Option c.Fact) :=
  lookup c s done

theorem plan_single (c : Concern) (s : ServiceId) : (single c s).plan = Plan.lookup c s :=
  Plan.followedBy_done (Plan.lookup c s)

/-- The questions of a fetch. -/
def fetch (s : ServiceId) : Fetch A → Outline A
  | .done outcome => done outcome
  | .ask q next => ask replicaBind q s fun outcome => fetch s (next outcome)

theorem plan_fetch (s : ServiceId) (f : Fetch A) : (fetch s f).plan = Plan.fetch s f := by
  induction f with
  | done outcome => rfl
  | ask q next ih => exact congrArg (Plan.ask replicaBind q s) (funext ih)

/-- Priming makes no lookup. -/
def prime (joined : Bool) (s : ServiceId) : Outline Bool :=
  (fetch s (Fetch.snapshot joined)).andThen fun
    | none => done (.ok false)
    | some snapshot =>
      Concern.all.foldr (fun c rest => learn c s (c.factOf snapshot) rest) (done (.ok true))

theorem plan_prime (joined : Bool) (s : ServiceId) :
    (prime joined s).plan = Plan.prime joined s := by
  refine plan_andThen (plan_fetch s _) fun found => ?_
  cases found <;> rfl

/-- The API keys of a service. -/
def apiKeys (s : ServiceId) : Outline (List ApiKey) :=
  (single .apiKeys s).map fun ks : Option (List ApiKey) => ks.getD []

/-- The permissions of a service. -/
def permissions (s : ServiceId) : Outline (List Permission) :=
  (single .permissions s).map fun ps : Option (List Permission) => ps.getD []

/-- A check makes up to three lookups. -/
def evaluate (now : Timestamp) (s : ServiceId) (permission : String) : Outline Plan.Authorized :=
  (single .serviceActive s).andThen fun
    | none => done (.error (Plan.Denial.unknown.failure s))
    | some false => done (.error (Plan.Denial.inactive.failure s))
    | some true =>
      (apiKeys s).andThen fun keys =>
        let live := keys.filter (·.isLiveAt now)
        if live.isEmpty then done (.error (Plan.Denial.noLiveKeys.failure s))
        else
          (permissions s).andThen fun permissions =>
            if permissions.any (·.grants permission) then
              done (.ok { service := s, apiKeys := live, permissions })
            else done (.error ((Plan.Denial.lacks permission).failure s))

theorem plan_evaluate (now : Timestamp) (s : ServiceId) (permission : String) :
    (evaluate now s permission).plan = Plan.evaluate now s permission := by
  refine plan_andThen (plan_single .serviceActive s) fun active => ?_
  match active with
  | none => rfl
  | some false => rfl
  | some true =>
      refine plan_andThen (plan_map _ (plan_single .apiKeys s)) fun keys => ?_
      simp only
      split
      · rfl
      · refine plan_andThen (plan_map _ (plan_single .permissions s)) fun ps => ?_
        split <;> rfl

/-- A check, with what is told of it. -/
def authorize (now : Timestamp) (s : ServiceId) (permission : String) : Outline Plan.Authorized :=
  (evaluate now s permission).followedBy fun
    | .ok service => done (.ok service)
    | .error e =>
      if e.isConfiguration || e.isDenial then done (.error e)
      else note .loadFailure (done (.error (Plan.Denial.unverified.failure s)))

theorem plan_authorize (now : Timestamp) (s : ServiceId) (permission : String) :
    (authorize now s permission).plan = Plan.authorize now s permission := by
  unfold authorize Plan.authorize
  rw [plan_followedBy, plan_evaluate]
  congr 1
  funext outcome
  cases outcome with
  | ok service => rfl
  | error e =>
      simp only
      split <;> rfl

/-- Counts one more send, and refuses it past the limit. -/
def checkLimit (today : Date) (s : ServiceId) (limit : Int) : Outline Int :=
  (count (.incr (Counter.dailyKey today s)) done).andThen fun
    | none => done (.ok 0)
    | some sent =>
      if limit < sent then note .limitExceeded (done (.error (.limitExceeded s limit)))
      else done (.ok sent)

theorem plan_checkLimit (today : Date) (s : ServiceId) (limit : Int) :
    (checkLimit today s limit).plan = Plan.checkLimit today s limit := by
  refine plan_andThen rfl fun sent => ?_
  match sent with
  | none => rfl
  | some n =>
      simp only
      split <;> rfl

end Outline

/-- The outline of a call. -/
def Call.outline (p : Present) (joined : Bool) : Call → Outline Reply
  | apiKeys s => (Outline.apiKeys s).map .apiKeys
  | permissions s => (Outline.permissions s).map .permissions
  | isActive s => (Outline.single .serviceActive s).map .active
  | prime s => (Outline.prime joined s).map .known
  | authorize s permission => (Outline.authorize p.now s permission).map .authorized
  | incrementDaily s => .count (.incr (Counter.dailyKey p.today s)) fun n => .done (n.map .tally)
  | dailyCount s =>
    let key := Counter.dailyKey p.today s
    .count (.get key) fun found => .done ((found >>= Counter.readCount key).map .tally)
  | setDaily s value =>
    .count (.set (Counter.dailyKey p.today s) value) fun set => .done (set.map fun _ => .done)
  | checkLimit s limit => (Outline.checkLimit p.today s limit).map .admitted
  | readReplica s =>
    .ask replicaBind (.fact .serviceActive) s fun flag : Outcome (Option Bool) =>
      .done (flag.map .active)

/-- What a call does is what its outline describes. -/
theorem Call.plan_outline (p : Present) (joined : Bool) (call : Call) :
    (call.outline p joined).plan = call.plan p joined := by
  cases call with
  | apiKeys s => exact Outline.plan_map _ (Outline.plan_map _ (Outline.plan_single .apiKeys s))
  | permissions s =>
      exact Outline.plan_map _ (Outline.plan_map _ (Outline.plan_single .permissions s))
  | isActive s => exact Outline.plan_map _ (Outline.plan_single .serviceActive s)
  | prime s => exact Outline.plan_map _ (Outline.plan_prime joined s)
  | authorize s permission =>
      exact Outline.plan_map _ (Outline.plan_authorize p.now s permission)
  | checkLimit s limit => exact Outline.plan_map _ (Outline.plan_checkLimit p.today s limit)
  | incrementDaily s | dailyCount s | setDaily s value | readReplica s => rfl

end Tollgate.Guard
