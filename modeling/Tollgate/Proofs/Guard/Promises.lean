import Mathlib.Tactic.SplitIfs
import Tollgate.Guard.Call

/-!
What calls come to over facts that stand still. If every cache holds nothing but these facts, and
the replica answers with them, then a call has no choice: whichever of its looks find something and
whichever do not, it ends with what the facts alone say.
-/

namespace Tollgate.Guard

variable {A D : Type}

/-- What is answered about every service, concern by concern. -/
abbrev Facts := (c : Concern) → ServiceId → c.Answer

namespace Facts

variable (facts : Facts)

/-- All facts about a service, if it is known. -/
def snapshot (s : ServiceId) : Option Snapshot :=
  Option.map (fun active => {
    apiKeys := facts .apiKeys s
    permissions := facts .permissions s
    active }) (facts .serviceActive s)

theorem snapshot_of_unknown {s : ServiceId} (h : facts .serviceActive s = (none : Option Bool)) :
    facts.snapshot s = none := by
  rw [snapshot, h]
  rfl

theorem snapshot_of_known {s : ServiceId} {active : Bool}
    (h : facts .serviceActive s = some active) :
    facts.snapshot s = some {
      apiKeys := facts .apiKeys s
      permissions := facts .permissions s
      active } := by
  rw [snapshot, h]
  rfl

/-- A snapshot says of each concern what is answered there. -/
theorem fact?_of_snapshot {s : ServiceId} {snapshot : Snapshot}
    (h : facts.snapshot s = some snapshot) (c : Concern) :
    c.fact? (facts c s) = some (c.factOf snapshot) := by
  cases hActive : facts .serviceActive s with
  | none =>
      rw [facts.snapshot_of_unknown hActive] at h
      cases h
  | some active =>
      rw [facts.snapshot_of_known hActive] at h
      cases h
      cases c with
      | apiKeys | permissions => rfl
      | serviceActive => exact hActive

/-- The answer to any question about a service. -/
def answer : (q : Question) → ServiceId → q.Answer
  | .fact c, s => facts c s
  | .snapshot, s => facts.snapshot s

/-- The decision on a service as of an instant, from its snapshot. -/
def decision (now : Timestamp) (s : ServiceId) (permission : String) : Outcome Plan.Authorized :=
  match facts.snapshot s with
  | none => .error (Plan.Denial.unknown.failure s)
  | some snapshot =>
    if !snapshot.active then .error (Plan.Denial.inactive.failure s)
    else if (snapshot.liveKeysAt now).isEmpty then .error (Plan.Denial.noLiveKeys.failure s)
    else if snapshot.hasPermission permission then
      .ok {
        service := s
        apiKeys := snapshot.liveKeysAt now
        permissions := snapshot.permissions }
    else .error ((Plan.Denial.lacks permission).failure s)

theorem decision_of_unknown {s : ServiceId} (h : facts .serviceActive s = (none : Option Bool))
    (now : Timestamp) (permission : String) :
    facts.decision now s permission = .error (Plan.Denial.unknown.failure s) := by
  rw [decision, facts.snapshot_of_unknown h]

theorem decision_of_inactive {s : ServiceId} (h : facts .serviceActive s = some false)
    (now : Timestamp) (permission : String) :
    facts.decision now s permission = .error (Plan.Denial.inactive.failure s) := by
  rw [decision, facts.snapshot_of_known h]
  rfl

/-- The decision on an active service goes by its keys, and then by its permissions. -/
theorem decision_of_active {s : ServiceId} (h : facts .serviceActive s = some true)
    (now : Timestamp) (permission : String) :
    facts.decision now s permission =
      if (List.filter (·.isLiveAt now) (facts .apiKeys s)).isEmpty then
        .error (Plan.Denial.noLiveKeys.failure s)
      else if List.any (facts .permissions s) (·.grants permission) then
        .ok {
          service := s
          apiKeys := List.filter (·.isLiveAt now) (facts .apiKeys s)
          permissions := facts .permissions s }
      else .error ((Plan.Denial.lacks permission).failure s) := by
  rw [decision, facts.snapshot_of_known h]
  rfl

/-- A decision against a service is told as it is. -/
theorem isDenial_of_decision {now : Timestamp} {s : ServiceId} {permission : String}
    {e : Failure} (h : facts.decision now s permission = .error e) : e.isDenial := by
  unfold decision at h
  cases hSnapshot : facts.snapshot s with
  | none =>
      rw [hSnapshot] at h
      cases h
      rfl
  | some snapshot =>
      rw [hSnapshot] at h
      simp only at h
      split_ifs at h <;> cases h <;> rfl

/-- What a call has to come to: the facts that it asks for, whether the service is known, or the
decision. A call that gives a command to the counter store depends on more than facts. -/
def reply? (present : Present) : Call → Option (Outcome Reply)
  | .apiKeys s => some (.ok (.apiKeys (facts .apiKeys s)))
  | .permissions s => some (.ok (.permissions (facts .permissions s)))
  | .isActive s | .readReplica s => some (.ok (.active (facts .serviceActive s)))
  | .prime s => some (.ok (.known (facts.snapshot s).isSome))
  | .authorize s permission => some ((facts.decision present.now s permission).map .authorized)
  | .incrementDaily _ | .dailyCount _ | .setDaily _ _ | .checkLimit _ _ => none

/-- The outcome is what the call has to come to, if that is said. -/
def Allows (present : Present) (call : Call) (outcome : Outcome Reply) : Prop :=
  ∀ reply, facts.reply? present call = some reply → outcome = reply

end Facts

/-- A way to say what plans come to: `Q P p` says that the plan `p` comes to an outcome with `P`. It
can be said of an end by its outcome, and of one plan after another by what both come to. -/
structure Plan.Outlook (Q : {A : Type} → (Outcome A → Prop) → Plan A → Prop) : Prop where
  done : ∀ {A : Type} {P : Outcome A → Prop} {outcome : Outcome A}, P outcome → Q P (.done outcome)
  followedBy : ∀ {A D : Type} {P : Outcome A → Prop} {R : Outcome D → Prop} {p : Plan A}
    {f : Outcome A → Plan D}, Q P p → (∀ outcome, P outcome → Q R (f outcome)) →
    Q R (p.followedBy f)

namespace Plan.Outlook

variable {Q : {A : Type} → (Outcome A → Prop) → Plan A → Prop}

/-- A plan that comes to one outcome can be followed by what deals with that outcome. -/
theorem andThen (h : Outlook Q) {R : Outcome D → Prop} {p : Plan A} {f : A → Plan D} {a : A}
    (hp : Q (· = .ok a) p) (hf : Q R (f a)) : Q R (p.andThen f) := by
  refine h.followedBy hp fun outcome hOutcome => ?_
  subst hOutcome
  exact hf

theorem map (h : Outlook Q) {p : Plan A} {outcome : Outcome A} (hp : Q (· = outcome) p)
    (f : A → D) : Q (· = outcome.map f) (p.map f) := by
  refine h.followedBy hp fun told hTold => ?_
  subst hTold
  exact h.done rfl

variable {facts : Facts} {s : ServiceId}

theorem isActive (hLookup : ∀ c, Q (· = .ok (c.fact? (facts c s))) (Plan.lookup c s)) :
    Q (A := Option Bool) (· = .ok (facts .serviceActive s)) (Plan.isActive s) :=
  hLookup .serviceActive

theorem apiKeys (h : Outlook Q)
    (hLookup : ∀ c, Q (· = .ok (c.fact? (facts c s))) (Plan.lookup c s)) :
    Q (A := List ApiKey) (· = .ok (facts .apiKeys s)) (Plan.apiKeys s) :=
  h.map (hLookup .apiKeys) fun ks : Option (List ApiKey) => ks.getD []

theorem permissions (h : Outlook Q)
    (hLookup : ∀ c, Q (· = .ok (c.fact? (facts c s))) (Plan.lookup c s)) :
    Q (A := List Permission) (· = .ok (facts .permissions s)) (Plan.permissions s) :=
  h.map (hLookup .permissions) fun ps : Option (List Permission) => ps.getD []

/-- A check comes to the decision if lookups come to the facts. What it does not look up does not
matter to that. -/
theorem evaluate (h : Outlook Q)
    (hLookup : ∀ c, Q (· = .ok (c.fact? (facts c s))) (Plan.lookup c s)) (now : Timestamp)
    (permission : String) :
    Q (· = facts.decision now s permission) (Plan.evaluate now s permission) := by
  refine h.andThen (isActive hLookup) ?_
  cases hFlag : facts .serviceActive s with
  | none =>
      rw [facts.decision_of_unknown hFlag]
      exact h.done rfl
  | some active =>
      cases active with
      | false =>
          rw [facts.decision_of_inactive hFlag]
          exact h.done rfl
      | true =>
          rw [facts.decision_of_active hFlag]
          refine h.andThen (h.apiKeys hLookup) ?_
          by_cases hLive : (List.filter (·.isLiveAt now) (facts .apiKeys s)).isEmpty
          · simp only [if_pos hLive]
            exact h.done rfl
          · simp only [if_neg hLive]
            refine h.andThen (h.permissions hLookup) ?_
            by_cases hGranted : List.any (facts .permissions s) (·.grants permission)
            · simp only [if_pos hGranted]
              exact h.done rfl
            · simp only [if_neg hGranted]
              exact h.done rfl

theorem authorize (h : Outlook Q)
    (hLookup : ∀ c, Q (· = .ok (c.fact? (facts c s))) (Plan.lookup c s)) (now : Timestamp)
    (permission : String) :
    Q (· = facts.decision now s permission) (Plan.authorize now s permission) := by
  refine h.followedBy (h.evaluate hLookup now permission) fun outcome hOutcome => ?_
  cases outcome with
  | ok service => exact h.done hOutcome
  | error e =>
      have hDenial := facts.isDenial_of_decision hOutcome.symm
      simp only [hDenial, Bool.or_true, if_true]
      exact h.done hOutcome

end Plan.Outlook

/-- A plan that ends as it should when it finds and is told nothing but these facts. It asks only
the replica, and it remembers only these facts. -/
def Plan.Promises (facts : Facts) (P : Outcome A → Prop) : Plan A → Prop
  | .done outcome => P outcome
  | .note _ rest | .enter _ _ rest | .leave _ _ rest => rest.Promises facts P
  | .look c s next =>
    (next none).Promises facts P ∧
      ∀ fact, c.fact? (facts c s) = some fact → (next (some fact)).Promises facts P
  | .ask bind q s next => bind = replicaBind ∧ (next (.ok (facts.answer q s))).Promises facts P
  | .learn c s fact rest => c.fact? (facts c s) = some fact ∧ rest.Promises facts P
  | .count _ next => ∀ outcome, (next outcome).Promises facts P

namespace Plan

variable {facts : Facts} {P : Outcome A → Prop} {Q : Outcome D → Prop}

theorem Promises.followedBy {p : Plan A} {f : Outcome A → Plan D} (hp : p.Promises facts P)
    (hf : ∀ outcome, P outcome → (f outcome).Promises facts Q) :
    (p.followedBy f).Promises facts Q := by
  induction p with
  | done outcome => exact hf outcome hp
  | note n rest ih | enter c s rest ih | leave c s rest ih => exact ih hp
  | look c s next ih => exact ⟨ih none hp.1, fun fact h => ih (some fact) (hp.2 fact h)⟩
  | ask bind q s next ih => exact ⟨hp.1, ih _ hp.2⟩
  | learn c s fact rest ih => exact ⟨hp.1, ih hp.2⟩
  | count cmd next ih => exact fun outcome => ih outcome (hp outcome)

theorem Promises.mono {p : Plan A} {P' : Outcome A → Prop} (hp : p.Promises facts P)
    (hMore : ∀ outcome, P outcome → P' outcome) : p.Promises facts P' := by
  induction p with
  | done outcome => exact hMore outcome hp
  | note n rest ih | enter c s rest ih | leave c s rest ih => exact ih hp
  | look c s next ih => exact ⟨ih none hp.1, fun fact h => ih (some fact) (hp.2 fact h)⟩
  | ask bind q s next ih => exact ⟨hp.1, ih _ hp.2⟩
  | learn c s fact rest ih => exact ⟨hp.1, ih hp.2⟩
  | count cmd next ih => exact fun outcome => ih outcome (hp outcome)

theorem promises_outlook (facts : Facts) : Outlook fun P p => p.Promises facts P where
  done h := h
  followedBy := Promises.followedBy

theorem Promises.andThen {p : Plan A} {f : A → Plan D} {a : A}
    (hp : p.Promises facts (· = .ok a)) (hf : (f a).Promises facts Q) :
    (p.andThen f).Promises facts Q :=
  (promises_outlook facts).andThen hp hf

theorem Promises.map {p : Plan A} {outcome : Outcome A} (hp : p.Promises facts (· = outcome))
    (f : A → D) : (p.map f).Promises facts (· = outcome.map f) :=
  (promises_outlook facts).map hp f

theorem settle_promises (c : Concern) (s : ServiceId) :
    (settle c s (.ok (facts c s))).Promises facts (· = .ok (c.fact? (facts c s))) := by
  simp only [settle, Promises]
  cases hFact : c.fact? (facts c s) with
  | none => rfl
  | some fact => exact ⟨hFact, rfl⟩

/-- A lookup comes to the fact, wherever it finds it. -/
theorem lookup_promises (c : Concern) (s : ServiceId) :
    (lookup c s).Promises facts (· = .ok (c.fact? (facts c s))) := by
  have hFound : ∀ fact, c.fact? (facts c s) = some fact →
      (.ok (some fact) : Outcome (Option c.Fact)) = .ok (c.fact? (facts c s)) :=
    fun fact h => congrArg Except.ok h.symm
  exact ⟨⟨⟨rfl, settle_promises c s⟩, hFound⟩, hFound⟩

/-- Both ways of fetching a snapshot come to the same. -/
theorem fetch_snapshot_promises (joined : Bool) (s : ServiceId) :
    (fetch s (Fetch.snapshot joined)).Promises facts (· = .ok (facts.snapshot s)) := by
  cases joined with
  | true => exact ⟨rfl, rfl⟩
  | false =>
      refine ⟨rfl, ?_⟩
      cases hActive : facts .serviceActive s with
      | none =>
          rw [facts.snapshot_of_unknown hActive]
          simp only [Facts.answer, hActive]
          exact rfl
      | some active =>
          rw [facts.snapshot_of_known hActive]
          simp only [Facts.answer, hActive]
          exact ⟨rfl, rfl, rfl⟩

theorem prime_promises (joined : Bool) (s : ServiceId) :
    (prime joined s).Promises facts (· = .ok (facts.snapshot s).isSome) := by
  refine (fetch_snapshot_promises joined s).andThen ?_
  cases hSnapshot : facts.snapshot s with
  | none => exact rfl
  | some snapshot =>
      have hFact := facts.fact?_of_snapshot hSnapshot
      exact ⟨hFact .apiKeys, hFact .permissions, hFact .serviceActive, rfl⟩

theorem apiKeys_promises (s : ServiceId) :
    (apiKeys s).Promises facts (· = .ok (facts .apiKeys s)) :=
  (promises_outlook facts).apiKeys (lookup_promises · s)

theorem permissions_promises (s : ServiceId) :
    (permissions s).Promises facts (· = .ok (facts .permissions s)) :=
  (promises_outlook facts).permissions (lookup_promises · s)

theorem isActive_promises (s : ServiceId) :
    (isActive s).Promises facts (· = .ok (facts .serviceActive s)) :=
  lookup_promises .serviceActive s

theorem authorize_promises (now : Timestamp) (s : ServiceId) (permission : String) :
    (authorize now s permission).Promises facts (· = facts.decision now s permission) :=
  (promises_outlook facts).authorize (lookup_promises · s) now permission

end Plan

/-- Every call comes to what the facts say. -/
theorem Call.plan_promises (facts : Facts) (present : Present) (joined : Bool) (call : Call) :
    (call.plan present joined).Promises facts (facts.Allows present call) := by
  have hSaid {p : Plan Reply} {reply : Outcome Reply} (hp : p.Promises facts (· = reply))
      (h : facts.reply? present call = some reply) :
      p.Promises facts (facts.Allows present call) := by
    refine hp.mono ?_
    rintro outcome rfl reply hReply
    exact Option.some.inj (h.symm.trans hReply)
  cases call with
  | apiKeys s => exact hSaid ((Plan.apiKeys_promises s).map _) rfl
  | permissions s => exact hSaid ((Plan.permissions_promises s).map _) rfl
  | isActive s => exact hSaid ((Plan.isActive_promises s).map _) rfl
  | prime s => exact hSaid ((Plan.prime_promises joined s).map _) rfl
  | authorize s permission =>
      exact hSaid ((Plan.authorize_promises present.now s permission).map _) rfl
  | readReplica s => exact hSaid (p := (Plan.readReplica s).map .active) ⟨rfl, rfl⟩ rfl
  | incrementDaily s | dailyCount s | setDaily s value => exact fun outcome => nofun
  | checkLimit s limit =>
      have hCounted : (Plan.incrementDaily present.today s).Promises facts fun _ => True :=
        fun _ => trivial
      have hChecked : (Plan.checkLimit present.today s limit).Promises facts fun _ => True := by
        refine hCounted.followedBy fun counted _ => ?_
        match counted with
        | .error e => trivial
        | .ok none => trivial
        | .ok (some n) =>
            simp only
            split_ifs <;> trivial
      exact hChecked.followedBy fun outcome _ => nofun

end Tollgate.Guard
