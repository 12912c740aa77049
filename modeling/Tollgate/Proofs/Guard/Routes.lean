import Mathlib.Tactic.SplitIfs
import Tollgate.Guard.Call

/-!
The plans of all calls ask only the replica. Of themselves they never fail for want of a bind: they
pass on such a failure when a connection or the counter store answers with it.
-/

namespace Tollgate

/-- The outcome is that there is no bind of that name. -/
def Lacks {A : Type} (outcome : Outcome A) (name : String) : Prop :=
  outcome = .error (.unknownBind name)

/-- A value that is no count is not for want of a bind. -/
theorem Counter.not_lacks_readCount (key : String) (bytes : Option Bytes) (name : String) :
    ¬Lacks (Counter.readCount key bytes) name := by
  unfold Lacks Counter.readCount
  split
  · nofun
  · split <;> nofun

namespace Guard

variable {A D : Type}

/-- A plan that asks only the replica, and that fails for want of a bind only if this is known or it
is told so. -/
def Plan.ReadsReplica : Plan A → (known : String → Prop) → Prop
  | .done outcome, known => ∀ name, Lacks outcome name → known name
  | .note _ rest, known | .enter _ _ rest, known | .leave _ _ rest, known
  | .learn _ _ _ rest, known => rest.ReadsReplica known
  | .look _ _ next, known => ∀ fact, (next fact).ReadsReplica known
  | .ask bind _ _ next, known =>
    bind = replicaBind ∧
      ∀ outcome, (next outcome).ReadsReplica fun name => known name ∨ Lacks outcome name
  | .count _ next, known =>
    ∀ outcome, (next outcome).ReadsReplica fun name => known name ∨ Lacks outcome name

namespace Plan

variable {known more : String → Prop}

theorem ReadsReplica.mono {p : Plan A} (h : p.ReadsReplica known)
    (hMore : ∀ name, known name → more name) : p.ReadsReplica more := by
  induction p generalizing known more with
  | done outcome => exact fun name hLacks => hMore name (h name hLacks)
  | note n rest ih | enter c s rest ih | leave c s rest ih | learn c s fact rest ih =>
      exact ih h hMore
  | look c s next ih => exact fun fact => ih fact (h fact) hMore
  | ask bind q s next ih =>
      exact ⟨h.1, fun outcome => ih outcome (h.2 outcome) fun name => Or.imp_left (hMore name)⟩
  | count cmd next ih =>
      exact fun outcome => ih outcome (h outcome) fun name => Or.imp_left (hMore name)

/-- What follows a plan knows of the failure with which that plan ended. -/
theorem ReadsReplica.followedBy {p : Plan A} {f : Outcome A → Plan D} (hp : p.ReadsReplica known)
    (hf : ∀ outcome, (f outcome).ReadsReplica fun name => known name ∨ Lacks outcome name) :
    (p.followedBy f).ReadsReplica known := by
  induction p generalizing known with
  | done outcome =>
      refine (hf outcome).mono ?_
      rintro name (hKnown | hLacks)
      · exact hKnown
      · exact hp name hLacks
  | note n rest ih | enter c s rest ih | leave c s rest ih | learn c s fact rest ih =>
      exact ih hp hf
  | look c s next ih => exact fun fact => ih fact (hp fact) hf
  | ask bind q s next ih =>
      refine ⟨hp.1, fun outcome => ih outcome (hp.2 outcome) fun told => (hf told).mono ?_⟩
      exact fun name => Or.imp_left Or.inl
  | count cmd next ih =>
      refine fun outcome => ih outcome (hp outcome) fun told => (hf told).mono ?_
      exact fun name => Or.imp_left Or.inl

theorem ReadsReplica.andThen {p : Plan A} {f : A → Plan D} (hp : p.ReadsReplica known)
    (hf : ∀ a, (f a).ReadsReplica known) : (p.andThen f).ReadsReplica known := by
  refine hp.followedBy fun outcome => ?_
  cases outcome with
  | ok a => exact (hf a).mono fun name => Or.inl
  | error e =>
      rintro name hLacks
      cases hLacks
      exact Or.inr rfl

theorem ReadsReplica.map {p : Plan A} (hp : p.ReadsReplica known) (f : A → D) :
    (p.map f).ReadsReplica known := by
  refine hp.followedBy fun outcome name hLacks => ?_
  cases outcome with
  | ok a => cases hLacks
  | error e =>
      cases hLacks
      exact Or.inr rfl

/-- A failure of another kind is not for want of a bind. -/
theorem fail_readsReplica {e : Failure} (h : ∀ name, e ≠ .unknownBind name) :
    (fail e : Plan A).ReadsReplica known := by
  rintro name hLacks
  exact absurd (Except.error.inj hLacks) (h name)

theorem settle_readsReplica (c : Concern) (s : ServiceId) (outcome : Outcome c.Answer) :
    (settle c s outcome).ReadsReplica fun name => known name ∨ Lacks outcome name := by
  cases outcome with
  | error e =>
      rintro name hLacks
      cases hLacks
      exact Or.inr rfl
  | ok answer =>
      simp only [settle, ReadsReplica]
      cases c.fact? answer <;> exact nofun

theorem lookup_readsReplica (c : Concern) (s : ServiceId) :
    (lookup c s).ReadsReplica known := by
  intro fact
  cases fact with
  | some fact => exact nofun
  | none =>
      intro again
      cases again with
      | some fact => exact nofun
      | none => exact ⟨rfl, settle_readsReplica c s⟩

/-- A step of fetching ends with the failure of its question. -/
theorem fetch_answer_readsReplica {q : Question} {s : ServiceId} {next : q.Answer → Fetch A}
    (h : ∀ a known, (fetch s (next a)).ReadsReplica known) :
    (fetch s (Fetch.answer q next)).ReadsReplica known := by
  refine ⟨rfl, fun outcome => ?_⟩
  cases outcome with
  | ok a => exact h a _
  | error e =>
      rintro name hLacks
      cases hLacks
      exact Or.inr rfl

theorem fetch_snapshot_readsReplica (joined : Bool) (s : ServiceId) :
    (fetch s (Fetch.snapshot joined)).ReadsReplica known := by
  cases joined with
  | true => exact ⟨rfl, fun outcome name hLacks => Or.inr hLacks⟩
  | false =>
      refine fetch_answer_readsReplica fun active known => ?_
      cases active with
      | none => exact nofun
      | some active =>
          refine fetch_answer_readsReplica fun apiKeys known => ?_
          exact fetch_answer_readsReplica fun permissions known => nofun

theorem prime_readsReplica (joined : Bool) (s : ServiceId) :
    (prime joined s).ReadsReplica known := by
  refine (fetch_snapshot_readsReplica joined s).andThen fun snapshot => ?_
  cases snapshot <;> exact nofun

theorem evaluate_readsReplica (now : Timestamp) (s : ServiceId) (permission : String) :
    (evaluate now s permission).ReadsReplica known := by
  refine (lookup_readsReplica .serviceActive s).andThen fun active => ?_
  match active with
  | none | some false => exact fail_readsReplica nofun
  | some true =>
      refine ((lookup_readsReplica .apiKeys s).map _).andThen fun keys => ?_
      simp only
      split_ifs
      · exact fail_readsReplica nofun
      · refine ((lookup_readsReplica .permissions s).map _).andThen fun permissions => ?_
        split_ifs
        · exact nofun
        · exact fail_readsReplica nofun

theorem authorize_readsReplica (now : Timestamp) (s : ServiceId) (permission : String) :
    (authorize now s permission).ReadsReplica known := by
  refine (evaluate_readsReplica now s permission).followedBy fun outcome => ?_
  cases outcome with
  | ok service => exact nofun
  | error e =>
      simp only
      split_ifs
      · rintro name hLacks
        cases hLacks
        exact Or.inr rfl
      · exact fail_readsReplica nofun

theorem incrementDaily_readsReplica (today : Date) (s : ServiceId) :
    (incrementDaily today s).ReadsReplica known :=
  fun _ _ hLacks => Or.inr hLacks

theorem checkLimit_readsReplica (today : Date) (s : ServiceId) (limit : Int) :
    (checkLimit today s limit).ReadsReplica known := by
  refine (incrementDaily_readsReplica today s).andThen fun sent => ?_
  match sent with
  | none => exact nofun
  | some n =>
      simp only
      split_ifs
      · exact fail_readsReplica nofun
      · exact nofun

theorem dailyCount_readsReplica (today : Date) (s : ServiceId) :
    (dailyCount today s).ReadsReplica known := by
  intro found name hLacks
  cases found with
  | ok bytes => exact absurd hLacks (Counter.not_lacks_readCount _ bytes name)
  | error e =>
      cases hLacks
      exact Or.inr rfl

end Plan

/-- Every call asks only the replica. -/
theorem Call.plan_readsReplica (present : Present) (joined : Bool) (call : Call)
    (known : String → Prop) : (call.plan present joined).ReadsReplica known := by
  cases call with
  | apiKeys s => exact ((Plan.lookup_readsReplica .apiKeys s).map _).map _
  | permissions s => exact ((Plan.lookup_readsReplica .permissions s).map _).map _
  | isActive s => exact (Plan.lookup_readsReplica .serviceActive s).map _
  | prime s => exact (Plan.prime_readsReplica joined s).map _
  | authorize s permission => exact (Plan.authorize_readsReplica present.now s permission).map _
  | incrementDaily s => exact (Plan.incrementDaily_readsReplica present.today s).map _
  | dailyCount s => exact (Plan.dailyCount_readsReplica present.today s).map _
  | setDaily s value =>
      have hSet : (Plan.setDaily present.today s value).ReadsReplica known :=
        fun _ _ hLacks => Or.inr hLacks
      exact hSet.map _
  | checkLimit s limit => exact (Plan.checkLimit_readsReplica present.today s limit).map _
  | readReplica s =>
      have hRead : (Plan.readReplica s).ReadsReplica known := ⟨rfl, fun _ _ hLacks => Or.inr hLacks⟩
      exact hRead.map _

end Guard

end Tollgate
