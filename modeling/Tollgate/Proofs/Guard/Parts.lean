import Mathlib.Tactic.SplitIfs
import Tollgate.Guard.Call

/-!
What calls are made of. A property of plans that their parts have, and that is kept by doing one
after another, is a property of every call.
-/

namespace Tollgate.Guard

/-- The concern that a report is about, if it is about one. -/
def Note.concern? : Note → Option Concern
  | hit c | miss c | load c | size c _ => some c
  | loadFailure | limitExceeded => none

variable {P : {A : Type} → Plan A → Prop}

theorem Plan.andThen_of_parts {A D : Type}
    (hDone : ∀ {A : Type} (outcome : Outcome A), P (.done outcome))
    (hFollowedBy : ∀ {A D : Type} (p : Plan A) (f : Outcome A → Plan D), P p →
      (∀ outcome, P (f outcome)) → P (p.followedBy f))
    {p : Plan A} {f : A → Plan D} (hFirst : P p) (hSecond : ∀ a, P (f a)) : P (p.andThen f) := by
  refine hFollowedBy p _ hFirst fun outcome => ?_
  cases outcome with
  | ok a => exact hSecond a
  | error e => exact hDone _

/-- A check is made of lookups. -/
theorem Plan.evaluate_of_parts
    (hDone : ∀ {A : Type} (outcome : Outcome A), P (.done outcome))
    (hFollowedBy : ∀ {A D : Type} (p : Plan A) (f : Outcome A → Plan D), P p →
      (∀ outcome, P (f outcome)) → P (p.followedBy f))
    (hLookup : ∀ c s, P (Plan.lookup c s)) (now : Timestamp) (s : ServiceId)
    (permission : String) : P (Plan.evaluate now s permission) := by
  have hAndThen {A D : Type} {p : Plan A} {f : A → Plan D} :=
    Plan.andThen_of_parts (P := P) (p := p) (f := f) hDone hFollowedBy
  have hMap {A D : Type} (p : Plan A) (f : A → D) (h : P p) : P (p.map f) :=
    hFollowedBy p _ h fun _ => hDone _
  refine hAndThen (hLookup .serviceActive s) fun active => ?_
  match active with
  | none => exact hDone _
  | some false => exact hDone _
  | some true =>
      refine hAndThen (hMap _ _ (hLookup .apiKeys s)) fun keys => ?_
      simp only
      split_ifs
      · exact hDone _
      · refine hAndThen (hMap _ _ (hLookup .permissions s)) fun ps => ?_
        split_ifs <;> exact hDone _

/-- Every call is made of lookups, of the fetch of a snapshot, of questions that pass the caches by,
and of commands to the counter store. Outside its lookups it reports on no concern. -/
theorem Call.plan_of_parts {joined : Bool}
    (hDone : ∀ {A : Type} (outcome : Outcome A), P (.done outcome))
    (hNote : ∀ {A : Type} (n : Note) (rest : Plan A), n.concern? = none → P rest →
      P (.note n rest))
    (hCount : ∀ {A : Type} (cmd : Counter.Command) (next : Outcome cmd.Told → Plan A),
      (∀ outcome, P (next outcome)) → P (.count cmd next))
    (hFollowedBy : ∀ {A D : Type} (p : Plan A) (f : Outcome A → Plan D), P p →
      (∀ outcome, P (f outcome)) → P (p.followedBy f))
    (hLookup : ∀ c s, P (Plan.lookup c s)) (hReplica : ∀ s, P (Plan.readReplica s))
    (present : Present) (call : Call) (hPrime : ∀ s, call = .prime s → P (Plan.prime joined s)) :
    P (call.plan present joined) := by
  have hMap {A D : Type} (p : Plan A) (f : A → D) (h : P p) : P (p.map f) :=
    hFollowedBy p _ h fun _ => hDone _
  cases call with
  | apiKeys s => exact hMap _ _ (hMap _ _ (hLookup .apiKeys s))
  | permissions s => exact hMap _ _ (hMap _ _ (hLookup .permissions s))
  | isActive s => exact hMap _ _ (hLookup .serviceActive s)
  | prime s => exact hMap _ _ (hPrime s rfl)
  | authorize s permission =>
      refine hMap _ _ (hFollowedBy _ _
        (Plan.evaluate_of_parts hDone hFollowedBy hLookup present.now s permission)
        fun outcome => ?_)
      cases outcome with
      | ok service => exact hDone _
      | error e =>
          simp only
          split_ifs
          · exact hDone _
          · exact hNote _ _ rfl (hDone _)
  | incrementDaily s => exact hMap _ _ (hCount _ _ fun _ => hDone _)
  | dailyCount s => exact hMap _ _ (hCount _ _ fun _ => hDone _)
  | setDaily s value => exact hMap _ _ (hCount _ _ fun _ => hDone _)
  | checkLimit s limit =>
      refine hMap _ _ (Plan.andThen_of_parts hDone hFollowedBy (hCount _ _ fun _ => hDone _)
        fun sent => ?_)
      match sent with
      | none => exact hDone _
      | some n =>
          simp only
          split_ifs
          · exact hNote _ _ rfl (hDone _)
          · exact hDone _
  | readReplica s => exact hMap _ _ (hReplica s)

end Tollgate.Guard
