import Tollgate.Guard.Machine
import Tollgate.Proofs.Guard.Parts

/-!
The order in which calls take gates. A lookup asks the replica only behind the gate of its concern
and service, and only after it has looked there again; it lets go of the gate before anything else
happens. Every call keeps to this order.
-/

namespace Tollgate.Guard

variable {A D : Type}

/-- Where a plan stands towards the gates: at none; behind one, before its second look; behind one
where nothing was found; or behind one with nothing left to ask. -/
inductive Stance
  | free
  | entered (key : GateKey)
  | missed (key : GateKey)
  | loaded (key : GateKey)

/-- A plan that takes one gate at a time, for a lookup, looks behind it before anything else, asks
there only if it has found nothing, and lets go of the gate before it ends. -/
def Plan.Orderly : Plan A → Stance → Prop
  | .done _, stance => stance = .free
  | .note _ rest, stance | .learn _ _ _ rest, stance =>
    match stance with
    | .free | .loaded _ => rest.Orderly stance
    | .entered _ | .missed _ => False
  | .look c s next, stance =>
    match stance with
    | .free => ∀ fact, (next fact).Orderly .free
    | .entered key =>
      key = (c, s) ∧ (next none).Orderly (.missed key) ∧
        ∀ fact, (next (some fact)).Orderly (.loaded key)
    | .missed _ | .loaded _ => False
  | .enter c s rest, stance =>
    stance = .free ∧ (∃ k, rest = (Plan.behindGate c s).followedBy k) ∧
      rest.Orderly (.entered (c, s))
  | .leave c s rest, stance => stance = .loaded (c, s) ∧ rest.Orderly .free
  | .ask _ _ _ next, stance =>
    match stance with
    | .free => ∀ outcome, (next outcome).Orderly .free
    | .missed key => ∀ outcome, (next outcome).Orderly (.loaded key)
    | .entered _ | .loaded _ => False
  | .count _ next, stance => stance = .free ∧ ∀ outcome, (next outcome).Orderly .free

theorem Plan.followedBy_done (p : Plan A) : p.followedBy .done = p := by
  induction p with
  | done outcome => rfl
  | note n rest ih => exact congrArg (Plan.note n) ih
  | look c s next ih => exact congrArg (Plan.look c s) (funext ih)
  | enter c s rest ih => exact congrArg (Plan.enter c s) ih
  | leave c s rest ih => exact congrArg (Plan.leave c s) ih
  | ask bind q s next ih => exact congrArg (Plan.ask bind q s) (funext ih)
  | learn c s fact rest ih => exact congrArg (Plan.learn c s fact) ih
  | count cmd next ih => exact congrArg (Plan.count cmd) (funext ih)

theorem Plan.followedBy_assoc {E : Type} (p : Plan A) (f : Outcome A → Plan D)
    (h : Outcome D → Plan E) :
    (p.followedBy f).followedBy h = p.followedBy fun outcome => (f outcome).followedBy h := by
  induction p with
  | done outcome => rfl
  | note n rest ih => exact congrArg (Plan.note n) ih
  | look c s next ih => exact congrArg (Plan.look c s) (funext ih)
  | enter c s rest ih => exact congrArg (Plan.enter c s) ih
  | leave c s rest ih => exact congrArg (Plan.leave c s) ih
  | ask bind q s next ih => exact congrArg (Plan.ask bind q s) (funext ih)
  | learn c s fact rest ih => exact congrArg (Plan.learn c s fact) ih
  | count cmd next ih => exact congrArg (Plan.count cmd) (funext ih)

/-- What follows an orderly plan begins at no gate. -/
theorem Plan.Orderly.followedBy {p : Plan A} {f : Outcome A → Plan D} {stance : Stance}
    (h : p.Orderly stance) (hf : ∀ outcome, (f outcome).Orderly .free) :
    (p.followedBy f).Orderly stance := by
  induction p generalizing stance with
  | done outcome =>
      cases h
      exact hf outcome
  | note n rest ih | learn c s fact rest ih =>
      cases stance with
      | free | loaded key => exact ih h
      | entered key | missed key => exact h
  | look c s next ih =>
      cases stance with
      | free => exact fun fact => ih fact (h fact)
      | entered key =>
          exact ⟨h.1, ih none h.2.1, fun fact => ih (some fact) (h.2.2 fact)⟩
      | missed key | loaded key => exact h
  | enter c s rest ih =>
      obtain ⟨hFree, ⟨k, hLookup⟩, hRest⟩ := h
      refine ⟨hFree, ⟨fun outcome => (k outcome).followedBy f, ?_⟩, ih hRest⟩
      rw [hLookup, Plan.followedBy_assoc]
  | leave c s rest ih => exact ⟨h.1, ih h.2⟩
  | ask bind q s next ih =>
      cases stance with
      | free | missed key => exact fun outcome => ih outcome (h outcome)
      | entered key | loaded key => exact h
  | count cmd next ih => exact ⟨h.1, fun outcome => ih outcome (h.2 outcome)⟩

theorem Plan.settle_orderly (c : Concern) (s : ServiceId) (outcome : Outcome c.Answer) :
    (Plan.settle c s outcome).Orderly (.loaded (c, s)) := by
  cases outcome with
  | error e => exact ⟨rfl, rfl⟩
  | ok answer =>
      simp only [Plan.settle, Plan.Orderly]
      cases c.fact? answer with
      | none => exact ⟨rfl, rfl⟩
      | some fact => exact ⟨rfl, rfl⟩

theorem Plan.behindGate_orderly (c : Concern) (s : ServiceId) :
    (Plan.behindGate c s).Orderly (.entered (c, s)) :=
  ⟨rfl, Plan.settle_orderly c s, fun _ => ⟨rfl, rfl⟩⟩

theorem Plan.lookup_orderly (c : Concern) (s : ServiceId) : (Plan.lookup c s).Orderly .free := by
  intro fact
  cases fact with
  | some fact => exact rfl
  | none =>
      exact ⟨rfl, ⟨.done, (Plan.followedBy_done _).symm⟩, Plan.behindGate_orderly c s⟩

theorem Plan.fetch_orderly (s : ServiceId) (fetch : Fetch A) :
    (Plan.fetch s fetch).Orderly .free := by
  induction fetch with
  | done outcome => rfl
  | ask q next ih => exact ih

theorem Plan.prime_orderly (joined : Bool) (s : ServiceId) :
    (Plan.prime joined s).Orderly .free := by
  refine (Plan.fetch_orderly s _).followedBy fun outcome => ?_
  match outcome with
  | .error e => rfl
  | .ok none => rfl
  | .ok (some snapshot) => rfl

/-- No call keeps a gate, and none asks for a fact behind a gate before it has looked there. -/
theorem Call.plan_orderly (present : Present) (joined : Bool) (call : Call) :
    (call.plan present joined).Orderly .free :=
  Call.plan_of_parts (P := fun p => p.Orderly .free) (fun _ => rfl) (fun _ _ _ h => h)
    (fun _ _ h => ⟨rfl, h⟩) (fun _ _ h hf => h.followedBy hf) Plan.lookup_orderly (fun _ _ => rfl)
    present call fun s _ => Plan.prime_orderly joined s

/-- What is left of a lookup after the outcome of its load stands behind the gate of that lookup. -/
theorem Plan.Orderly.stance_of_settle {c : Concern} {s : ServiceId} {outcome : Outcome c.Answer}
    {k : Outcome (Option c.Fact) → Plan A} {stance : Stance}
    (h : ((Plan.settle c s outcome).followedBy k).Orderly stance) : stance = .loaded (c, s) := by
  cases outcome with
  | error e => exact h.1
  | ok answer =>
      simp only [Plan.settle, Plan.followedBy, Plan.Orderly] at h
      cases stance with
      | entered key | missed key => exact h.elim
      | free | loaded key =>
          cases hFact : c.fact? answer with
          | none =>
              rw [hFact] at h
              exact h.1
          | some fact =>
              rw [hFact] at h
              exact h.1

end Tollgate.Guard
