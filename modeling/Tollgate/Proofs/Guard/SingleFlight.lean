import Tollgate.Proofs.Cache.Gates
import Tollgate.Proofs.Guard.Orderly
import Tollgate.Proofs.Guard.Scene

/-!
Why calls under way at once load each fact only once. Every call keeps to the order of gates,
wherever it waits and whenever it is dropped, and the gates keep those who are at them apart. So
whoever loads a fact has the one lock of that fact, and has found nothing in the cache behind it.
-/

namespace Tollgate.Guard

variable {C S B A : Type}

/-- The stance of a call that can go on: a gate that it holds is one where it has nothing left to
ask. -/
def Stance.after : Option (Pass GateKey) → Stance
  | none => .free
  | some pass => .loaded pass.key

/-- A call under way that keeps to the order of gates. -/
def Task.Orderly (t : Task C A) : Prop :=
  match t.phase with
  | .ready plan => plan.Orderly (.after t.holds)
  | .queued pass rest =>
    t.holds = none ∧ (∃ k, rest = (Plan.behindGate pass.key.1 pass.key.2).followedBy k) ∧
      rest.Orderly (.entered pass.key)
  | .asking _ _ _ next => ∀ outcome, (next outcome).Orderly (.after t.holds)
  | .finished _ | .dropped => t.holds = none

/-- The place of a call at a gate, in its queue or behind it. -/
def Task.pass? (t : Task C A) : Option (Pass GateKey) :=
  match t.phase with
  | .queued pass _ => some pass
  | _ => t.holds

/-- What the turn of one call keeps: its own order and place, and the gates of all others. -/
structure Kept (places : TaskId → Option (Pass GateKey)) (id : TaskId)
    (before : Gates GateKey TaskId) (t : Task C A) (after : Gates GateKey TaskId) : Prop where
  orderly : t.Orderly
  serves : after.Serves (Function.update places id t.pass?)
  holding : ∀ pass, t.holds = some pass → after.holder? pass.lock = some id
  others : ∀ l j, j ≠ id → before.holder? l = some j → after.holder? l = some j

theorem Kept.of_others {places : TaskId → Option (Pass GateKey)} {id : TaskId}
    {before middle after : Gates GateKey TaskId} {t : Task C A}
    (h : Kept places id middle t after)
    (hOthers : ∀ l j, j ≠ id → before.holder? l = some j → middle.holder? l = some j) :
    Kept places id before t after :=
  { h with others := fun l j hj hHolder => h.others l j hj (hOthers l j hj hHolder) }

/-- Whoever asks behind a gate has found nothing there. -/
def FoundNothing (t : Task C A) (x : Scene C S B) : Prop :=
  ∀ connection q s next pass, t.phase = .asking connection q s next → t.holds = some pass →
    x.live? pass.key.1 pass.key.2 = none

/-- The gate that a call holds, and what it has found behind it, are as its stance says. -/
def Stance.Fits (x : Scene C S B) : Stance → Option (Pass GateKey) → Prop
  | .free, holds => holds = none
  | .entered key, holds | .loaded key, holds => ∃ lock, holds = some ⟨key, lock⟩
  | .missed key, holds => (∃ lock, holds = some ⟨key, lock⟩) ∧ x.live? key.1 key.2 = none

/-- The gates are in order for a call that goes on with the gate that it holds, and for all others.
-/
structure Admits (gates : Gates GateKey TaskId) (places : TaskId → Option (Pass GateKey))
    (id : TaskId) (holds : Option (Pass GateKey)) : Prop where
  serves : gates.Serves (Function.update places id holds)
  holding : ∀ pass, holds = some pass → gates.holder? pass.lock = some id

namespace Admits

variable {gates : Gates GateKey TaskId} {places : TaskId → Option (Pass GateKey)} {id : TaskId}

theorem join (h : Admits gates places id none) (key : GateKey) :
    (gates.join key id).2.Serves
      (Function.update places id (some ⟨key, (gates.join key id).1⟩)) := by
  have hServes := h.serves.join key (t := id) (Function.update_self _ _ _)
  rwa [Function.update_idem] at hServes

theorem release {pass : Pass GateKey} (h : Admits gates places id (some pass)) :
    Admits (gates.release pass.key pass.lock) places id none where
  serves := by
    have hServes := h.serves.release (t := id) (Function.update_self _ _ _) (h.holding pass rfl)
    rwa [Function.update_idem] at hServes
  holding := nofun

theorem holder?_release {pass : Pass GateKey} (h : Admits gates places id (some pass)) {l : LockId}
    {j : TaskId} (hj : j ≠ id) (hHolder : gates.holder? l = some j) :
    (gates.release pass.key pass.lock).holder? l = some j := by
  rw [Gates.holder?_release, hHolder]
  rintro rfl
  rw [h.holding pass rfl] at hHolder
  exact hj (Option.some.inj hHolder).symm

/-- A call that puts its question in order keeps its gate, if it has one, and has found nothing
there. -/
theorem asking {holds : Option (Pass GateKey)} (h : Admits gates places id holds) {bind : String}
    {q : Question} {s : ServiceId} {next : Outcome q.Answer → Plan A} {stance : Stance}
    {x : Scene C S B} (hOrderly : (Plan.ask bind q s next).Orderly stance)
    (hFits : stance.Fits x holds) (connection : C) :
    Kept places id gates { phase := .asking connection q s next, holds } gates ∧
      FoundNothing { phase := .asking connection q s next, holds } x := by
  have hKept (hNext : ∀ outcome, (next outcome).Orderly (.after holds)) :
      Kept places id gates { phase := .asking connection q s next, holds } gates :=
    ⟨hNext, h.serves, h.holding, fun _ _ _ hHolder => hHolder⟩
  cases stance with
  | free =>
      cases hFits
      exact ⟨hKept hOrderly, nofun⟩
  | missed key =>
      obtain ⟨⟨lock, rfl⟩, hNone⟩ := hFits
      refine ⟨hKept hOrderly, ?_⟩
      intro _ _ _ _ pass _ hHolds
      cases hHolds
      exact hNone
  | entered key | loaded key => exact hOrderly.elim

end Admits

/-- A call that goes on in order keeps the gates in order until it waits or ends. -/
theorem proceed_kept (g : Guard C S B) (places : TaskId → Option (Pass GateKey)) (id : TaskId)
    (p : Plan A) {stance : Stance} {holds : Option (Pass GateKey)} {f : Floor C S B}
    (hOrderly : p.Orderly stance) (hFits : stance.Fits f.scene holds)
    (hAdmits : Admits f.gates places id holds) :
    Kept places id f.gates (g.proceed id p holds f).1 (g.proceed id p holds f).2.gates ∧
      FoundNothing (g.proceed id p holds f).1 (g.proceed id p holds f).2.scene := by
  induction p generalizing stance holds f with
  | done outcome =>
      cases hOrderly
      cases hFits
      exact ⟨⟨rfl, hAdmits.serves, hAdmits.holding, fun _ _ _ h => h⟩, nofun⟩
  | note n rest ih =>
      cases stance with
      | free | loaded key =>
          exact ih (f := { f with scene := f.scene.note n }) hOrderly hFits hAdmits
      | entered key | missed key => exact hOrderly.elim
  | learn c s fact rest ih =>
      cases stance with
      | free | loaded key =>
          exact ih (f := { f with scene := f.scene.learn c s fact }) hOrderly hFits hAdmits
      | entered key | missed key => exact hOrderly.elim
  | look c s next ih =>
      simp only [proceed, Scene.look_fst]
      cases stance with
      | free =>
          exact ih _ (f := { f with scene := (f.scene.look c s).2 }) (hOrderly _) hFits hAdmits
      | entered key =>
          obtain ⟨rfl, hNone, hSome⟩ := hOrderly
          cases hLive : f.scene.live? c s with
          | none =>
              have hAfter : (f.scene.look c s).2.live? c s = none := by
                rw [Scene.live?_look, hLive]
              exact ih none (f := { f with scene := (f.scene.look c s).2 }) hNone ⟨hFits, hAfter⟩
                hAdmits
          | some fact =>
              exact ih (some fact) (f := { f with scene := (f.scene.look c s).2 }) (hSome fact)
                hFits hAdmits
      | missed key | loaded key => exact hOrderly.elim
  | enter c s rest ih =>
      obtain ⟨rfl, hLookup, hRest⟩ := hOrderly
      cases hFits
      have hServes := hAdmits.join (c, s)
      have hOthers : ∀ l j, j ≠ id → f.gates.holder? l = some j →
          (f.gates.join (c, s) id).2.holder? l = some j :=
        fun l j _ hHolder => hAdmits.serves.holder?_join (c, s) id hHolder
      simp only [proceed]
      split_ifs with hHeld
      · have hHolder : (f.gates.join (c, s) id).2.holder? (f.gates.join (c, s) id).1 = some id :=
          decide_eq_true_iff.1 hHeld
        have hAdmitted : Admits (f.gates.join (c, s) id).2 places id
            (some ⟨(c, s), (f.gates.join (c, s) id).1⟩) :=
          ⟨hServes, fun pass hPass => by cases hPass; exact hHolder⟩
        obtain ⟨hKept, hMissed⟩ :=
          ih (f := { f with gates := (f.gates.join (c, s) id).2 }) hRest ⟨_, rfl⟩ hAdmitted
        exact ⟨hKept.of_others hOthers, hMissed⟩
      · exact ⟨⟨⟨rfl, hLookup, hRest⟩, hServes, nofun, hOthers⟩, nofun⟩
  | leave c s rest ih =>
      obtain ⟨rfl, hRest⟩ := hOrderly
      obtain ⟨lock, rfl⟩ := hFits
      obtain ⟨hKept, hMissed⟩ := ih (f := f.release (some ⟨(c, s), lock⟩)) hRest rfl hAdmits.release
      exact ⟨hKept.of_others fun l j => hAdmits.holder?_release, hMissed⟩
  | ask bind q s next ih =>
      simp only [proceed]
      cases hBind : g.binds.runOnBind bind Except.ok with
      | error e =>
          cases stance with
          | free => exact ih _ (hOrderly _) hFits hAdmits
          | missed key => exact ih _ (hOrderly _) hFits.1 hAdmits
          | entered key | loaded key => exact hOrderly.elim
      | ok connection => exact hAdmits.asking hOrderly hFits connection
  | count cmd next ih =>
      obtain ⟨rfl, hNext⟩ := hOrderly
      exact ih _ (f := { f with scene := (f.scene.count g.counters cmd).2 }) (hNext _) hFits
        hAdmits

theorem Floor.gates_abandon (f : Floor C S B) (l : LockId) (id : TaskId) :
    (f.abandon l id).gates = f.gates.abandon l id := by
  unfold abandon
  simp only
  split <;> rfl

namespace Machine

variable {m : Machine C S B A} {id : TaskId}
  {change : Task C A → Floor C S B → Task C A × Floor C S B}

theorem update_of_none (h : m.tasks[id]? = none) : m.update id change = m := by
  simp only [update, h]

theorem floor_update {t : Task C A} (ht : m.tasks[id]? = some t) :
    (m.update id change).floor = (change t m.floor).2 := by
  simp only [update, ht]

theorem getElem?_update {t : Task C A} (ht : m.tasks[id]? = some t) (j : TaskId) :
    (m.update id change).tasks[j]? =
      if j = id then some (change t m.floor).1 else m.tasks[j]? := by
  have hLength : id < m.tasks.length := (List.getElem?_eq_some_iff.1 ht).1
  simp only [update, ht]
  rw [List.getElem?_set]
  by_cases hj : id = j
  · simp [← hj, hLength]
  · simp [hj, Ne.symm hj]

/-- Where something changes in one call, that call is among the tasks, and no other differs. -/
theorem task_of_update {j : TaskId} {u : Task C A} (hu : (m.update id change).tasks[j]? = some u) :
    m.tasks[j]? = some u ∨ j = id ∧ ∃ t, m.tasks[id]? = some t ∧ u = (change t m.floor).1 := by
  cases ht : m.tasks[id]? with
  | none =>
      rw [update_of_none ht] at hu
      exact Or.inl hu
  | some t =>
      rw [getElem?_update ht] at hu
      split_ifs at hu with hj
      · exact Or.inr ⟨hj, t, rfl, (Option.some.inj hu).symm⟩
      · exact Or.inl hu

theorem task_of_begun {new u : Task C A} {j : TaskId} (hu : (m.tasks ++ [new])[j]? = some u) :
    m.tasks[j]? = some u ∨ u = new := by
  rw [List.getElem?_append] at hu
  split_ifs at hu with hj
  · exact Or.inl hu
  · exact Or.inr (List.mem_singleton.1 (List.mem_of_getElem? hu))

end Machine

/-- The places of all calls under way. -/
def Machine.places (m : Machine C S B A) (id : TaskId) : Option (Pass GateKey) :=
  (m.tasks[id]?).bind Task.pass?

theorem Machine.places_of_task {m : Machine C S B A} {id : TaskId} {t : Task C A}
    (ht : m.tasks[id]? = some t) : m.places id = t.pass? := by
  rw [places, ht]
  rfl

/-- Every call under way keeps to the order of gates, the gates are in order for all of them, and a
call that holds a gate is the one that its lock was handed to. -/
structure Machine.Sound (m : Machine C S B A) : Prop where
  orderly : ∀ (id : TaskId) (t : Task C A), m.tasks[id]? = some t → t.Orderly
  serves : m.floor.gates.Serves m.places
  holding : ∀ (id : TaskId) (t : Task C A) (pass : Pass GateKey), m.tasks[id]? = some t →
    t.holds = some pass → m.floor.gates.holder? pass.lock = some id

namespace Machine.Sound

variable {m : Machine C S B A} {id : TaskId} {t : Task C A}

theorem start (x : Scene C S B) : Machine.Sound ({ floor := { scene := x } } : Machine C S B A) where
  orderly _ _ h := by cases h
  serves := .empty
  holding _ _ _ h := by cases h

theorem serves_update (h : m.Sound) (ht : m.tasks[id]? = some t) :
    m.floor.gates.Serves (Function.update m.places id t.pass?) := by
  rw [← Machine.places_of_task ht, Function.update_eq_self]
  exact h.serves

/-- A call that does nothing keeps everything. -/
theorem kept_self (h : m.Sound) (ht : m.tasks[id]? = some t) :
    Kept m.places id m.floor.gates t m.floor.gates where
  orderly := h.orderly id t ht
  serves := h.serves_update ht
  holding pass := h.holding id t pass ht
  others _ _ _ h := h

/-- A call that is at no gate but the one that it holds can go on with it. -/
theorem admits (h : m.Sound) (ht : m.tasks[id]? = some t) (hPass : t.pass? = t.holds) :
    Admits m.floor.gates m.places id t.holds where
  serves := hPass ▸ h.serves_update ht
  holding pass := h.holding id t pass ht

/-- A turn keeps the gates in order. If it does anything, whoever asks at its end behind a gate has
found nothing there. -/
theorem turn (h : m.Sound) (g : Guard C S B) (ht : m.tasks[id]? = some t) :
    Kept m.places id m.floor.gates (g.turn id t m.floor).1 (g.turn id t m.floor).2.gates ∧
      ((g.turn id t m.floor).1 = t ∨
        FoundNothing (g.turn id t m.floor).1 (g.turn id t m.floor).2.scene) := by
  obtain ⟨phase, holds⟩ := t
  have hOrderly := h.orderly id _ ht
  cases phase with
  | ready plan =>
      have hFits : (Stance.after holds).Fits m.floor.scene holds := by
        cases holds with
        | none => rfl
        | some pass => exact ⟨pass.lock, rfl⟩
      exact (proceed_kept g m.places id plan hOrderly hFits (h.admits ht rfl)).imp_right Or.inr
  | queued pass rest =>
      simp only [Guard.turn]
      split_ifs with hHeld
      · have hAdmits : Admits m.floor.gates m.places id (some pass) :=
          ⟨h.serves_update ht, fun pass' hPass => by cases hPass; exact decide_eq_true_iff.1 hHeld⟩
        exact (proceed_kept g m.places id rest
          (f := { m.floor with woken := m.floor.woken.filter (· ≠ id) }) hOrderly.2.2
          ⟨pass.lock, rfl⟩ hAdmits).imp_right Or.inr
      · exact ⟨h.kept_self ht, Or.inl rfl⟩
  | asking connection q s next => exact ⟨h.kept_self ht, Or.inl rfl⟩
  | finished outcome => exact ⟨h.kept_self ht, Or.inl rfl⟩
  | dropped => exact ⟨h.kept_self ht, Or.inl rfl⟩

theorem answer (h : m.Sound) (g : Guard C S B) (ht : m.tasks[id]? = some t) :
    Kept m.places id m.floor.gates (g.answer t m.floor).1 (g.answer t m.floor).2.gates := by
  obtain ⟨phase, holds⟩ := t
  have hOrderly := h.orderly id _ ht
  have hSelf := h.kept_self ht
  cases phase with
  | asking connection q s next => exact { hSelf with orderly := hOrderly _ }
  | ready plan | queued pass rest | finished outcome | dropped => exact hSelf

/-- Whoever is dropped gives up the place or the gate that it has. -/
theorem drop (h : m.Sound) (ht : m.tasks[id]? = some t) :
    Kept m.places id m.floor.gates (Guard.drop id t m.floor).1
      (Guard.drop id t m.floor).2.gates := by
  obtain ⟨phase, holds⟩ := t
  have hSelf := h.kept_self ht
  cases phase with
  | finished outcome | dropped => exact hSelf
  | queued pass rest =>
      have hPlace : m.places id = some pass := Machine.places_of_task ht
      simp only [Guard.drop]
      rw [Floor.gates_abandon]
      exact {
        orderly := rfl
        serves := h.serves.abandon hPlace
        holding := nofun
        others := fun l j hj hHolder => h.serves.holder?_abandon hPlace hj hHolder }
  | ready plan | asking connection q s next =>
      cases holds with
      | none => exact { hSelf with orderly := rfl }
      | some pass =>
          have hAdmits : Admits m.floor.gates m.places id (some pass) := h.admits ht rfl
          exact {
            orderly := rfl
            serves := hAdmits.release.serves
            holding := nofun
            others := fun l j => hAdmits.holder?_release }

/-- A change of one call keeps a machine sound if it keeps the gates in order. -/
theorem update (h : m.Sound) (id : TaskId)
    {act : Task C A → Floor C S B → Task C A × Floor C S B}
    (hKept : ∀ t, m.tasks[id]? = some t →
      Kept m.places id m.floor.gates (act t m.floor).1 (act t m.floor).2.gates) :
    (m.update id act).Sound := by
  cases ht : m.tasks[id]? with
  | none => rwa [Machine.update_of_none ht]
  | some t =>
      obtain ⟨hOrderly, hServes, hHolding, hOthers⟩ := hKept t ht
      have hPlaces : (m.update id act).places =
          Function.update m.places id (act t m.floor).1.pass? := by
        funext j
        rw [Machine.places, Machine.getElem?_update ht]
        by_cases hj : j = id
        · simp [hj]
        · simp [hj, Machine.places]
      constructor
      case orderly =>
        intro j u hu
        rw [Machine.getElem?_update ht] at hu
        split_ifs at hu with hj
        · cases hu
          exact hOrderly
        · exact h.orderly j u hu
      case serves =>
        rw [hPlaces, Machine.floor_update ht]
        exact hServes
      case holding =>
        intro j u pass hu hPass
        rw [Machine.getElem?_update ht] at hu
        rw [Machine.floor_update ht]
        split_ifs at hu with hj
        · cases hu
          rw [hj]
          exact hHolding pass hPass
        · exact hOthers pass.lock j hj (h.holding j u pass hu hPass)

/-- A call that begins is at no gate. -/
theorem begin (h : m.Sound) {plan : Plan A} (hPlan : plan.Orderly .free) :
    Machine.Sound { m with tasks := m.tasks ++ [{ phase := .ready plan }] } := by
  have hPlaces : Machine.places { m with tasks := m.tasks ++ [{ phase := .ready plan }] } =
      m.places := by
    funext j
    simp only [Machine.places, List.getElem?_append]
    split_ifs with hj
    · rfl
    · rw [List.getElem?_eq_none (Nat.not_lt.1 hj)]
      cases j - m.tasks.length <;> rfl
  constructor
  case orderly =>
    intro j u hu
    rcases Machine.task_of_begun hu with hOld | rfl
    · exact h.orderly j u hOld
    · exact hPlan
  case serves =>
    rw [hPlaces]
    exact h.serves
  case holding =>
    intro j u pass hu hPass
    rcases Machine.task_of_begun hu with hOld | rfl
    · exact h.holding j u pass hOld hPass
    · cases hPass

/-- One step keeps a machine sound, if a call that it starts keeps to the order of gates. -/
theorem step (h : m.Sound) (g : Guard C S B) (event : Event S B (Plan A))
    (hStart : ∀ plan, event = .start plan → plan.Orderly .free) : (m.step g event).Sound := by
  cases event with
  | start plan => exact h.begin (hStart plan rfl)
  | turn id => exact h.update id fun t ht => (h.turn g ht).1
  | answer id => exact h.update id fun t ht => h.answer g ht
  | drop id => exact h.update id fun t ht => h.drop ht
  | invalidate _ | clear | advance _ | changeStores _ | changeCounts _ =>
      exact ⟨h.orderly, h.serves, h.holding⟩

theorem run (h : m.Sound) (g : Guard C S B) (events : List (Event S B (Plan A)))
    (hStart : ∀ plan, .start plan ∈ events → plan.Orderly .free) : (m.run g events).Sound := by
  induction events generalizing m with
  | nil => exact h
  | cons event events ih =>
      refine ih (h.step g event ?_) fun plan hMem => hStart plan (List.mem_cons_of_mem _ hMem)
      rintro plan rfl
      exact hStart plan List.mem_cons_self

end Machine.Sound

/-- The call has put the question of a lookup to the replica and waits for the answer. -/
def Asks (c : Concern) (s : ServiceId) (phase : Phase C A) : Prop :=
  ∃ connection k, phase = .asking connection (.fact c) s fun outcome =>
    (Plan.settle c s outcome).followedBy k

/-- The load of a lookup is in flight: the call waits for the answer, or it was answered and has not
gone on since. -/
def Loads (c : Concern) (s : ServiceId) (phase : Phase C A) : Prop :=
  Asks c s phase ∨ ∃ outcome k, phase = .ready ((Plan.settle c s outcome).followedBy k)

/-- A load in flight has the gate of its concern and service. -/
theorem Task.Orderly.holds_of_loads {t : Task C A} (h : t.Orderly) {c : Concern} {s : ServiceId}
    (hLoads : Loads c s t.phase) : ∃ lock, t.holds = some ⟨(c, s), lock⟩ := by
  obtain ⟨phase, holds⟩ := t
  have hStance : Stance.after holds = .loaded (c, s) := by
    rcases hLoads with ⟨connection, k, rfl⟩ | ⟨outcome, k, rfl⟩
    · exact Plan.Orderly.stance_of_settle (h (.error (.unknownBind replicaBind)))
    · exact Plan.Orderly.stance_of_settle h
  cases holds with
  | none => cases hStance
  | some pass =>
      obtain ⟨key, lock⟩ := pass
      cases hStance
      exact ⟨lock, rfl⟩

theorem Task.pass?_of_loads {t : Task C A} {c : Concern} {s : ServiceId}
    (hLoads : Loads c s t.phase) : t.pass? = t.holds := by
  obtain ⟨phase, holds⟩ := t
  rcases hLoads with ⟨connection, k, rfl⟩ | ⟨outcome, k, rfl⟩ <;> rfl

/-- What holds of calls under way at every moment: at most one load of a fact is in flight; whoever
waits for a gate does so for a lookup of its concern and service, at a lock that somebody has and
for which everybody came for the same lookup; and no load begins in any next step while the fact is
remembered alive. -/
structure SingleFlight (g : Guard C S B) (m : Machine C S B A) : Prop where
  exclusive : ∀ (i j : TaskId) (t u : Task C A) c s, m.tasks[i]? = some t → m.tasks[j]? = some u →
    Loads c s t.phase → Loads c s u.phase → i = j
  ownGate : ∀ (i : TaskId) (t : Task C A) pass rest, m.tasks[i]? = some t →
    t.phase = .queued pass rest →
    (∃ k, rest = (Plan.behindGate pass.key.1 pass.key.2).followedBy k) ∧
      (m.floor.gates.holder? pass.lock).isSome ∧
      ∀ j ∈ m.floor.gates.members pass.lock, ∃ u, m.tasks[j]? = some u ∧ u.pass? = some pass
  once : ∀ event (i : TaskId) (u : Task C A) c s, (m.step g event).tasks[i]? = some u →
    Asks c s u.phase → (∀ t, m.tasks[i]? = some t → ¬Asks c s t.phase) →
    (m.step g event).floor.scene.live? c s = none

namespace Machine.Sound

variable {m : Machine C S B A}

theorem exclusive (h : m.Sound) {i j : TaskId} {t u : Task C A} {c : Concern} {s : ServiceId}
    (ht : m.tasks[i]? = some t) (hu : m.tasks[j]? = some u) (hLoads : Loads c s t.phase)
    (hLoadsToo : Loads c s u.phase) : i = j := by
  obtain ⟨lock, hHolds⟩ := (h.orderly i t ht).holds_of_loads hLoads
  obtain ⟨lock', hHolds'⟩ := (h.orderly j u hu).holds_of_loads hLoadsToo
  have hPlace : m.places i = some ⟨(c, s), lock⟩ := by
    rw [Machine.places_of_task ht, Task.pass?_of_loads hLoads, hHolds]
  have hPlace' : m.places j = some ⟨(c, s), lock'⟩ := by
    rw [Machine.places_of_task hu, Task.pass?_of_loads hLoadsToo, hHolds']
  have hSame := h.serves.lock_eq_of_key_eq hPlace hPlace' rfl
  cases hSame
  have hHolder := h.holding i t _ ht hHolds
  rw [h.holding j u _ hu hHolds'] at hHolder
  exact (Option.some.inj hHolder).symm

theorem ownGate (h : m.Sound) {i : TaskId} {t : Task C A} {pass : Pass GateKey} {rest : Plan A}
    (ht : m.tasks[i]? = some t) (hQueued : t.phase = .queued pass rest) :
    (∃ k, rest = (Plan.behindGate pass.key.1 pass.key.2).followedBy k) ∧
      (m.floor.gates.holder? pass.lock).isSome ∧
      ∀ j ∈ m.floor.gates.members pass.lock, ∃ u, m.tasks[j]? = some u ∧ u.pass? = some pass := by
  obtain ⟨phase, holds⟩ := t
  cases hQueued
  have hPlace : m.places i = some pass := Machine.places_of_task ht
  have hMember : i ∈ m.floor.gates.members pass.lock :=
    (h.serves.mem_members _ _).2 ⟨pass.key, hPlace⟩
  refine ⟨(h.orderly i _ ht).2.1, ?_, fun j hj => ?_⟩
  · rw [Gates.holder?_eq_head?]
    cases hMembers : m.floor.gates.members pass.lock with
    | nil => rw [hMembers] at hMember; cases hMember
    | cons j js => rfl
  · obtain ⟨key, hThere⟩ := (h.serves.mem_members _ _).1 hj
    have hSame := h.serves.key_eq_of_lock_eq hThere hPlace rfl
    rw [hSame] at hThere
    exact Option.bind_eq_some_iff.1 hThere

theorem once (h : m.Sound) (g : Guard C S B) (event : Event S B (Plan A)) {i : TaskId}
    {u : Task C A} {c : Concern} {s : ServiceId} (hu : (m.step g event).tasks[i]? = some u)
    (hAsks : Asks c s u.phase) (hNew : ∀ t, m.tasks[i]? = some t → ¬Asks c s t.phase) :
    (m.step g event).floor.scene.live? c s = none := by
  have hOld : m.tasks[i]? ≠ some u := fun hOld => hNew u hOld hAsks
  cases event with
  | start plan =>
      rcases Machine.task_of_begun hu with hSame | rfl
      · exact absurd hSame hOld
      · obtain ⟨_, _, hPhase⟩ := hAsks
        cases hPhase
  | turn id =>
      rcases Machine.task_of_update hu with hSame | ⟨rfl, t, ht, rfl⟩
      · exact absurd hSame hOld
      · obtain ⟨hKept, hSame | hMissed⟩ := h.turn g ht
        · rw [hSame] at hOld
          exact absurd ht hOld
        · obtain ⟨lock, hHolds⟩ := hKept.orderly.holds_of_loads (Or.inl hAsks)
          obtain ⟨connection, k, hPhase⟩ := hAsks
          have hFloor : (m.step g (.turn i)).floor = (g.turn i t m.floor).2 :=
            Machine.floor_update ht
          rw [hFloor]
          exact hMissed _ _ _ _ _ hPhase hHolds
  | answer id =>
      rcases Machine.task_of_update hu with hSame | ⟨rfl, t, ht, rfl⟩
      · exact absurd hSame hOld
      · -- An answer leaves a call that goes on, and a call that does not wait for one as it is.
        obtain ⟨phase, holds⟩ := t
        cases phase with
        | asking connection q r next =>
            obtain ⟨_, _, hPhase⟩ := hAsks
            cases hPhase
        | ready _ | queued _ _ | finished _ | dropped => exact absurd ht hOld
  | drop id =>
      rcases Machine.task_of_update hu with hSame | ⟨rfl, t, ht, rfl⟩
      · exact absurd hSame hOld
      · obtain ⟨phase, holds⟩ := t
        cases phase with
        | finished _ | dropped => exact absurd ht hOld
        | ready _ | queued _ _ | asking _ _ _ _ =>
            obtain ⟨_, _, hPhase⟩ := hAsks
            cases hPhase
  | invalidate _ | clear | advance _ | changeStores _ | changeCounts _ => exact absurd hu hOld

end Machine.Sound

/-- What a call starts with. -/
def Event.planned (joined : Bool) : Event S B (Present × Call) → Event S B (Plan Reply)
  | .start (present, call) => .start (call.plan present joined)
  | .turn id => .turn id
  | .answer id => .answer id
  | .drop id => .drop id
  | .invalidate s => .invalidate s
  | .clear => .clear
  | .advance span => .advance span
  | .changeStores change => .changeStores change
  | .changeCounts change => .changeCounts change

/-- Every plan that is started is that of a call. -/
theorem Event.exists_call_of_planned {joined : Bool} {events : List (Event S B (Present × Call))}
    {plan : Plan Reply} (h : .start plan ∈ events.map (Event.planned joined)) :
    ∃ present call, Call.plan present joined call = plan := by
  obtain ⟨event, _, hEvent⟩ := List.mem_map.1 h
  cases event with
  | start call => exact ⟨call.1, call.2, Event.start.inj hEvent⟩
  | _ => cases hEvent

/-- Single-flight loading, for any calls under way at once, in every order of their turns, answers
and drops, and of whatever else happens between them. -/
theorem loads_single_flight (g : Guard C S B) (x : Scene C S B)
    (events : List (Event S B (Present × Call))) :
    g.SingleFlight (Machine.run g { floor := { scene := x } }
      (events.map (Event.planned g.joined))) := by
  have hSound : Machine.Sound (Machine.run g ({ floor := { scene := x } } : Machine C S B Reply)
      (events.map (Event.planned g.joined))) := by
    refine (Machine.Sound.start x).run g _ fun plan hMem => ?_
    obtain ⟨event, _, hEvent⟩ := List.mem_map.1 hMem
    cases event with
    | start call =>
        cases hEvent
        exact Call.plan_orderly call.1 g.joined call.2
    | _ => cases hEvent
  constructor
  case exclusive => exact fun i j t u c s => hSound.exclusive
  case ownGate => exact fun i t pass rest => hSound.ownGate
  case once => exact fun event i u c s => hSound.once g event

end Tollgate.Guard
