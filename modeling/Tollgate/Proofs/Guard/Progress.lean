import Tollgate.Proofs.Guard.SingleFlight

/-!
Why calls under way come to an end. A call waits a bounded number of times, for a gate or for an
answer. Whoever has a gate can go on, so among calls that have not ended there is always one that
can; and each time one goes on, less is left to wait for. Only turns and answers are needed.
-/

namespace Tollgate.Guard

variable {C S B A D : Type}

/-- The plan waits at most so many times, whatever it is told. -/
def Plan.Within : Plan A → Nat → Prop
  | .done _, _ => True
  | .note _ rest, n | .leave _ _ rest, n | .learn _ _ _ rest, n => rest.Within n
  | .look _ _ next, n => ∀ fact, (next fact).Within n
  | .enter _ _ _, 0 | .ask _ _ _ _, 0 => False
  | .enter _ _ rest, n + 1 => rest.Within n
  | .ask _ _ _ next, n + 1 => ∀ outcome, (next outcome).Within n
  | .count _ next, n => ∀ outcome, (next outcome).Within n

namespace Plan

theorem Within.mono {p : Plan A} {n m : Nat} (h : p.Within n) (hLe : n ≤ m) : p.Within m := by
  induction p generalizing n m with
  | done outcome => trivial
  | note k rest ih | leave c s rest ih | learn c s fact rest ih => exact ih h hLe
  | look c s next ih => exact fun fact => ih fact (h fact) hLe
  | count cmd next ih => exact fun outcome => ih outcome (h outcome) hLe
  | enter c s rest ih =>
      match n, m, h with
      | n + 1, m + 1, h => exact ih h (Nat.le_of_succ_le_succ hLe)
  | ask bind q s next ih =>
      match n, m, h with
      | n + 1, m + 1, h => exact fun outcome => ih outcome (h outcome) (Nat.le_of_succ_le_succ hLe)

theorem Within.followedBy {p : Plan A} {f : Outcome A → Plan D} {n m : Nat} (hp : p.Within n)
    (hf : ∀ outcome, (f outcome).Within m) : (p.followedBy f).Within (n + m) := by
  induction p generalizing n with
  | done outcome => exact (hf outcome).mono (Nat.le_add_left m n)
  | note k rest ih | leave c s rest ih | learn c s fact rest ih => exact ih hp
  | look c s next ih => exact fun fact => ih fact (hp fact)
  | count cmd next ih => exact fun outcome => ih outcome (hp outcome)
  | enter c s rest ih =>
      cases n with
      | zero => exact hp.elim
      | succ n =>
          rw [Nat.succ_add_eq_add_succ, Nat.add_succ]
          exact ih hp
  | ask bind q s next ih =>
      cases n with
      | zero => exact hp.elim
      | succ n =>
          rw [Nat.succ_add_eq_add_succ, Nat.add_succ]
          exact fun outcome => ih outcome (hp outcome)

theorem Within.andThen {p : Plan A} {f : A → Plan D} {n m : Nat} (hp : p.Within n)
    (hf : ∀ a, (f a).Within m) : (p.andThen f).Within (n + m) := by
  refine hp.followedBy fun outcome => ?_
  cases outcome with
  | ok a => exact hf a
  | error e => trivial

theorem Within.map {p : Plan A} {n : Nat} (hp : p.Within n) (f : A → D) : (p.map f).Within n :=
  hp.followedBy (m := 0) fun _ => trivial

theorem settle_within (c : Concern) (s : ServiceId) (outcome : Outcome c.Answer) :
    (settle c s outcome).Within 0 := by
  cases outcome with
  | error e => trivial
  | ok answer =>
      simp only [settle, Within]
      cases c.fact? answer <;> trivial

/-- A lookup waits for its gate and for its answer. -/
theorem lookup_within (c : Concern) (s : ServiceId) : (lookup c s).Within 2 := by
  intro fact
  cases fact with
  | some fact => trivial
  | none =>
      intro again
      cases again with
      | some fact => trivial
      | none => exact settle_within c s

/-- A snapshot takes at most three questions. -/
theorem fetch_snapshot_within (joined : Bool) (s : ServiceId) :
    (fetch s (Fetch.snapshot joined)).Within 3 := by
  cases joined with
  | true => exact fun _ => trivial
  | false =>
      intro active
      match active with
      | .error e => trivial
      | .ok none => trivial
      | .ok (some active) =>
          intro keys
          cases keys with
          | error e => trivial
          | ok keys =>
              intro permissions
              cases permissions <;> trivial

theorem prime_within (joined : Bool) (s : ServiceId) : (prime joined s).Within 3 := by
  refine (fetch_snapshot_within joined s).andThen (m := 0) fun snapshot => ?_
  cases snapshot <;> trivial

/-- A check needs at most three lookups. -/
theorem evaluate_within (now : Timestamp) (s : ServiceId) (permission : String) :
    (evaluate now s permission).Within 6 := by
  refine Within.andThen (n := 2) (m := 4) (lookup_within .serviceActive s) fun active => ?_
  match active with
  | none => trivial
  | some false => trivial
  | some true =>
      refine Within.andThen (n := 2) (m := 2) ((lookup_within .apiKeys s).map _) fun keys => ?_
      simp only
      split_ifs
      · trivial
      · refine Within.andThen (n := 2) (m := 0) ((lookup_within .permissions s).map _) fun ps => ?_
        split_ifs <;> trivial

end Plan

/-- No call waits more often than an authorization that looks up everything. -/
theorem Call.plan_within (present : Present) (joined : Bool) (call : Call) :
    (call.plan present joined).Within 6 := by
  cases call with
  | apiKeys s => exact (((Plan.lookup_within .apiKeys s).map _).map _).mono (by decide)
  | permissions s => exact (((Plan.lookup_within .permissions s).map _).map _).mono (by decide)
  | isActive s => exact ((Plan.lookup_within .serviceActive s).map _).mono (by decide)
  | prime s => exact ((Plan.prime_within joined s).map _).mono (by decide)
  | authorize s permission =>
      refine Plan.Within.map (Plan.Within.followedBy (m := 0)
        (Plan.evaluate_within present.now s permission) fun outcome => ?_) _
      cases outcome with
      | ok service => trivial
      | error e =>
          simp only
          split_ifs <;> trivial
  | incrementDaily s | dailyCount s | setDaily s value => exact fun _ => trivial
  | checkLimit s limit =>
      have hCounted : (Plan.incrementDaily present.today s).Within 0 := fun _ => trivial
      refine ((hCounted.andThen (m := 0) fun sent => ?_).map _).mono (by decide)
      match sent with
      | none => trivial
      | some n =>
          simp only
          split_ifs <;> trivial
  | readReplica s => exact fun _ => trivial

/-- What is left of a call that waits at most so many times more, put as a number that falls
whenever the call goes on. -/
def Phase.Within : Phase C A → Nat → Prop
  | .ready plan, n => ∃ k, plan.Within k ∧ 2 * k < n
  | .queued _ rest, n => ∃ k, rest.Within k ∧ 2 * k + 1 < n
  | .asking _ _ _ next, n => ∃ k, (∀ outcome, (next outcome).Within k) ∧ 2 * k + 1 < n
  | .finished _, _ | .dropped, _ => True

theorem Phase.Within.mono {phase : Phase C A} {n m : Nat} (h : phase.Within n) (hLe : n ≤ m) :
    phase.Within m := by
  cases phase with
  | ready plan | queued pass rest | asking connection q s next =>
      obtain ⟨k, hPlan, hLt⟩ := h
      exact ⟨k, hPlan, Nat.lt_of_lt_of_le hLt hLe⟩
  | finished outcome | dropped => trivial

/-- A call that goes on from a plan has then waited, or has ended. -/
theorem proceed_within (g : Guard C S B) (id : TaskId) (p : Plan A) (holds : Option (Pass GateKey))
    (f : Floor C S B) {n : Nat} (h : p.Within n) :
    (g.proceed id p holds f).1.phase.Within (2 * n) := by
  induction p generalizing holds f n with
  | done outcome => trivial
  | note k rest ih => exact ih _ _ h
  | look c s next ih => exact ih _ _ _ (h _)
  | leave c s rest ih => exact ih _ _ h
  | learn c s fact rest ih => exact ih _ _ h
  | count cmd next ih => exact ih _ _ _ (h _)
  | enter c s rest ih =>
      cases n with
      | zero => exact h.elim
      | succ n =>
          simp only [proceed]
          split_ifs
          · exact (ih _ _ h).mono (by omega)
          · exact ⟨n, h, by omega⟩
  | ask bind q s next ih =>
      cases n with
      | zero => exact h.elim
      | succ n =>
          simp only [proceed]
          cases g.binds.runOnBind bind Except.ok with
          | error e => exact (ih _ _ _ (h _)).mono (by omega)
          | ok connection => exact ⟨n, h, by omega⟩

/-- A turn, an answer or a drop leaves a call no more to wait for. -/
theorem turn_within (g : Guard C S B) (id : TaskId) (t : Task C A) (f : Floor C S B) {n : Nat}
    (h : t.phase.Within n) : (g.turn id t f).1.phase.Within n := by
  obtain ⟨phase, holds⟩ := t
  cases phase with
  | ready plan =>
      obtain ⟨k, hPlan, hLt⟩ := h
      exact (proceed_within g id plan holds f hPlan).mono (by omega)
  | queued pass rest =>
      simp only [turn]
      split_ifs
      · obtain ⟨k, hRest, hLt⟩ := h
        exact (proceed_within g id rest (some pass) _ hRest).mono (by omega)
      · exact h
  | asking connection q s next | finished outcome | dropped => exact h

theorem answer_within (g : Guard C S B) (t : Task C A) (f : Floor C S B) {n : Nat}
    (h : t.phase.Within n) : (g.answer t f).1.phase.Within n := by
  obtain ⟨phase, holds⟩ := t
  cases phase with
  | asking connection q s next =>
      obtain ⟨k, hNext, hLt⟩ := h
      exact ⟨k, hNext _, by omega⟩
  | ready plan | queued pass rest | finished outcome | dropped => exact h

theorem drop_within (id : TaskId) (t : Task C A) (f : Floor C S B) {n : Nat} :
    (Guard.drop id t f).1.phase.Within n := by
  obtain ⟨phase, holds⟩ := t
  cases phase <;> trivial

/-- A call can go on unless it has ended or waits for a gate that it has not been handed. -/
def Task.CanGoOn (id : TaskId) (t : Task C A) (gates : Gates GateKey TaskId) : Prop :=
  match t.phase with
  | .ready _ | .asking .. => True
  | .queued pass _ => gates.holder? pass.lock = some id
  | .finished _ | .dropped => False

/-- A call that has come to its end, or was dropped. -/
def Task.HasEnded (t : Task C A) : Prop :=
  match t.phase with
  | .finished _ | .dropped => True
  | .ready _ | .queued .. | .asking .. => False

/-- Calls are given what they wait for, one after another: an answer if it is one, and a turn. -/
def visits {P : Type} (ids : List TaskId) : List (Event S B P) :=
  ids.flatMap fun id => [.answer id, .turn id]

namespace Machine

variable {m : Machine C S B A} {id : TaskId} {t : Task C A}

theorem tasks_update {change : Task C A → Floor C S B → Task C A × Floor C S B}
    (ht : m.tasks[id]? = some t) :
    (m.update id change).tasks = m.tasks.set id (change t m.floor).1 := by
  simp only [update, ht]

/-- A call that is given what it waits for goes on if it can, and is else left as it is. No other
call moves. -/
theorem visit (g : Guard C S B) (ht : m.tasks[id]? = some t) :
    ∃ u : Task C A, (m.run g (visits [id])).tasks = m.tasks.set id u ∧
      ∀ n, t.phase.Within n →
        ∃ k ≤ n, u.phase.Within k ∧ (t.CanGoOn id m.floor.gates → k < n) := by
  let answered := g.answer t m.floor
  have hAnswered : (m.update id g.answer).tasks[id]? = some answered.1 := by
    rw [getElem?_update ht, if_pos rfl]
  refine ⟨(g.turn id answered.1 answered.2).1, ?_, ?_⟩
  · show ((m.update id g.answer).update id (g.turn id)).tasks = _
    rw [tasks_update hAnswered, tasks_update ht, floor_update ht, List.set_set]
  · obtain ⟨phase, holds⟩ := t
    cases phase with
    | finished outcome | dropped => exact fun n h => ⟨n, Nat.le_refl n, h, False.elim⟩
    | ready plan =>
        intro n hWithin
        obtain ⟨k, hPlan, hLt⟩ := hWithin
        exact ⟨2 * k, by omega, proceed_within g id plan holds m.floor hPlan, fun _ => hLt⟩
    | asking connection q s next =>
        intro n hWithin
        obtain ⟨k, hNext, hLt⟩ := hWithin
        exact ⟨2 * k, by omega, proceed_within g id _ holds _ (hNext _), fun _ => by omega⟩
    | queued pass rest =>
        intro n hWithin
        by_cases hHeld : m.floor.gates.isHeldBy pass.lock id = true
        · obtain ⟨k, hRest, hLt⟩ := hWithin
          refine ⟨2 * k, by omega, ?_, fun _ => by omega⟩
          simp only [answered, answer, turn, hHeld, if_true]
          exact proceed_within g id rest _ _ hRest
        · have hNot : m.floor.gates.holder? pass.lock ≠ some id :=
            fun hHolder => hHeld (decide_eq_true hHolder)
          refine ⟨n, Nat.le_refl n, ?_, fun hCan => absurd hCan hNot⟩
          simp only [answered, answer, turn, hHeld]
          exact hWithin

theorem visit_of_none (g : Guard C S B) (ht : m.tasks[id]? = none) :
    m.run g (visits [id]) = m := by
  show (m.update id g.answer).update id (g.turn id) = m
  rw [update_of_none ht, update_of_none ht]

/-- Among calls that have not all ended, one can go on. -/
theorem Sound.exists_canGoOn (h : m.Sound) (ht : m.tasks[id]? = some t) (hOpen : ¬t.HasEnded) :
    ∃ (j : TaskId) (u : Task C A), m.tasks[j]? = some u ∧ u.CanGoOn j m.floor.gates := by
  obtain ⟨phase, holds⟩ := t
  cases phase with
  | ready plan | asking connection q s next => exact ⟨id, _, ht, trivial⟩
  | finished outcome | dropped => exact absurd trivial hOpen
  | queued pass rest =>
      obtain ⟨_, hHeld, hMembers⟩ := h.ownGate ht rfl
      obtain ⟨j, hHolder⟩ := Option.isSome_iff_exists.1 hHeld
      have hFirst : (m.floor.gates.members pass.lock).head? = some j := by
        rw [← Gates.holder?_eq_head?, hHolder]
      obtain ⟨u, hu, hPass⟩ := hMembers j (List.mem_of_head? hFirst)
      refine ⟨j, u, hu, ?_⟩
      -- Whoever holds the gate has been handed it and can act on that, or is past it.
      have hOrderly := h.orderly j u hu
      obtain ⟨phase, holds⟩ := u
      cases phase with
      | ready plan | asking connection q s next => trivial
      | queued pass' rest' =>
          cases hPass
          exact hHolder
      | finished outcome | dropped =>
          obtain rfl : holds = none := hOrderly
          cases hPass

theorem Sound.visits (h : m.Sound) (g : Guard C S B) (ids : List TaskId) :
    (m.run g (visits ids)).Sound :=
  h.run g _ (by simp [Guard.visits])

theorem run_visits_append (g : Guard C S B) (m : Machine C S B A) (ids later : List TaskId) :
    m.run g (Guard.visits (ids ++ later)) =
      (m.run g (Guard.visits ids)).run g (Guard.visits later) := by
  rw [Guard.visits, List.flatMap_append]
  exact List.foldl_append

theorem run_visits_cons (g : Guard C S B) (m : Machine C S B A) (id : TaskId)
    (ids : List TaskId) :
    m.run g (Guard.visits (id :: ids)) =
      (m.run g (Guard.visits [id])).run g (Guard.visits ids) :=
  run_visits_append g m [id] ids

theorem holder?_update {change : Task C A → Floor C S B → Task C A × Floor C S B}
    (hKept : ∀ t, m.tasks[id]? = some t →
      Kept m.places id m.floor.gates (change t m.floor).1 (change t m.floor).2.gates)
    {j : TaskId} (hj : j ≠ id) {l : LockId} (hHolder : m.floor.gates.holder? l = some j) :
    (m.update id change).floor.gates.holder? l = some j := by
  cases ht : m.tasks[id]? with
  | none => rwa [update_of_none ht]
  | some t =>
      rw [floor_update ht]
      exact (hKept t ht).others l j hj hHolder

/-- A call that can go on still can after another one went on. -/
theorem Sound.canGoOn_visit (h : m.Sound) (g : Guard C S B) {j : TaskId} (hj : j ≠ id)
    (ht : m.tasks[j]? = some t) (hCan : t.CanGoOn j m.floor.gates) :
    (m.run g (Guard.visits [id])).tasks[j]? = some t ∧
      t.CanGoOn j (m.run g (Guard.visits [id])).floor.gates := by
  have hAnswered := h.step g (.answer id) nofun
  constructor
  · cases hId : m.tasks[id]? with
    | none => rwa [visit_of_none g hId]
    | some u =>
        obtain ⟨u', hTasks, _⟩ := visit g hId
        rw [hTasks, List.getElem?_set_ne hj.symm]
        exact ht
  · obtain ⟨phase, holds⟩ := t
    cases phase with
    | ready plan | asking connection q s next => trivial
    | finished outcome | dropped => exact hCan.elim
    | queued pass rest =>
        have hStill := holder?_update (fun u hu => h.answer g hu) hj hCan
        exact holder?_update (fun u hu => (hAnswered.turn g hu).1) hj hStill

/-- Calls that wait at most so many times still do after one step, if a call that it starts does. -/
theorem within_step (g : Guard C S B) {n : Nat} (h : ∀ t ∈ m.tasks, t.phase.Within n)
    (event : Event S B (Plan A))
    (hStart : ∀ plan, event = .start plan → (Phase.ready plan : Phase C A).Within n) :
    ∀ t ∈ (m.step g event).tasks, t.phase.Within n := by
  have hUpdate {id : TaskId} {change : Task C A → Floor C S B → Task C A × Floor C S B}
      (hChange : ∀ t, t.phase.Within n → (change t m.floor).1.phase.Within n) :
      ∀ t ∈ (m.update id change).tasks, t.phase.Within n := by
    intro u hu
    obtain ⟨j, hj⟩ := List.mem_iff_getElem?.1 hu
    rcases task_of_update hj with hSame | ⟨_, t, ht, rfl⟩
    · exact h u (List.mem_of_getElem? hSame)
    · exact hChange t (h t (List.mem_of_getElem? ht))
  cases event with
  | start plan =>
      intro t ht
      rcases List.mem_append.1 ht with hOld | hNew
      · exact h t hOld
      · obtain rfl := List.mem_singleton.1 hNew
        exact hStart plan rfl
  | turn id => exact hUpdate fun t ht => turn_within g id t m.floor ht
  | answer id => exact hUpdate fun t ht => answer_within g t m.floor ht
  | drop id => exact hUpdate fun t _ => drop_within id t m.floor
  | invalidate _ | clear | advance _ | changeStores _ | changeCounts _ => exact h

theorem within_run (g : Guard C S B) {n : Nat} (h : ∀ t ∈ m.tasks, t.phase.Within n)
    {events : List (Event S B (Plan A))}
    (hStart : ∀ plan, .start plan ∈ events → (Phase.ready plan : Phase C A).Within n) :
    ∀ t ∈ (m.run g events).tasks, t.phase.Within n := by
  induction events generalizing m with
  | nil => exact h
  | cons event events ih =>
      refine ih (within_step g h event ?_) fun plan hMem =>
        hStart plan (List.mem_cons_of_mem _ hMem)
      rintro plan rfl
      exact hStart plan List.mem_cons_self

end Machine

/-- What is left of all calls together. -/
def Task.AllWithin : List (Task C A) → Nat → Prop
  | [], _ => True
  | t :: ts, n => ∃ k ≤ n, t.phase.Within k ∧ AllWithin ts (n - k)

namespace Task.AllWithin

variable {ts : List (Task C A)} {n : Nat}

theorem set (h : Task.AllWithin ts n) {id : TaskId} {t u : Task C A} (ht : ts[id]? = some t)
    {P : Prop} (hFalls : ∀ k, t.phase.Within k → ∃ k' ≤ k, u.phase.Within k' ∧ (P → k' < k)) :
    ∃ n' ≤ n, Task.AllWithin (ts.set id u) n' ∧ (P → n' < n) := by
  induction ts generalizing n id with
  | nil => cases ht
  | cons first ts ih =>
      obtain ⟨k, hk, hFirst, hRest⟩ := h
      cases id with
      | zero =>
          cases ht
          obtain ⟨k', hLe, hNow, hLt⟩ := hFalls k hFirst
          refine ⟨n - (k - k'), by omega, ⟨k', by omega, hNow, ?_⟩, fun hP => ?_⟩
          · rwa [show n - (k - k') - k' = n - k by omega]
          · have := hLt hP
            omega
      | succ id =>
          obtain ⟨n', hLe, hSet, hLt⟩ := ih hRest ht
          refine ⟨n' + k, by omega, ⟨k, by omega, hFirst, ?_⟩, fun hP => ?_⟩
          · rwa [Nat.add_sub_cancel]
          · have := hLt hP
            omega

/-- Calls of which nothing is left have ended. -/
theorem hasEnded (h : Task.AllWithin ts 0) {t : Task C A} (ht : t ∈ ts) : t.HasEnded := by
  induction ts with
  | nil => cases ht
  | cons first ts ih =>
      obtain ⟨k, hk, hFirst, hRest⟩ := h
      obtain rfl := Nat.le_zero.1 hk
      rcases List.mem_cons.1 ht with rfl | hMem
      · obtain ⟨phase, holds⟩ := t
        cases phase with
        | ready plan | queued pass rest | asking connection q s next =>
            obtain ⟨_, _, hLt⟩ := hFirst
            exact absurd hLt (Nat.not_lt_zero _)
        | finished outcome | dropped => trivial
      · exact ih hRest hMem

theorem of_hasEnded (h : ∀ t ∈ ts, t.HasEnded) : Task.AllWithin ts 0 := by
  induction ts with
  | nil => trivial
  | cons first ts ih =>
      refine ⟨0, Nat.le_refl 0, ?_, ih fun t ht => h t (List.mem_cons_of_mem _ ht)⟩
      have hFirst := h first List.mem_cons_self
      obtain ⟨phase, holds⟩ := first
      cases phase with
      | ready plan | queued pass rest | asking connection q s next => exact hFirst.elim
      | finished outcome | dropped => trivial

/-- Calls of which each waits at most so many times have so much left together. -/
theorem of_forall {k : Nat} (h : ∀ t ∈ ts, t.phase.Within k) :
    Task.AllWithin ts (k * ts.length) := by
  induction ts with
  | nil => trivial
  | cons first ts ih =>
      refine ⟨k, Nat.le_mul_of_pos_right k (Nat.succ_pos _), h first List.mem_cons_self, ?_⟩
      rw [List.length_cons, Nat.mul_succ, Nat.add_sub_cancel]
      exact ih fun t ht => h t (List.mem_cons_of_mem _ ht)

end Task.AllWithin

namespace Machine.Sound

variable {m : Machine C S B A} {n : Nat}

/-- To give a call what it waits for leaves no more to do, and less if the call can go on. -/
theorem within_visit (g : Guard C S B) (hWithin : Task.AllWithin m.tasks n) (id : TaskId) :
    ∃ k ≤ n, Task.AllWithin (m.run g (Guard.visits [id])).tasks k ∧
      ((∃ t : Task C A, m.tasks[id]? = some t ∧ t.CanGoOn id m.floor.gates) → k < n) := by
  cases ht : m.tasks[id]? with
  | none =>
      rw [Machine.visit_of_none g ht]
      exact ⟨n, Nat.le_refl n, hWithin, nofun⟩
  | some t =>
      obtain ⟨u, hTasks, hFalls⟩ := Machine.visit g ht
      obtain ⟨k, hLe, hLeft, hLt⟩ := hWithin.set ht hFalls
      rw [hTasks]
      refine ⟨k, hLe, hLeft, ?_⟩
      rintro ⟨_, hSame, hCan⟩
      cases hSame
      exact hLt hCan

theorem within_visits (g : Guard C S B) (hWithin : Task.AllWithin m.tasks n)
    (ids : List TaskId) :
    ∃ k ≤ n, Task.AllWithin (m.run g (Guard.visits ids)).tasks k := by
  induction ids generalizing m n with
  | nil => exact ⟨n, Nat.le_refl n, hWithin⟩
  | cons id ids ih =>
      obtain ⟨k, hLe, hLeft, _⟩ := within_visit g hWithin id
      obtain ⟨k', hLe', hEnd⟩ := ih hLeft
      rw [Machine.run_visits_cons]
      exact ⟨k', Nat.le_trans hLe' hLe, hEnd⟩

/-- Less is left after a round in which a call comes up that can go on. -/
theorem within_round (h : m.Sound) (g : Guard C S B) (hWithin : Task.AllWithin m.tasks n)
    {j : TaskId} {t : Task C A} (ht : m.tasks[j]? = some t) (hCan : t.CanGoOn j m.floor.gates)
    {ids : List TaskId} (hj : j ∈ ids) :
    ∃ k < n, Task.AllWithin (m.run g (Guard.visits ids)).tasks k := by
  induction ids generalizing m n with
  | nil => cases hj
  | cons id ids ih =>
      obtain ⟨k, hLe, hLeft, hLt⟩ := within_visit g hWithin id
      rw [Machine.run_visits_cons]
      by_cases hId : j = id
      · subst id
        obtain ⟨k', hLe', hEnd⟩ := within_visits g hLeft ids
        exact ⟨k', Nat.lt_of_le_of_lt hLe' (hLt ⟨t, ht, hCan⟩), hEnd⟩
      · obtain ⟨hThere, hStill⟩ := h.canGoOn_visit g hId ht hCan
        have hLater := (List.mem_cons.1 hj).resolve_left hId
        obtain ⟨k', hLt', hEnd⟩ := ih (h.visits g [id]) hLeft hThere hStill hLater
        exact ⟨k', Nat.lt_of_lt_of_le hLt' hLe, hEnd⟩

theorem length_visits (g : Guard C S B) (m : Machine C S B A) (ids : List TaskId) :
    (m.run g (Guard.visits ids)).tasks.length = m.tasks.length := by
  induction ids generalizing m with
  | nil => rfl
  | cons id ids ih =>
      rw [Machine.run_visits_cons, ih]
      cases ht : m.tasks[id]? with
      | none => rw [Machine.visit_of_none g ht]
      | some t =>
          obtain ⟨u, hTasks, _⟩ := Machine.visit g ht
          rw [hTasks, List.length_set]

/-- Calls under way come to their ends if each gets its turn in every round, in whatever order. -/
theorem finish (h : m.Sound) (g : Guard C S B) (hWithin : Task.AllWithin m.tasks n)
    {rounds : List (List TaskId)} (hEnough : n ≤ rounds.length)
    (hAll : ∀ round ∈ rounds, ∀ id < m.tasks.length, id ∈ round) :
    ∀ t ∈ (m.run g (Guard.visits rounds.flatten)).tasks, t.HasEnded := by
  induction rounds generalizing m n with
  | nil =>
      obtain rfl := Nat.le_zero.1 hEnough
      exact fun t => hWithin.hasEnded
  | cons round rounds ih =>
      have hSound := h.visits g round
      have hLater : ∀ later ∈ rounds, ∀ id < (m.run g (Guard.visits round)).tasks.length,
          id ∈ later := by
        rw [length_visits]
        exact fun later hMem => hAll later (List.mem_cons_of_mem _ hMem)
      rw [List.flatten_cons, Machine.run_visits_append]
      -- Until all have ended, one of them can go on and comes up in the round, so less is left.
      by_cases hEnded : ∀ t ∈ m.tasks, t.HasEnded
      · obtain ⟨k, hLe, hLeft⟩ := within_visits g (Task.AllWithin.of_hasEnded hEnded) round
        exact ih hSound hLeft (Nat.le_trans hLe (Nat.zero_le _)) hLater
      · simp only [not_forall] at hEnded
        obtain ⟨t, hMem, hOpen⟩ := hEnded
        obtain ⟨id, ht⟩ := List.mem_iff_getElem?.1 hMem
        obtain ⟨j, u, hu, hCan⟩ := h.exists_canGoOn ht hOpen
        have hRound := hAll round List.mem_cons_self j (List.getElem?_eq_some_iff.1 hu).1
        obtain ⟨k, hLt, hLeft⟩ := h.within_round g hWithin hu hCan hRound
        refine ih hSound hLeft ?_ hLater
        rw [List.length_cons] at hEnough
        omega

end Machine.Sound

/-- More than is left of any call at its start, as no call waits more than six times. -/
def enoughRounds : Nat :=
  13

/-- Calls under way keep to the order of gates, and none of them waits more often than a call can,
whatever has happened. -/
theorem planned_sound_within (g : Guard C S B) (x : Scene C S B)
    (events : List (Event S B (Present × Call))) :
    let m : Machine C S B Reply :=
      Machine.run g { floor := { scene := x } } (events.map (Event.planned g.joined))
    m.Sound ∧ ∀ t ∈ m.tasks, t.phase.Within enoughRounds := by
  intro m
  constructor
  · refine (Machine.Sound.start x).run g _ fun plan hMem => ?_
    obtain ⟨present, call, rfl⟩ := Event.exists_call_of_planned hMem
    exact call.plan_orderly present g.joined
  · refine Machine.within_run g (by simp) fun plan hMem => ?_
    obtain ⟨present, call, rfl⟩ := Event.exists_call_of_planned hMem
    exact ⟨6, call.plan_within present g.joined, by decide⟩

end Tollgate.Guard
