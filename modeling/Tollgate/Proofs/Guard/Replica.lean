import Mathlib.Tactic.SplitIfs
import Tollgate.Proofs.Guard.Routes
import Tollgate.Proofs.Guard.Settings
import Tollgate.Proofs.Routing.Registrations
import Tollgate.Store.Pair

/-!
A guard reads from the replica and from nowhere else. Every question of every call is routed there
and finds a connection; so no other connection is asked, whatever it would answer, and a call fails
for want of a bind only if the replica itself or the counter store told it of such a failure.
-/

namespace Tollgate

/-- What the store of a client answers to a command, if there is one and it answers in time. -/
def Counter.Client.answer? {B : Type} (c : Counter.Client B) (cmd : Counter.Command) (counts : B) :
    Option (Outcome cmd.Answer) :=
  c.backend.bind fun b => (b.call c.timeoutMs cmd counts).1

/-- A client adds no unknown bind of its own to what its store answers. -/
theorem Counter.Client.answer?_of_lacks {B : Type} {c : Counter.Client B} {cmd : Counter.Command}
    {counts : B} {name : String} (h : Lacks (c.run cmd counts).1 name) :
    c.answer? cmd counts = some (.error (.unknownBind name)) := by
  unfold Lacks run runUnder at h
  unfold answer?
  cases hBackend : c.backend with
  | none =>
      rw [hBackend] at h
      cases h
  | some b =>
      simp only [hBackend] at h
      rw [Option.bind_some]
      cases hAnswer : (b.call c.timeoutMs cmd counts).1 with
      | none =>
          simp only [hAnswer, Option.getD_none, FailurePolicy.judge] at h
          split_ifs at h <;> cases h
      | some answer =>
          simp only [hAnswer, Option.getD_some] at h
          cases answer with
          | ok a => cases h
          | error e =>
              simp only [FailurePolicy.judge] at h
              split_ifs at h
              · cases h
              · cases h
                rfl

namespace Guard

variable {C S B A D : Type}

/-- Whoever can tell a call of a failure. -/
inductive Source (C : Type)
  | connection (c : C)
  | counterStore

/-- A failure that a call is told of. -/
structure Complaint (C : Type) where
  id : TaskId
  source : Source C
  failure : Failure

/-- The complaints with what an outcome tells a call. -/
def complain (id : TaskId) (source : Source C) (complaints : List (Complaint C)) :
    Outcome A → List (Complaint C)
  | .ok _ => complaints
  | .error failure => ⟨id, source, failure⟩ :: complaints

/-- The complaints with those of the counter store while a call goes on from a plan. -/
def complaints (g : Guard C S B) (id : TaskId) :
    Plan A → Option (Pass GateKey) → Floor C S B → List (Complaint C) → List (Complaint C)
  | .done _, _, _, past => past
  | .note n rest, holds, f, past =>
    g.complaints id rest holds { f with scene := f.scene.note n } past
  | .look c s next, holds, f, past =>
    let (fact, scene) := f.scene.look c s
    g.complaints id (next fact) holds { f with scene := scene } past
  | .enter c s rest, _, f, past =>
    let (lock, gates) := f.gates.join (c, s) id
    let f := { f with gates := gates }
    if gates.isHeldBy lock id then g.complaints id rest (some ⟨(c, s), lock⟩) f past else past
  | .leave _ _ rest, holds, f, past => g.complaints id rest none (f.release holds) past
  | .ask bind _ _ next, holds, f, past =>
    match g.binds.runOnBind bind .ok with
    | .error e => g.complaints id (next (.error e)) holds f past
    | .ok (_ : C) => past
  | .learn c s fact rest, holds, f, past =>
    g.complaints id rest holds { f with scene := f.scene.learn c s fact } past
  | .count cmd next, holds, f, past =>
    let (outcome, scene) := f.scene.count g.counters cmd
    let answer? := g.counters.answer? cmd f.scene.counts
    g.complaints id (next outcome) holds { f with scene := scene }
      (answer?.elim past (complain id .counterStore past))

/-- The complaints with those of a turn of a call. -/
def turnComplaints (g : Guard C S B) (id : TaskId) (t : Task C A) (f : Floor C S B)
    (past : List (Complaint C)) : List (Complaint C) :=
  match t.phase with
  | .ready plan => g.complaints id plan t.holds f past
  | .queued pass rest =>
    if f.gates.isHeldBy pass.lock id then
      g.complaints id rest (some pass) { f with woken := f.woken.filter (· ≠ id) } past
    else past
  | .asking .. | .finished _ | .dropped => past

/-- The complaints with that of the answer to a call, if it is one. -/
def answerComplaints (g : Guard C S B) (id : TaskId) (t : Task C A) (f : Floor C S B)
    (past : List (Complaint C)) : List (Complaint C) :=
  match t.phase with
  | .asking connection q s _ =>
    complain id (.connection connection) past (f.scene.ask g.authority connection q s).1
  | _ => past

namespace Machine

/-- The complaints with those of one thing that happens. -/
def stepComplaints (g : Guard C S B) (m : Machine C S B A) (past : List (Complaint C)) :
    Event S B (Plan A) → List (Complaint C)
  | .turn id => (m.tasks[id]?).elim past fun t => g.turnComplaints id t m.floor past
  | .answer id => (m.tasks[id]?).elim past fun t => g.answerComplaints id t m.floor past
  | _ => past

/-- All that calls are told of failures while things happen one after another. -/
def complaints (g : Guard C S B) (m : Machine C S B A) (past : List (Complaint C)) :
    List (Event S B (Plan A)) → List (Complaint C)
  | [] => past
  | event :: events => (m.step g event).complaints g (m.stepComplaints g past event) events

end Machine

/-- The replica or the counter store told a call that there is no bind of that name. -/
def Heard (g : Guard C S B) (id : TaskId) (past : List (Complaint C)) (name : String) : Prop :=
  ⟨id, .connection g.replica, .unknownBind name⟩ ∈ past ∨
    ⟨id, .counterStore, .unknownBind name⟩ ∈ past

theorem Heard.mono {g : Guard C S B} {id : TaskId} {past later : List (Complaint C)}
    {name : String} (h : g.Heard id past name) (hLater : past ⊆ later) : g.Heard id later name :=
  h.imp (@hLater _) (@hLater _)

theorem subset_complain (id : TaskId) (source : Source C) (past : List (Complaint C))
    (outcome : Outcome A) : past ⊆ complain id source past outcome := by
  cases outcome with
  | ok a => exact List.Subset.refl _
  | error e => exact List.subset_cons_self _ _

/-- The guard over connections that answer otherwise. -/
def withAuthority (g : Guard C S B) (authority : C → Authority S) : Guard C S B :=
  { g with authority }

/-- A question was put to a connection. -/
def Scene.Asked (x : Scene C S B) (connection : C) : Prop :=
  ∃ q s time outcome, .asked connection q s time outcome ∈ x.deeds

/-- A call under way that asks only the replica, and that fails for want of a bind only if this is
known or it is told so. -/
def Phase.ReadsReplica (g : Guard C S B) (known : String → Prop) : Phase C A → Prop
  | .ready plan | .queued _ plan => plan.ReadsReplica known
  | .asking connection _ _ next =>
    connection = g.replica ∧
      ∀ outcome, (next outcome).ReadsReplica fun name => known name ∨ Lacks outcome name
  | .finished outcome => ∀ name, Lacks outcome name → known name
  | .dropped => True

section Calls

variable {g : Guard C S B} {id : TaskId} {past : List (Complaint C)}

theorem Phase.ReadsReplica.mono {phase : Phase C A} {known more : String → Prop}
    (h : phase.ReadsReplica g known) (hMore : ∀ name, known name → more name) :
    phase.ReadsReplica g more := by
  cases phase with
  | ready plan | queued pass plan => exact Plan.ReadsReplica.mono h hMore
  | asking connection q s next =>
      exact ⟨h.1, fun outcome => (h.2 outcome).mono fun name => Or.imp_left (hMore name)⟩
  | finished outcome => exact fun name hLacks => hMore name (h name hLacks)
  | dropped => trivial

/-- What the counter store tells a call, the call has heard. -/
theorem heard_of_count {cmd : Counter.Command} {counts : B} {name : String}
    (h : g.Heard id past name ∨ Lacks (g.counters.run cmd counts).1 name) :
    g.Heard id ((g.counters.answer? cmd counts).elim past (complain id .counterStore past))
      name := by
  rcases h with hHeard | hLacks
  · refine hHeard.mono ?_
    cases g.counters.answer? cmd counts with
    | none => exact List.Subset.refl _
    | some answer => exact subset_complain _ _ _ _
  · rw [Counter.Client.answer?_of_lacks hLacks]
    exact Or.inr List.mem_cons_self

/-- A call that goes on stays one that reads only from the replica, by what it has heard then. -/
theorem proceed_readsReplica {p : Plan A} (holds : Option (Pass GateKey)) (f : Floor C S B)
    (h : p.ReadsReplica (g.Heard id past)) :
    (g.proceed id p holds f).1.phase.ReadsReplica g
      (g.Heard id (g.complaints id p holds f past)) := by
  induction p generalizing holds f past with
  | done outcome => exact h
  | note n rest ih => exact ih _ _ h
  | look c s next ih => exact ih _ _ _ (h _)
  | enter c s rest ih =>
      simp only [proceed, complaints]
      split_ifs
      · exact ih _ _ h
      · exact h
  | leave c s rest ih => exact ih _ _ h
  | ask bind q s next ih =>
      obtain ⟨rfl, hNext⟩ := h
      simp only [proceed, complaints, runOnBind_replica]
      exact ⟨rfl, hNext⟩
  | learn c s fact rest ih => exact ih _ _ h
  | count cmd next ih => exact ih _ _ _ ((h _).mono fun name => heard_of_count)

theorem subset_complaints (g : Guard C S B) (id : TaskId) (p : Plan A)
    (holds : Option (Pass GateKey)) (f : Floor C S B) (past : List (Complaint C)) :
    past ⊆ g.complaints id p holds f past := by
  induction p generalizing holds f past with
  | done outcome => exact List.Subset.refl _
  | note n rest ih => exact ih _ _ _
  | look c s next ih => exact ih _ _ _ _
  | enter c s rest ih =>
      simp only [complaints]
      split_ifs
      · exact ih _ _ _
      · exact List.Subset.refl _
  | leave c s rest ih => exact ih _ _ _
  | ask bind q s next ih =>
      simp only [complaints]
      split
      · exact ih _ _ _ _
      · exact List.Subset.refl _
  | learn c s fact rest ih => exact ih _ _ _
  | count cmd next ih =>
      refine List.Subset.trans ?_ (ih _ _ _ _)
      cases g.counters.answer? cmd f.scene.counts with
      | none => exact List.Subset.refl _
      | some answer => exact subset_complain _ _ _ _

/-- A call that goes on puts no question: it waits before that. -/
theorem asked_of_proceed (p : Plan A) (holds : Option (Pass GateKey)) (f : Floor C S B)
    {connection : C} (h : (g.proceed id p holds f).2.scene.Asked connection) :
    f.scene.Asked connection := by
  have hNote {x : Scene C S B} {n : Note} (h : (x.note n).Asked connection) :
      x.Asked connection := by
    obtain ⟨q, s, time, outcome, hMem⟩ := h
    exact ⟨q, s, time, outcome, (List.mem_cons.1 hMem).resolve_left nofun⟩
  induction p generalizing holds f with
  | done outcome => exact h
  | note n rest ih => exact hNote (ih _ _ h)
  | look c s next ih => exact ih _ _ { f with scene := (f.scene.look c s).2 } h
  | enter c s rest ih =>
      simp only [proceed] at h
      split_ifs at h
      · exact ih _ { f with gates := (f.gates.join (c, s) id).2 } h
      · exact h
  | leave c s rest ih =>
      have hBefore := ih _ _ h
      rwa [Floor.scene_release] at hBefore
  | ask bind q s next ih =>
      simp only [proceed] at h
      split at h
      · exact ih _ _ _ h
      · exact h
  | learn c s fact rest ih => exact ih _ { f with scene := f.scene.learn c s fact } h
  | count cmd next ih =>
      exact ih _ _ { f with scene := (f.scene.count g.counters cmd).2 } h

/-- What connections would answer plays no part while a call goes on. -/
theorem proceed_withAuthority (g : Guard C S B) (authority : C → Authority S) (id : TaskId)
    (p : Plan A) (holds : Option (Pass GateKey)) (f : Floor C S B) :
    (g.withAuthority authority).proceed id p holds f = g.proceed id p holds f := by
  induction p generalizing holds f with
  | done outcome => rfl
  | note n rest ih => exact ih _ _
  | look c s next ih => exact ih _ _ _
  | enter c s rest ih =>
      simp only [proceed]
      split_ifs
      · exact ih _ _
      · rfl
  | leave c s rest ih => exact ih _ _
  | ask bind q s next ih =>
      simp only [proceed, withAuthority]
      cases g.binds.runOnBind bind Except.ok with
      | error e => exact ih _ _ _
      | ok connection => rfl
  | learn c s fact rest ih => exact ih _ _
  | count cmd next ih => exact ih _ _ _

/-- What becomes of a call in a turn: it reads only from the replica, and puts no question yet. -/
theorem turn_readsReplica {t : Task C A} (f : Floor C S B)
    (h : t.phase.ReadsReplica g (g.Heard id past)) :
    (g.turn id t f).1.phase.ReadsReplica g (g.Heard id (g.turnComplaints id t f past)) := by
  obtain ⟨phase, holds⟩ := t
  cases phase with
  | ready plan => exact proceed_readsReplica holds f h
  | queued pass rest =>
      simp only [turn, turnComplaints]
      split_ifs
      · exact proceed_readsReplica _ _ h
      · exact h
  | asking connection q s next | finished outcome | dropped => exact h

theorem subset_turnComplaints (t : Task C A) (f : Floor C S B) :
    past ⊆ g.turnComplaints id t f past := by
  unfold turnComplaints
  split
  · exact subset_complaints _ _ _ _ _ _
  · split
    · exact subset_complaints _ _ _ _ _ _
    · exact List.Subset.refl _
  · exact List.Subset.refl _
  · exact List.Subset.refl _
  · exact List.Subset.refl _

theorem asked_of_turn (t : Task C A) (f : Floor C S B) {connection : C}
    (h : (g.turn id t f).2.scene.Asked connection) : f.scene.Asked connection := by
  obtain ⟨phase, holds⟩ := t
  cases phase with
  | ready plan => exact asked_of_proceed plan holds f h
  | queued pass rest =>
      simp only [turn] at h
      split_ifs at h
      · exact asked_of_proceed rest (some pass) { f with woken := f.woken.filter (· ≠ id) } h
      · exact h
  | asking connection q s next | finished outcome | dropped => exact h

theorem turn_withAuthority (g : Guard C S B) (authority : C → Authority S) (id : TaskId)
    (t : Task C A) (f : Floor C S B) : (g.withAuthority authority).turn id t f = g.turn id t f := by
  obtain ⟨phase, holds⟩ := t
  cases phase with
  | ready plan => exact proceed_withAuthority g authority id plan holds f
  | queued pass rest => simp only [turn, proceed_withAuthority]
  | asking connection q s next | finished outcome | dropped => rfl

/-- The replica answers a call, and the call has heard of the failure if it was one. -/
theorem answer_readsReplica {t : Task C A} (f : Floor C S B)
    (h : t.phase.ReadsReplica g (g.Heard id past)) :
    (g.answer t f).1.phase.ReadsReplica g (g.Heard id (g.answerComplaints id t f past)) := by
  obtain ⟨phase, holds⟩ := t
  cases phase with
  | asking connection q s next =>
      obtain ⟨rfl, hNext⟩ := h
      refine (hNext _).mono ?_
      rintro name (hHeard | hLacks)
      · exact hHeard.mono (subset_complain _ _ _ _)
      · simp only [answerComplaints, Scene.ask]
        rw [hLacks]
        exact Or.inl List.mem_cons_self
  | ready plan | queued pass rest | finished outcome | dropped => exact h

theorem subset_answerComplaints (t : Task C A) (f : Floor C S B) :
    past ⊆ g.answerComplaints id t f past := by
  unfold answerComplaints
  split
  · exact subset_complain _ _ _ _
  · exact List.Subset.refl _

theorem asked_of_answer {t : Task C A} {f : Floor C S B} {known : String → Prop}
    (hTask : t.phase.ReadsReplica g known) {connection : C}
    (h : (g.answer t f).2.scene.Asked connection) :
    f.scene.Asked connection ∨ connection = g.replica := by
  obtain ⟨phase, holds⟩ := t
  cases phase with
  | asking other q s next =>
      obtain ⟨rfl, _⟩ := hTask
      obtain ⟨q, s, time, outcome, hMem⟩ := h
      rcases List.mem_cons.1 hMem with hNew | hOld
      · cases hNew
        exact Or.inr rfl
      · exact Or.inl ⟨q, s, time, outcome, hOld⟩
  | ready plan | queued pass rest | finished outcome | dropped => exact Or.inl h

theorem answer_withAuthority {authority : C → Authority S}
    (hReplica : authority g.replica = g.authority g.replica) {t : Task C A} (f : Floor C S B)
    {known : String → Prop} (hTask : t.phase.ReadsReplica g known) :
    (g.withAuthority authority).answer t f = g.answer t f := by
  obtain ⟨phase, holds⟩ := t
  cases phase with
  | asking connection q s next =>
      obtain ⟨rfl, _⟩ := hTask
      simp only [answer, Scene.ask, withAuthority, hReplica]
  | ready plan | queued pass rest | finished outcome | dropped => rfl

end Calls

/-- All calls under way read only from the replica, by what each has heard, and so have all calls
before. -/
structure Machine.ReadsReplica (g : Guard C S B) (m : Machine C S B A)
    (past : List (Complaint C)) : Prop where
  phases : ∀ (id : TaskId) (t : Task C A), m.tasks[id]? = some t →
    t.phase.ReadsReplica g (g.Heard id past)
  asked : ∀ connection, m.floor.scene.Asked connection → connection = g.replica

namespace Machine.ReadsReplica

variable {g : Guard C S B} {m : Machine C S B A} {past : List (Complaint C)}

/-- A change of one call keeps this if it does for that call. -/
theorem update (h : m.ReadsReplica g past) {id : TaskId} {t : Task C A}
    (ht : m.tasks[id]? = some t) {act : Task C A → Floor C S B → Task C A × Floor C S B}
    {later : List (Complaint C)} (hLater : past ⊆ later)
    (hTask : (act t m.floor).1.phase.ReadsReplica g (g.Heard id later))
    (hAsked : ∀ connection, (act t m.floor).2.scene.Asked connection →
      m.floor.scene.Asked connection ∨ connection = g.replica) :
    (m.update id act).ReadsReplica g later where
  phases j u hu := by
    rw [Machine.getElem?_update ht] at hu
    split_ifs at hu with hSame
    · cases hu
      subst j
      exact hTask
    · exact (h.phases j u hu).mono fun name hHeard => hHeard.mono hLater
  asked connection hConnection := by
    rw [Machine.floor_update ht] at hConnection
    rcases hAsked connection hConnection with hBefore | rfl
    · exact h.asked connection hBefore
    · rfl

/-- What happens around calls puts no questions. -/
theorem onScene (h : m.ReadsReplica g past) (change : Scene C S B → Scene C S B)
    (hChange : ∀ connection, (change m.floor.scene).Asked connection →
      m.floor.scene.Asked connection) : (m.onScene change).ReadsReplica g past where
  phases := h.phases
  asked connection hAsked := h.asked connection (hChange connection hAsked)

theorem begin (h : m.ReadsReplica g past) {plan : Plan A}
    (hPlan : ∀ known, plan.ReadsReplica known) :
    ReadsReplica g { m with tasks := m.tasks ++ [{ phase := .ready plan }] } past where
  phases id t ht := by
    by_cases hOld : id < m.tasks.length
    · rw [List.getElem?_append_left hOld] at ht
      exact h.phases id t ht
    · rw [List.getElem?_append_right (Nat.not_lt.1 hOld)] at ht
      obtain rfl := List.mem_singleton.1 (List.mem_of_getElem? ht)
      exact hPlan _
  asked := h.asked

theorem step (h : m.ReadsReplica g past) (event : Event S B (Plan A))
    (hStart : ∀ plan, event = .start plan → ∀ known, plan.ReadsReplica known) :
    (m.step g event).ReadsReplica g (m.stepComplaints g past event) := by
  have hForgot {x : Scene C S B} {memory : Memory} {s : Option ServiceId} {connection : C}
      (hAsked : Scene.Asked { x with memory, deeds := .forgot s :: x.deeds } connection) :
      x.Asked connection := by
    obtain ⟨q, r, time, outcome, hMem⟩ := hAsked
    exact ⟨q, r, time, outcome, (List.mem_cons.1 hMem).resolve_left nofun⟩
  cases event with
  | start plan => exact h.begin (hStart plan rfl)
  | turn id =>
      simp only [Machine.step, stepComplaints]
      cases ht : m.tasks[id]? with
      | none => rwa [update_of_none ht]
      | some t =>
          exact h.update ht (subset_turnComplaints t m.floor)
            (turn_readsReplica m.floor (h.phases id t ht))
            fun connection hAsked => Or.inl (asked_of_turn t m.floor hAsked)
  | answer id =>
      simp only [Machine.step, stepComplaints]
      cases ht : m.tasks[id]? with
      | none => rwa [update_of_none ht]
      | some t =>
          exact h.update ht (subset_answerComplaints t m.floor)
            (answer_readsReplica m.floor (h.phases id t ht))
            fun connection => asked_of_answer (h.phases id t ht)
  | drop id =>
      simp only [Machine.step, stepComplaints]
      cases ht : m.tasks[id]? with
      | none => rwa [update_of_none ht]
      | some t =>
          refine h.update ht (List.Subset.refl _) ?_ fun connection hAsked => Or.inl ?_
          · obtain ⟨phase, holds⟩ := t
            cases phase with
            | finished outcome => exact h.phases id _ ht
            | ready plan | queued pass rest | asking connection q s next | dropped => trivial
          · rwa [scene_drop] at hAsked
  | invalidate s => exact h.onScene (·.invalidate s) fun _ => hForgot
  | clear => exact h.onScene (·.clear) fun _ => hForgot
  | advance span => exact h.onScene (·.advance span) fun _ hAsked => hAsked
  | changeStores change =>
      exact h.onScene (fun x => { x with stores := change x.stores }) fun _ hAsked => hAsked
  | changeCounts change =>
      exact h.onScene (fun x => { x with counts := change x.counts }) fun _ hAsked => hAsked

/-- One thing that happens does not depend on what connections but the replica would answer. -/
theorem step_withAuthority (h : m.ReadsReplica g past) {authority : C → Authority S}
    (hReplica : authority g.replica = g.authority g.replica) (event : Event S B (Plan A)) :
    m.step (g.withAuthority authority) event = m.step g event := by
  have hTurn (id : TaskId) :
      (g.withAuthority authority).turn id = (g.turn id : Task C A → _ → _) :=
    funext fun t => funext fun f => turn_withAuthority g authority id t f
  cases event with
  | turn id => simp only [Machine.step, hTurn]
  | answer id =>
      simp only [Machine.step, Machine.update]
      cases ht : m.tasks[id]? with
      | none => rfl
      | some t => simp only [answer_withAuthority hReplica m.floor (h.phases id t ht)]
  | start | drop | invalidate | clear | advance | changeStores | changeCounts => rfl

theorem run (h : m.ReadsReplica g past) (events : List (Event S B (Plan A)))
    (hStart : ∀ plan, .start plan ∈ events → ∀ known, plan.ReadsReplica known) :
    (m.run g events).ReadsReplica g (m.complaints g past events) ∧
      ∀ authority, authority g.replica = g.authority g.replica →
        m.run (g.withAuthority authority) events = m.run g events := by
  induction events generalizing m past with
  | nil => exact ⟨h, fun _ _ => rfl⟩
  | cons event events ih =>
      have hFirst : ∀ plan, event = .start plan → ∀ known, plan.ReadsReplica known := by
        rintro plan rfl
        exact hStart plan List.mem_cons_self
      have hLater := ih (h.step event hFirst) fun plan hMem =>
        hStart plan (List.mem_cons_of_mem _ hMem)
      refine ⟨hLater.1, fun authority hReplica => ?_⟩
      have hRest := hLater.2 authority hReplica
      unfold Machine.run at hRest ⊢
      rw [List.foldl_cons, List.foldl_cons, h.step_withAuthority hReplica event, hRest]

end Machine.ReadsReplica

/-- All that calls are told of failures in a run. -/
def Trial.complaints (g : Guard C S B) (t : Trial S B) : List (Complaint C) :=
  let scene := opening t.settings t.clock t.stores t.counts
  let start : Machine C S B Reply := { floor := { scene, gates := { table := .empty } } }
  start.complaints g [] (t.events.map (Event.planned g.joined))

/-- A guard reads from one connection and from no other, in all its runs: it hands that connection
to whoever asks to read; every question goes there; what other connections would answer, or do when
asked, is never found out; and a call fails for want of a bind only if it was told of that by this
connection or by the counter store. -/
structure ReadsOnly (g : Guard C S B) (replica : C) : Prop where
  routes : ∀ {D : Type} (query : C → Outcome D), g.binds.withReadReplica query = query replica
  asks : ∀ (t : Trial S B) connection,
    (t.machine g).floor.scene.Asked connection → connection = replica
  spares : ∀ authority, authority replica = g.authority replica →
    ∀ t : Trial S B, t.machine (g.withAuthority authority) = t.machine g
  fails : ∀ (t : Trial S B) (id : TaskId) name,
    t.outcome? g id = some (.error (.unknownBind name)) →
    ⟨id, .connection replica, .unknownBind name⟩ ∈ t.complaints g ∨
      ⟨id, .counterStore, .unknownBind name⟩ ∈ t.complaints g

/-- Every guard reads only from its replica. -/
theorem readsOnly_replica (g : Guard C S B) : g.ReadsOnly g.replica := by
  have hRun (t : Trial S B) :
      (t.machine g).ReadsReplica g (t.complaints g) ∧
        ∀ authority, authority g.replica = g.authority g.replica →
          t.machine (g.withAuthority authority) = t.machine g := by
    have hStart : Machine.ReadsReplica (A := Reply) g { floor := {
        scene := opening t.settings t.clock t.stores t.counts
        gates := { table := .empty } } } [] :=
      ⟨nofun, fun _ hAsked => by obtain ⟨_, _, _, _, hMem⟩ := hAsked; cases hMem⟩
    refine hStart.run _ fun plan hMem => ?_
    obtain ⟨present, call, rfl⟩ := Event.exists_call_of_planned hMem
    exact call.plan_readsReplica present g.joined
  constructor
  case routes => exact g.runOnBind_replica
  case asks => exact fun t => (hRun t).1.asked
  case spares => exact fun authority hReplica t => (hRun t).2 authority hReplica
  case fails =>
    intro t id name hOutcome
    obtain ⟨u, hu, hEnd⟩ := Option.bind_eq_some_iff.1 hOutcome
    have hPhase := (hRun t).1.phases id u hu
    obtain ⟨phase, holds⟩ := u
    cases phase with
    | finished outcome =>
        cases hEnd
        exact hPhase name rfl
    | ready _ | queued _ _ | asking _ _ _ _ | dropped => cases hEnd

theorem get?_replicaBind (g : Guard C S B) :
    g.binds.connections.get? replicaBind = some g.replica :=
  (Option.some_get _).symm

section Making

variable {binds : Binds C} {authority : C → Authority S} {joined : Bool}
  {counters : Counter.Client B} {metrics : Metrics.Sink}

theorem binds_of_new? {g : Guard C S B}
    (h : Guard.new? binds authority joined counters metrics = .ok g) : g.binds = binds := by
  unfold Guard.new? at h
  split_ifs at h
  cases h
  rfl

/-- A guard is made exactly over connections one of which is to be read from. -/
theorem exists_new?_iff :
    (∃ g, Guard.new? binds authority joined counters metrics = .ok g) ↔
      ∃ replica, binds.connections.get? replicaBind = some replica := by
  constructor
  · rintro ⟨g, hMade⟩
    rw [← binds_of_new? hMade]
    exact ⟨_, get?_replicaBind g⟩
  · rintro ⟨replica, hReplica⟩
    have hContains : binds.contains replicaBind := by
      rw [Binds.contains, Table.contains, hReplica]
      rfl
    exact ⟨_, dif_pos hContains⟩

theorem new?_of_none (h : binds.connections.get? replicaBind = none) :
    Guard.new? binds authority joined counters metrics = .error (.unknownBind replicaBind) := by
  refine dif_neg ?_
  rw [Binds.contains, Table.contains, h]
  nofun

end Making

/-- Reading never touches the default connection. A guard can be made exactly if a connection is
registered to read from, and then it reads only from the one that was registered last. -/
theorem reads_only_replica (primary : C) (registrations : List (Binds.Registration C))
    (authority : C → Authority S) (joined : Bool) (counters : Counter.Client B)
    (metrics : Metrics.Sink) :
    let made := Guard.new? (.built primary registrations) authority joined counters metrics
    let registered? := Binds.lastRegistered? primary registrations replicaBind
    ((∃ g, made = .ok g) ↔ ∃ replica, registered? = some replica) ∧
      (registered? = none → made = .error (.unknownBind replicaBind)) ∧
      ∀ g, made = .ok g → ∃ replica, registered? = some replica ∧ g.ReadsOnly replica := by
  intro made registered?
  have hRegistered :
      registered? = (Binds.built primary registrations).connections.get? replicaBind :=
    (Binds.get?_built _ _ _).symm
  rw [hRegistered]
  refine ⟨exists_new?_iff, new?_of_none, fun g hMade => ⟨g.replica, ?_, g.readsOnly_replica⟩⟩
  rw [← binds_of_new? hMade]
  exact g.get?_replicaBind

/-- A replica that answers with a failure of this very kind: the call fails with it, having been
told by the replica, although a default connection is there. -/
theorem reads_only_replica_faulty :
    let binds : Binds Side := .built .primary [.replica .replica]
    let faulty : StagedStore := {
      store := { label := "replica" }
      faults := [some (.unknownBind "b")] }
    let t : Trial StorePair Unit := {
      settings := {}
      stores := { replica := faulty }
      counts := ()
      events := [.start ({ now := .midnight .epoch }, .isActive default), .turn 0, .answer 0,
        .turn 0] }
    ∃ g : Guard Side StorePair Unit,
      Guard.new? binds StorePair.fetch true .disabled .disabled = .ok g ∧ g.ReadsOnly .replica ∧
        t.outcome? g 0 = some (.error (.unknownBind "b")) ∧
        (⟨0, .connection .replica, .unknownBind "b"⟩ ∈ t.complaints g ∨
          ⟨0, .counterStore, .unknownBind "b"⟩ ∈ t.complaints g) := by
  intro binds faulty t
  have hContains : binds.contains replicaBind := by decide +kernel
  have hRegistered : Binds.lastRegistered? Side.primary [.replica .replica] replicaBind =
      some .replica := by decide +kernel
  obtain ⟨_, _, hMade⟩ := reads_only_replica Side.primary [.replica .replica] StorePair.fetch true
    (.disabled : Counter.Client Unit) .disabled
  obtain ⟨connection, hReplica, hReads⟩ := hMade _ (dif_pos hContains)
  obtain rfl := Option.some.inj (hRegistered.symm.trans hReplica)
  have hFails : t.outcome? ⟨binds, StorePair.fetch, true, .disabled, .disabled, hContains⟩ 0 =
      some (.error (.unknownBind "b")) := by
    simp only [t, faulty]
    rfl
  exact ⟨_, dif_pos hContains, hReads, hFails, hReads.fails t 0 "b" hFails⟩

end Guard

end Tollgate
