import Tollgate.Guard.Schedule
import Tollgate.Proofs.Guard.Progress
import Tollgate.Proofs.Guard.Promises
import Tollgate.Proofs.Guard.Remembered

/-!
Why nobody can tell from the answers how a guard remembers. While the facts stand still and the
replica answers, the caches hold nothing but these facts, in whatever order calls take turns; so
every call comes to what the facts say, however long and how much is remembered. And every call does
come to its end.
-/

namespace Tollgate.Guard

variable {C S B A : Type}

/-- The replica answers with these facts as long as its state is one of those that hold them, and
asking it leaves it in such a state. -/
structure Steady (g : Guard C S B) (facts : Facts) (holds : S → Prop) : Prop where
  answers : ∀ stores, holds stores → ∀ q s,
    (g.authority g.replica q s stores).1 = .ok (facts.answer q s)
  stays : ∀ stores, holds stores → ∀ q s, holds (g.authority g.replica q s stores).2

/-- The caches and stores of a scene tell nothing but these facts. -/
structure Scene.Tells (facts : Facts) (holds : S → Prop) (x : Scene C S B) : Prop where
  remembers : ∀ c s (fact : c.Fact), x.Remembers c s fact → c.fact? (facts c s) = some fact
  stores : holds x.stores

namespace Scene.Tells

variable {facts : Facts} {holds : S → Prop} {x : Scene C S B}

theorem opening (settings : CachesSettings) (clock : Cache.Clock) {stores : S} (h : holds stores)
    (counts : B) :
    (Guard.opening settings clock stores counts : Scene C S B).Tells facts holds where
  remembers _ _ fact hRemembers := absurd hRemembers (not_remembers_opening _ _ _ _ fact)
  stores := h

theorem look (h : x.Tells facts holds) (c : Concern) (s : ServiceId) :
    (x.look c s).2.Tells facts holds where
  remembers d r fact hRemembers := h.remembers d r fact (remembers_of_look hRemembers)
  stores := h.stores

theorem learn (h : x.Tells facts holds) {c : Concern} {s : ServiceId} {fact : c.Fact}
    (hFact : c.fact? (facts c s) = some fact) : (x.learn c s fact).Tells facts holds where
  remembers d r other hRemembers := by
    by_cases hKey : (d, r) = (c, s)
    · cases hKey
      rw [eq_of_remembers_learn hRemembers]
      exact hFact
    · exact h.remembers d r other (remembers_of_learn hKey hRemembers)
  stores := h.stores

theorem invalidate (h : x.Tells facts holds) (s : ServiceId) :
    (x.invalidate s).Tells facts holds where
  remembers d r fact hRemembers := h.remembers d r fact (remembers_of_invalidate hRemembers).1
  stores := h.stores

theorem clear (h : x.Tells facts holds) : x.clear.Tells facts holds where
  remembers _ _ fact hRemembers := absurd hRemembers (not_remembers_clear fact)
  stores := h.stores

/-- What leaves the caches alone, and the stores as they should be, keeps a scene to the facts. -/
theorem of_memory {y : Scene C S B} (h : x.Tells facts holds) (hMemory : y.memory = x.memory)
    (hStores : holds y.stores) : y.Tells facts holds where
  remembers c s fact hRemembers := h.remembers c s fact (remembers_of_memory hMemory hRemembers)
  stores := hStores

/-- Whatever a look finds is a fact. -/
theorem fact_of_look (h : x.Tells facts holds) {c : Concern} {s : ServiceId} {fact : c.Fact}
    (hFound : (x.look c s).1 = some fact) : c.fact? (facts c s) = some fact := by
  rw [look_fst] at hFound
  exact h.remembers c s fact (remembers_of_live hFound)

end Scene.Tells

/-- A call under way that keeps its promise: it goes on from a plan that does, waits for an answer
of the replica, or has ended as it should. Whether it may be dropped is left open. -/
def Phase.Keeps (g : Guard C S B) (facts : Facts) (P : Outcome A → Prop) (mayDrop : Prop) :
    Phase C A → Prop
  | .ready plan | .queued _ plan => plan.Promises facts P
  | .asking connection q s next =>
    connection = g.replica ∧ (next (.ok (facts.answer q s))).Promises facts P
  | .finished outcome => P outcome
  | .dropped => mayDrop

section Calls

variable {g : Guard C S B} {facts : Facts} {holds : S → Prop} {P : Outcome A → Prop}
  {mayDrop : Prop}

theorem Phase.Keeps.mono {phase : Phase C A} {more : Prop} (h : phase.Keeps g facts P mayDrop)
    (hMore : mayDrop → more) : phase.Keeps g facts P more := by
  cases phase with
  | ready plan | queued pass plan | asking connection q s next | finished outcome => exact h
  | dropped => exact hMore h

/-- A call that goes on keeps its promise, and remembers only facts. -/
theorem proceed_keeps (id : TaskId) (p : Plan A) (pass : Option (Pass GateKey)) {f : Floor C S B}
    (hPlan : p.Promises facts P) (hScene : f.scene.Tells facts holds) :
    (g.proceed id p pass f).1.phase.Keeps g facts P mayDrop ∧
      (g.proceed id p pass f).2.scene.Tells facts holds := by
  induction p generalizing pass f with
  | done outcome => exact ⟨hPlan, hScene⟩
  | note n rest ih =>
      exact ih pass (f := { f with scene := f.scene.note n }) hPlan
        (hScene.of_memory rfl hScene.stores)
  | look c s next ih =>
      simp only [proceed]
      refine ih _ pass (f := { f with scene := (f.scene.look c s).2 }) ?_ (hScene.look c s)
      cases hFound : (f.scene.look c s).1 with
      | none => exact hPlan.1
      | some fact => exact hPlan.2 fact (hScene.fact_of_look hFound)
  | enter c s rest ih =>
      simp only [proceed]
      split_ifs
      · exact ih _ (f := { f with gates := (f.gates.join (c, s) id).2 }) hPlan hScene
      · exact ⟨hPlan, hScene⟩
  | leave c s rest ih =>
      refine ih none (f := f.release pass) hPlan ?_
      rw [Floor.scene_release]
      exact hScene
  | ask bind q s next ih =>
      obtain ⟨rfl, hNext⟩ := hPlan
      simp only [proceed, runOnBind_replica]
      exact ⟨⟨rfl, hNext⟩, hScene⟩
  | learn c s fact rest ih =>
      exact ih pass (f := { f with scene := f.scene.learn c s fact }) hPlan.2
        (hScene.learn hPlan.1)
  | count cmd next ih =>
      exact ih _ pass (f := { f with scene := (f.scene.count g.counters cmd).2 }) (hPlan _)
        (hScene.of_memory rfl hScene.stores)

theorem turn_keeps (id : TaskId) {t : Task C A} {f : Floor C S B}
    (hTask : t.phase.Keeps g facts P mayDrop) (hScene : f.scene.Tells facts holds) :
    (g.turn id t f).1.phase.Keeps g facts P mayDrop ∧
      (g.turn id t f).2.scene.Tells facts holds := by
  obtain ⟨phase, pass⟩ := t
  cases phase with
  | ready plan => exact proceed_keeps id plan pass hTask hScene
  | queued place rest =>
      simp only [turn]
      split_ifs
      · exact proceed_keeps id rest (some place)
          (f := { f with woken := f.woken.filter (· ≠ id) }) hTask hScene
      · exact ⟨hTask, hScene⟩
  | asking connection q s next | finished outcome | dropped => exact ⟨hTask, hScene⟩

/-- The replica answers with a fact, as the call that asked it was promised. -/
theorem answer_keeps (hSteady : g.Steady facts holds) {t : Task C A} {f : Floor C S B}
    (hTask : t.phase.Keeps g facts P mayDrop) (hScene : f.scene.Tells facts holds) :
    (g.answer t f).1.phase.Keeps g facts P mayDrop ∧
      (g.answer t f).2.scene.Tells facts holds := by
  obtain ⟨phase, pass⟩ := t
  cases phase with
  | asking connection q s next =>
      obtain ⟨rfl, hNext⟩ := hTask
      have hAnswer := hSteady.answers _ hScene.stores q s
      refine ⟨?_, hScene.of_memory rfl (hSteady.stays _ hScene.stores q s)⟩
      show (next (g.authority g.replica q s f.scene.stores).1).Promises facts P
      rw [hAnswer]
      exact hNext
  | ready plan | queued place rest | finished outcome | dropped => exact ⟨hTask, hScene⟩

theorem drop_keeps (id : TaskId) {t : Task C A} {f : Floor C S B}
    (hTask : t.phase.Keeps g facts P mayDrop) (hDrop : mayDrop)
    (hScene : f.scene.Tells facts holds) :
    (Guard.drop id t f).1.phase.Keeps g facts P mayDrop ∧
      (Guard.drop id t f).2.scene.Tells facts holds := by
  rw [scene_drop]
  refine ⟨?_, hScene⟩
  obtain ⟨phase, pass⟩ := t
  cases phase with
  | finished outcome => exact hTask
  | ready plan | queued place rest | asking connection q s next | dropped => exact hDrop

end Calls

/-- The call that an event starts. -/
def Event.call? : Event S B (Present × Call) → Option (Present × Call)
  | .start call => some call
  | _ => none

/-- The calls that events start, in order. -/
def calls (events : List (Event S B (Present × Call))) : List (Present × Call) :=
  events.filterMap Event.call?

/-- The event changes no facts. -/
def Event.Spares (holds : S → Prop) : Event S B (Present × Call) → Prop
  | .changeStores change => ∀ stores, holds stores → holds (change stores)
  | _ => True

/-- After events, every call under way keeps its promise, and what is remembered are facts. -/
structure Machine.Keeps (g : Guard C S B) (facts : Facts) (holds : S → Prop)
    (past : List (Event S B (Present × Call))) (m : Machine C S B Reply) : Prop where
  scene : m.floor.scene.Tells facts holds
  length : m.tasks.length = (calls past).length
  phases : ∀ (id : TaskId) (t : Task C Reply) present call, m.tasks[id]? = some t →
    (calls past)[id]? = some (present, call) →
    t.phase.Keeps g facts (facts.Allows present call) (.drop id ∈ past)

namespace Machine.Keeps

variable {g : Guard C S B} {facts : Facts} {holds : S → Prop}
  {past : List (Event S B (Present × Call))} {m : Machine C S B Reply}
  {event : Event S B (Present × Call)}

theorem opening (g : Guard C S B) {x : Scene C S B} (h : x.Tells facts holds) :
    Machine.Keeps g facts holds [] { floor := { scene := x } } where
  scene := h
  length := rfl
  phases _ _ _ _ ht := by cases ht

theorem calls_append (past events : List (Event S B (Present × Call))) :
    calls (past ++ events) = calls past ++ calls events :=
  List.filterMap_append

theorem calls_concat_of_none (past : List (Event S B (Present × Call)))
    (hNone : event.call? = none) : calls (past ++ [event]) = calls past := by
  rw [calls_append, calls, calls, List.filterMap_cons_none hNone]
  exact List.append_nil _

/-- A call starts with the promise that its plan makes. -/
theorem start (h : m.Keeps g facts holds past) (present : Present) (call : Call) :
    (m.step g (.start (call.plan present g.joined))).Keeps g facts holds
      (past ++ [.start (present, call)]) where
  scene := h.scene
  length := by
    rw [calls_append, List.length_append, ← h.length]
    exact List.length_append
  phases id t p k ht hCall := by
    rw [calls_append] at hCall
    simp only [step] at ht
    by_cases hOld : id < m.tasks.length
    · rw [List.getElem?_append_left hOld] at ht
      rw [List.getElem?_append_left (h.length ▸ hOld)] at hCall
      exact (h.phases id t p k ht hCall).mono (List.mem_append_left _)
    · rw [List.getElem?_append_right (Nat.not_lt.1 hOld)] at ht
      rw [List.getElem?_append_right (h.length ▸ Nat.not_lt.1 hOld), ← h.length] at hCall
      obtain rfl := List.mem_singleton.1 (List.mem_of_getElem? ht)
      obtain hSame := List.mem_singleton.1 (List.mem_of_getElem? hCall)
      cases hSame
      exact call.plan_promises facts present g.joined

/-- What becomes of one call keeps the promises of all, if it keeps that of this call. -/
theorem update (h : m.Keeps g facts holds past) (hNone : event.call? = none) {id : TaskId}
    {change : Task C Reply → Floor C S B → Task C Reply × Floor C S B}
    (hChange : ∀ t P, t.phase.Keeps g facts P (.drop id ∈ past ++ [event]) →
      (change t m.floor).1.phase.Keeps g facts P (.drop id ∈ past ++ [event]) ∧
        (change t m.floor).2.scene.Tells facts holds) :
    (m.update id change).Keeps g facts holds (past ++ [event]) := by
  have hCalls := calls_concat_of_none past hNone
  have hMore (j : TaskId) (t : Task C Reply) (present : Present) (call : Call)
      (ht : m.tasks[j]? = some t) (hCall : (calls past)[j]? = some (present, call)) :
      t.phase.Keeps g facts (facts.Allows present call) (.drop j ∈ past ++ [event]) :=
    (h.phases j t present call ht hCall).mono (List.mem_append_left _)
  cases hTask : m.tasks[id]? with
  | none =>
      rw [Machine.update_of_none hTask]
      exact ⟨h.scene, hCalls ▸ h.length, hCalls ▸ hMore⟩
  | some t =>
      constructor
      case scene =>
        rw [Machine.floor_update hTask]
        have hLength := (List.getElem?_eq_some_iff.1 hTask).1
        rw [h.length] at hLength
        exact (hChange t _ (hMore id t _ _ hTask (List.getElem?_eq_getElem hLength))).2
      case length =>
        rw [Machine.tasks_update hTask, List.length_set, hCalls]
        exact h.length
      case phases =>
        intro j u present call hu hCall
        rw [hCalls] at hCall
        rw [Machine.getElem?_update hTask] at hu
        split_ifs at hu with hj
        · cases hu
          subst j
          exact (hChange t _ (hMore id t present call hTask hCall)).1
        · exact hMore j u present call hu hCall

/-- What happens around calls keeps promises, if it leaves the scene to the facts. -/
theorem onScene (h : m.Keeps g facts holds past) (change : Scene C S B → Scene C S B)
    (hNone : event.call? = none) (hChange : (change m.floor.scene).Tells facts holds) :
    (m.onScene change).Keeps g facts holds (past ++ [event]) := by
  have hCalls := calls_concat_of_none past hNone
  refine ⟨hChange, hCalls ▸ h.length, ?_⟩
  rw [hCalls]
  exact fun id t present call ht hCall =>
    (h.phases id t present call ht hCall).mono (List.mem_append_left _)

theorem step (hSteady : g.Steady facts holds) (h : m.Keeps g facts holds past)
    (hSpares : event.Spares holds) :
    (m.step g (event.planned g.joined)).Keeps g facts holds (past ++ [event]) := by
  cases event with
  | start call => exact h.start call.1 call.2
  | turn id => exact h.update rfl fun t P hTask => turn_keeps id hTask h.scene
  | answer id => exact h.update rfl fun t P hTask => answer_keeps hSteady hTask h.scene
  | drop id =>
      have hDrop : (.drop id : Event S B (Present × Call)) ∈ past ++ [.drop id] := by simp
      exact h.update rfl fun t P hTask => drop_keeps id hTask hDrop h.scene
  | invalidate s => exact h.onScene (·.invalidate s) rfl (h.scene.invalidate s)
  | clear => exact h.onScene (·.clear) rfl h.scene.clear
  | advance span =>
      exact h.onScene (·.advance span) rfl (h.scene.of_memory rfl h.scene.stores)
  | changeStores change =>
      exact h.onScene (fun x => { x with stores := change x.stores }) rfl
        (h.scene.of_memory rfl (hSpares _ h.scene.stores))
  | changeCounts change =>
      exact h.onScene (fun x => { x with counts := change x.counts }) rfl
        (h.scene.of_memory rfl h.scene.stores)

theorem run (hSteady : g.Steady facts holds) (h : m.Keeps g facts holds past)
    {events : List (Event S B (Present × Call))} (hSpares : ∀ event ∈ events, event.Spares holds) :
    (m.run g (events.map (Event.planned g.joined))).Keeps g facts holds (past ++ events) := by
  induction events generalizing m past with
  | nil =>
      rw [List.append_nil]
      exact h
  | cons event events ih =>
      have hNext := h.step hSteady (hSpares event List.mem_cons_self)
      have hLater := ih hNext fun later hMem => hSpares later (List.mem_cons_of_mem _ hMem)
      rw [List.append_assoc] at hLater
      exact hLater

end Machine.Keeps

/-- A run of a guard: how it remembers, what it starts from, and all that happens. -/
structure Trial (S B : Type) where
  settings : CachesSettings
  clock : Cache.Clock := {}
  stores : S
  counts : B
  events : List (Event S B (Present × Call))

namespace Trial

/-- The calls under way once all has happened. -/
def machine (g : Guard C S B) (t : Trial S B) : Machine C S B Reply :=
  let scene := opening t.settings t.clock t.stores t.counts
  Machine.run g { floor := { scene, gates := { table := .empty } } }
    (t.events.map (Event.planned g.joined))

/-- The outcome of a call, if it has come to one. -/
def outcome? (g : Guard C S B) (t : Trial S B) (id : TaskId) : Option (Outcome Reply) :=
  ((t.machine g).tasks[id]?).bind Schedule.outcome?

/-- The facts stand still throughout the run. -/
structure StandsStill (t : Trial S B) (holds : S → Prop) : Prop where
  opens : holds t.stores
  spares : ∀ event ∈ t.events, event.Spares holds

/-- The run goes on with rounds of turns and answers. -/
def goOn (t : Trial S B) (rounds : List (List TaskId)) : Trial S B :=
  { t with events := t.events ++ visits rounds.flatten }

end Trial

/-- In a run, calls come to what the facts say: no outcome differs from it; and every call that is
not dropped comes to an outcome, once all calls have had their turns in enough rounds. -/
structure AnswersBy (g : Guard C S B) (facts : Facts) (t : Trial S B) : Prop where
  exact : ∀ (id : TaskId) present call reply outcome, (calls t.events)[id]? = some (present, call) →
    facts.reply? present call = some reply → t.outcome? g id = some outcome → outcome = reply
  returns : ∀ rounds : List (List TaskId),
    (∀ round ∈ rounds, ∀ id < (calls t.events).length, id ∈ round) →
    enoughRounds * (calls t.events).length ≤ rounds.length →
    ∀ (id : TaskId) present call reply, (calls t.events)[id]? = some (present, call) →
      .drop id ∉ t.events → facts.reply? present call = some reply →
      (t.goOn rounds).outcome? g id = some reply

section Trials

variable {g : Guard C S B} {facts : Facts} {holds : S → Prop} {t : Trial S B}

theorem Trial.keeps (hSteady : g.Steady facts holds) (h : t.StandsStill holds) :
    (t.machine g).Keeps g facts holds t.events :=
  (Machine.Keeps.opening g (.opening t.settings t.clock h.opens t.counts)).run hSteady h.spares

/-- Visits only give turns and answers. -/
theorem mem_visits {P : Type} {ids : List TaskId} {event : Event S B P}
    (h : event ∈ (visits ids : List (Event S B P))) :
    ∃ id, event = .answer id ∨ event = .turn id := by
  obtain ⟨id, _, hVisit⟩ := List.mem_flatMap.1 h
  exact ⟨id, by simpa using hVisit⟩

theorem Trial.StandsStill.goOn (h : t.StandsStill holds) (rounds : List (List TaskId)) :
    (t.goOn rounds).StandsStill holds where
  opens := h.opens
  spares event hMem := by
    rcases List.mem_append.1 hMem with hOld | hNew
    · exact h.spares event hOld
    · obtain ⟨id, rfl | rfl⟩ := mem_visits hNew <;> trivial

theorem Trial.calls_goOn (t : Trial S B) (rounds : List (List TaskId)) :
    calls (t.goOn rounds).events = calls t.events := by
  have hNone : calls (visits rounds.flatten : List (Event S B (Present × Call))) = [] := by
    refine List.filterMap_eq_nil_iff.2 fun event hMem => ?_
    obtain ⟨id, rfl | rfl⟩ := mem_visits hMem <;> rfl
  rw [goOn, Machine.Keeps.calls_append, hNone, List.append_nil]

theorem Trial.machine_goOn (g : Guard C S B) (t : Trial S B) (rounds : List (List TaskId)) :
    (t.goOn rounds).machine g = (t.machine g).run g (visits rounds.flatten) := by
  have hPlanned (ids : List TaskId) :
      (visits ids : List (Event S B (Present × Call))).map (Event.planned g.joined) =
        visits ids := by
    simp only [visits, List.map_flatMap]
    rfl
  rw [machine, goOn, List.map_append, hPlanned]
  exact List.foldl_append

theorem outcome?_of_keeps {m : Machine C S B Reply}
    {past : List (Event S B (Present × Call))} (h : m.Keeps g facts holds past) {id : TaskId}
    {u : Task C Reply} (hu : m.tasks[id]? = some u) {present : Present} {call : Call}
    (hCall : (calls past)[id]? = some (present, call)) {reply : Outcome Reply}
    (hReply : facts.reply? present call = some reply) {outcome : Outcome Reply}
    (hOutcome : Schedule.outcome? u = some outcome) : outcome = reply := by
  have hKeeps := h.phases id u present call hu hCall
  obtain ⟨phase, pass⟩ := u
  cases phase with
  | finished told =>
      cases hOutcome
      exact hKeeps reply hReply
  | ready _ | queued _ _ | asking _ _ _ _ | dropped => cases hOutcome

theorem Trial.answersBy (hSteady : g.Steady facts holds) (h : t.StandsStill holds) :
    g.AnswersBy facts t := by
  constructor
  case exact =>
    intro id present call reply outcome hCall hReply hOutcome
    obtain ⟨u, hu, hEnd⟩ := Option.bind_eq_some_iff.1 hOutcome
    exact outcome?_of_keeps (Trial.keeps hSteady h) hu hCall hReply hEnd
  case returns =>
    intro rounds hAll hEnough id present call reply hCall hDrop hReply
    have hBefore := Trial.keeps hSteady h
    have hKeeps := Trial.keeps hSteady (h.goOn rounds)
    obtain ⟨hSound, hWithin⟩ :=
      planned_sound_within g (opening t.settings t.clock t.stores t.counts) t.events
    have hEnded : ∀ u ∈ ((t.goOn rounds).machine g).tasks, u.HasEnded := by
      rw [Trial.machine_goOn]
      refine hSound.finish g (Task.AllWithin.of_forall hWithin) ?_ ?_
      · exact hBefore.length ▸ hEnough
      · exact hBefore.length ▸ hAll
    have hLater : (calls (t.goOn rounds).events)[id]? = some (present, call) := by
      rw [Trial.calls_goOn]
      exact hCall
    have hThere : id < ((t.goOn rounds).machine g).tasks.length := by
      rw [hKeeps.length]
      exact (List.getElem?_eq_some_iff.1 hLater).1
    have hu := List.getElem?_eq_getElem hThere
    have hEnd := hEnded _ (List.getElem_mem hThere)
    have hPhase := hKeeps.phases id _ present call hu hLater
    rw [Trial.outcome?, hu]
    generalize ((t.goOn rounds).machine g).tasks[id] = u at hEnd hPhase
    obtain ⟨phase, pass⟩ := u
    cases phase with
    | finished outcome => exact congrArg some (hPhase reply hReply)
    | dropped =>
        rcases List.mem_append.1 hPhase with hOld | hNew
        · exact absurd hOld hDrop
        · obtain ⟨_, hVisit | hVisit⟩ := mem_visits hNew <;> cases hVisit
    | ready _ | queued _ _ | asking _ _ _ _ => exact hEnd.elim

/-- No settings change an answer. Over facts that stand still, whatever two runs remember and in
whatever order things happen in them, calls come to what the facts say in both; so a call that is in
both has one outcome. -/
theorem settings_invisible (hSteady : g.Steady facts holds) {t t' : Trial S B}
    (h : t.StandsStill holds) (h' : t'.StandsStill holds) :
    g.AnswersBy facts t ∧ g.AnswersBy facts t' ∧
      ∀ (id id' : TaskId) present call outcome outcome',
        (calls t.events)[id]? = some (present, call) →
        (calls t'.events)[id']? = some (present, call) →
        (facts.reply? present call).isSome → t.outcome? g id = some outcome →
        t'.outcome? g id' = some outcome' → outcome = outcome' := by
  have hFirst := Trial.answersBy hSteady h
  have hSecond := Trial.answersBy hSteady h'
  refine ⟨hFirst, hSecond, ?_⟩
  intro id id' present call outcome outcome' hCall hCall' hSaid hOutcome hOutcome'
  obtain ⟨reply, hReply⟩ := Option.isSome_iff_exists.1 hSaid
  rw [hFirst.exact id present call reply outcome hCall hReply hOutcome,
    hSecond.exact id' present call reply outcome' hCall' hReply hOutcome']

end Trials

/-- The facts in the table of a store. -/
def Facts.held (services : Table ServiceId Snapshot) : Facts :=
  fun c s => c.answerOf (services.get? s)

theorem Facts.answer_held (services : Table ServiceId Snapshot) (q : Question) (s : ServiceId) :
    (Facts.held services).answer q s = q.answerOf (services.get? s) := by
  cases q with
  | fact c => rfl
  | snapshot =>
      simp only [answer, snapshot, held, Question.answerOf]
      cases services.get? s <;> rfl

/-- A store in memory that is available and has this table. -/
def Facts.Held (services : Table ServiceId Snapshot) (m : MemoryStore) : Prop :=
  m.available ∧ m.services = services

/-- A store in memory answers with the facts in its table, as long as it is available and nobody
writes to the table. -/
theorem steady_of_memory {g : Guard C MemoryStore B} (h : g.authority g.replica = MemoryStore.fetch)
    (services : Table ServiceId Snapshot) :
    g.Steady (.held services) (Facts.Held services) where
  answers m hHolds q s := by
    obtain ⟨hAvailable, rfl⟩ := hHolds
    rw [h, MemoryStore.fetch, Facts.answer_held]
    simp only [hAvailable, if_true]
  stays m hHolds q s := by
    rw [h, MemoryStore.fetch]
    exact (congrArg (fun p : _ × MemoryStore => Facts.Held services p.2)
      (if_pos hHolds.1)).mpr hHolds

/-- Where nothing is remembered, a second lookup asks again and comes to what the first was told;
where the fact is remembered, it finds the same without a question. -/
theorem settings_invisible_uncached :
    let s : ServiceId := default
    let store : MemoryStore := { label := "replica" }
    let stores := store.upsert s { active := true }
    let lookup : Event MemoryStore Unit (Present × Call) :=
      .start ({ now := .midnight .epoch }, .isActive s)
    let first := [lookup, .turn 0, .answer 0, .turn 0]
    let uncached : Trial MemoryStore Unit := {
      settings := ⟨⟨0, 0⟩, ⟨0, 0⟩, ⟨0, 0⟩⟩
      stores := stores
      counts := ()
      events := first ++ [lookup, .turn 1, .answer 1, .turn 1] }
    let cached : Trial MemoryStore Unit := {
      settings := {}
      stores := stores
      counts := ()
      events := first ++ [lookup, .turn 1] }
    uncached.outcome? ofMemory 1 = some (.ok (.active (some true))) ∧
      cached.outcome? ofMemory 1 = some (.ok (.active (some true))) ∧
      (uncached.machine ofMemory).floor.scene.stores.queries = 2 ∧
      (cached.machine ofMemory).floor.scene.stores.queries = 1 := by
  intro s store stores lookup first uncached cached
  have hSteady := steady_of_memory (g := ofMemory) rfl stores.services
  have hUncached : uncached.StandsStill (Facts.Held stores.services) :=
    ⟨⟨rfl, rfl⟩, by simp [uncached, first, lookup, Event.Spares]⟩
  have hCached : cached.StandsStill (Facts.Held stores.services) :=
    ⟨⟨rfl, rfl⟩, by simp [cached, first, lookup, Event.Spares]⟩
  obtain ⟨_, _, hAgree⟩ := settings_invisible hSteady hUncached hCached
  have hFound : cached.outcome? ofMemory 1 = some (.ok (.active (some true))) := by
    simp only [cached, first, lookup, stores, store, s]
    rfl
  obtain ⟨outcome, hAsked⟩ : ∃ outcome, uncached.outcome? ofMemory 1 = some outcome := by
    simp only [uncached, first, lookup, stores, store, s]
    exact ⟨_, rfl⟩
  have hSame : outcome = .ok (.active (some true)) :=
    hAgree 1 1 { now := .midnight .epoch } (.isActive s) _ _ rfl rfl rfl hAsked hFound
  subst hSame
  refine ⟨hAsked, hFound, ?_, ?_⟩ <;>
    simp only [uncached, cached, first, lookup, stores, store, s] <;> rfl

end Tollgate.Guard
