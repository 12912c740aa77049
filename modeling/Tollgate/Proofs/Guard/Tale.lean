import Tollgate.Proofs.Guard.Story

/-!
Tales of calls under way: the same calls, turn by turn, with their story beside them. A tale is told
of the very run of these calls, and whatever each step of it keeps, all of it keeps.
-/

namespace Tollgate.Guard

variable {C S B A : Type}

/-- Calls under way in outline, by number, with what they act on and their story. -/
structure Tale (C S B A : Type) where
  floor : Floor C S B
  places : List (Place C A) := []
  story : List (Moment C) := []

namespace Tale

/-- The calls under way of which the tale is told. -/
def machine (m : Tale C S B A) : Machine C S B A where
  floor := m.floor
  tasks := m.places.map Place.task

/-- The tale goes on with a passage that tells of one call. -/
def goOn (m : Tale C S B A) (id : TaskId) (p : Passage C S B A) : Tale C S B A where
  floor := p.floor
  places := m.places.set id p.place
  story := p.story

/-- Changes one call, what it acts on, and the story. -/
def update (m : Tale C S B A) (id : TaskId) (act : Passage C S B A → Passage C S B A) :
    Tale C S B A :=
  match m.places[id]? with
  | none => m
  | some place => m.goOn id (act ⟨place, m.floor, m.story⟩)

/-- Changes the scene. -/
def onScene (m : Tale C S B A) (change : Scene C S B → Scene C S B) : Tale C S B A :=
  { m with floor := { m.floor with scene := change m.floor.scene } }

/-- Lets one thing happen, and tells of it. -/
def step (g : Guard C S B) (m : Tale C S B A) : Event S B (Outline A) → Tale C S B A
  | .start call => { m with places := m.places ++ [.ready call] }
  | .turn id => m.update id (g.tellTurn id)
  | .answer id => m.update id (g.tellAnswer id)
  | .drop id => m.update id (tellDrop id)
  | .invalidate s => m.onScene (·.invalidate s)
  | .clear => m.onScene (·.clear)
  | .advance span => m.onScene (·.advance span)
  | .changeStores change => m.onScene fun x => { x with stores := change x.stores }
  | .changeCounts change => m.onScene fun x => { x with counts := change x.counts }

/-- Lets things happen one after another, and tells of them. -/
def run (g : Guard C S B) (m : Tale C S B A) (events : List (Event S B (Outline A))) :
    Tale C S B A :=
  events.foldl (step g) m

/-- The same calls, with a story that begins only now. -/
def afresh (m : Tale C S B A) : Tale C S B A :=
  { m with story := [] }

end Tale

variable {g : Guard C S B} {id : TaskId}

/-- An event with what a call starts with changed. -/
def Event.onStart {P Q : Type} (f : P → Q) : Event S B P → Event S B Q
  | .start p => .start (f p)
  | .turn id => .turn id
  | .answer id => .answer id
  | .drop id => .drop id
  | .invalidate s => .invalidate s
  | .clear => .clear
  | .advance span => .advance span
  | .changeStores change => .changeStores change
  | .changeCounts change => .changeCounts change

/-- What a call starts with, in outline. -/
def Event.outlined (joined : Bool) : Event S B (Present × Call) → Event S B (Outline Reply) :=
  Event.onStart fun start => start.2.outline start.1 joined

theorem Event.onStart_outlined (joined : Bool) (event : Event S B (Present × Call)) :
    (event.outlined joined).onStart Outline.plan = event.planned joined := by
  cases event with
  | start call => exact congrArg Event.start (Call.plan_outline call.1 joined call.2)
  | _ => rfl

namespace Tale

variable {m : Tale C S B A}

/-- What one thing that happens makes of a tale: a call begins, one that is there has a turn, hears
an answer or is dropped, or something happens around them by which nothing comes to be remembered.
-/
inductive Steps (g : Guard C S B) (m : Tale C S B A) :
    Event S B (Outline A) → Tale C S B A → Prop
  | start (call : Outline A) :
      Steps g m (.start call) { m with places := m.places ++ [.ready call] }
  | turn {id : TaskId} {place : Place C A} {p : Passage C S B A}
      (hPlace : m.places[id]? = some place) (h : Comes g id ⟨place, m.floor, m.story⟩ p) :
      Steps g m (.turn id) (m.goOn id p)
  | answer {id : TaskId} {place : Place C A} {p : Passage C S B A}
      (hPlace : m.places[id]? = some place) (h : Hears g id ⟨place, m.floor, m.story⟩ p) :
      Steps g m (.answer id) (m.goOn id p)
  | drop {id : TaskId} {place : Place C A} (hPlace : m.places[id]? = some place) :
      Steps g m (.drop id) (m.goOn id (tellDrop id ⟨place, m.floor, m.story⟩))
  | around {event : Event S B (Outline A)} (change : Scene C S B → Scene C S B)
      (hRemembers : ∀ x c s (fact : c.Fact), (change x).Remembers c s fact → x.Remembers c s fact) :
      Steps g m event (m.onScene change)

/-- Every lookup that a call is within has missed, and stands at its gate. -/
def Formed (g : Guard C S B) (m : Tale C S B A) : Prop :=
  ∀ (id : TaskId) (place : Place C A), m.places[id]? = some place → place.Formed g

theorem Formed.start (f : Floor C S B) : Formed g ({ floor := f } : Tale C S B A) :=
  fun _ _ h => by cases h

theorem getElem?_machine (m : Tale C S B A) (id : TaskId) :
    m.machine.tasks[id]? = (m.places[id]?).map Place.task := by
  rw [machine, List.getElem?_map]

theorem update_of_none {act : Passage C S B A → Passage C S B A} (h : m.places[id]? = none) :
    m.update id act = m := by
  simp only [update, h]

theorem update_of_some {act : Passage C S B A → Passage C S B A} {place : Place C A}
    (h : m.places[id]? = some place) :
    m.update id act = m.goOn id (act ⟨place, m.floor, m.story⟩) := by
  simp only [update, h]

theorem getElem?_goOn {place : Place C A} (h : m.places[id]? = some place)
    (p : Passage C S B A) (j : TaskId) :
    (m.goOn id p).places[j]? = if j = id then some p.place else m.places[j]? := by
  have hLength : id < m.places.length := (List.getElem?_eq_some_iff.1 h).1
  simp only [goOn]
  rw [List.getElem?_set]
  by_cases hj : id = j
  · simp [← hj, hLength]
  · simp [hj, Ne.symm hj]

/-- What happens to a call that is not there changes nothing. -/
theorem steps_of_none (h : m.places[id]? = none) (event : Event S B (Outline A))
    (act : Passage C S B A → Passage C S B A) : Steps g m event (m.update id act) := by
  rw [update_of_none h]
  exact .around (fun x => x) fun _ _ _ _ h => h

theorem steps (h : m.Formed g) (event : Event S B (Outline A)) :
    Steps g m event (m.step g event) := by
  cases event with
  | start call => exact .start call
  | turn id =>
      simp only [step]
      cases hPlace : m.places[id]? with
      | none => exact steps_of_none hPlace _ _
      | some place =>
          rw [update_of_some hPlace]
          exact .turn hPlace (comes_turn (h id place hPlace))
  | answer id =>
      simp only [step]
      cases hPlace : m.places[id]? with
      | none => exact steps_of_none hPlace _ _
      | some place =>
          rw [update_of_some hPlace]
          exact .answer hPlace (hears_answer (h id place hPlace))
  | drop id =>
      simp only [step]
      cases hPlace : m.places[id]? with
      | none => exact steps_of_none hPlace _ _
      | some place =>
          rw [update_of_some hPlace]
          exact .drop hPlace
  | invalidate s =>
      exact .around (·.invalidate s) fun x c r fact h => (Scene.remembers_of_invalidate h).1
  | clear => exact .around (·.clear) fun x c r fact h => absurd h (Scene.not_remembers_clear fact)
  | advance span => exact .around (·.advance span) fun x c r fact h => h
  | changeStores change =>
      exact .around (fun x => { x with stores := change x.stores }) fun x c r fact h => h
  | changeCounts change =>
      exact .around (fun x => { x with counts := change x.counts }) fun x c r fact h => h

theorem place_of_begun {new place : Place C A} {j : TaskId}
    (h : (m.places ++ [new])[j]? = some place) : m.places[j]? = some place ∨ place = new := by
  rw [List.getElem?_append] at h
  split_ifs at h with hj
  · exact Or.inl h
  · exact Or.inr (List.mem_singleton.1 (List.mem_of_getElem? h))

/-- A passage keeps every lookup formed if the one that it tells of is. -/
theorem Formed.goOn (h : m.Formed g) {place : Place C A} (hPlace : m.places[id]? = some place)
    {p : Passage C S B A} (hFormed : p.place.Formed g) : (m.goOn id p).Formed g := by
  intro j other hOther
  rw [getElem?_goOn hPlace] at hOther
  split_ifs at hOther with hj
  · cases hOther
    exact hFormed
  · exact h j other hOther

theorem Formed.step (h : m.Formed g) {event : Event S B (Outline A)} {m' : Tale C S B A}
    (hSteps : Steps g m event m') : m'.Formed g := by
  cases hSteps with
  | start call =>
      intro j place hPlace
      rcases place_of_begun hPlace with hOld | rfl
      · exact h j place hOld
      · trivial
  | turn hPlace hComes => exact h.goOn hPlace (hComes.formed (h _ _ hPlace))
  | answer hPlace hHears => exact h.goOn hPlace (hHears.formed (h _ _ hPlace))
  | @drop id place hPlace =>
      refine h.goOn hPlace ?_
      simp only [tellDrop]
      split <;> trivial
  | around change _ => exact h

/-- What every step keeps of a tale, a whole run keeps. -/
theorem kept_by_run {P : Tale C S B A → Prop} {events : List (Event S B (Outline A))}
    (hFormed : m.Formed g)
    (hStep : ∀ event ∈ events, ∀ m, m.Formed g → P m → P (m.step g event)) (h : P m) :
    P (m.run g events) := by
  induction events generalizing m with
  | nil => exact h
  | cons event events ih =>
      exact ih (hFormed.step (steps hFormed event))
        (fun later hMem => hStep later (List.mem_cons_of_mem _ hMem))
        (hStep event List.mem_cons_self m hFormed h)

theorem Formed.run (h : m.Formed g) (events : List (Event S B (Outline A))) :
    (m.run g events).Formed g :=
  kept_by_run h (fun event _ _ hFormed h => h.step (steps hFormed event)) h

/-- Whenever a lookup waits for an answer, the call that makes it has put the question of just this
lookup. -/
theorem Formed.asks (h : m.Formed g) {c : Concern} {s : ServiceId} {lookup : Task C (Option c.Fact)}
    {next : Outcome (Option c.Fact) → Outline A}
    (hPlace : m.places[id]? = some (.within c s lookup next)) {connection : C} {q : Question}
    {r : ServiceId} {k : Outcome q.Answer → Plan (Option c.Fact)}
    (hAsking : lookup.phase = .asking connection q r k) :
    ∃ t, m.machine.tasks[id]? = some t ∧ Asks c s t.phase := by
  refine ⟨_, by rw [getElem?_machine, hPlace]; rfl, ?_⟩
  obtain ⟨lock, stands, rfl⟩ := h id _ hPlace
  cases stands with
  | asking => exact ⟨g.replica, _, rfl⟩
  | waiting | entered | answered _ => cases hAsking

/-- Of two calls that look the same fact up, one puts its question and the other waits at the gate. -/
example :
    let s : ServiceId := default
    let lookup : Event MemoryStore Unit (Present × Call) :=
      .start ({ now := .midnight .epoch }, .isActive s)
    let stores : MemoryStore := { label := "replica" }
    let m : Machine Unit MemoryStore Unit Reply :=
      Machine.run ofMemory { floor := { scene := opening {} {} stores () } }
        ([lookup, lookup, .turn 0, .turn 1].map (Event.planned ofMemory.joined))
    (∃ t, m.tasks[0]? = some t ∧ Asks .serviceActive s t.phase) ∧
      ∃ t lock rest, m.tasks[1]? = some t ∧ t.phase = .queued ⟨(.serviceActive, s), lock⟩ rest :=
  ⟨⟨_, rfl, (), _, rfl⟩, _, _, _, rfl, rfl⟩

/-- A passage of a tale is one of the calls that it tells of. -/
theorem machine_update (act : Passage C S B A → Passage C S B A)
    (change : Task C A → Floor C S B → Task C A × Floor C S B)
    (h : ∀ place, m.places[id]? = some place →
      change place.task m.floor = ((act ⟨place, m.floor, m.story⟩).place.task,
        (act ⟨place, m.floor, m.story⟩).floor)) :
    (m.update id act).machine = m.machine.update id change := by
  cases hPlace : m.places[id]? with
  | none =>
      have hTask : m.machine.tasks[id]? = none := by rw [getElem?_machine, hPlace]; rfl
      rw [update_of_none hPlace, Machine.update_of_none hTask]
  | some place =>
      have hTask : m.machine.tasks[id]? = some place.task := by rw [getElem?_machine, hPlace]; rfl
      rw [update_of_some hPlace]
      simp only [Machine.update, hTask]
      rw [show m.machine.floor = m.floor from rfl, h place hPlace]
      simp only [machine, Tale.goOn, List.map_set]

/-- The calls of which a tale is told do what the tale tells, one step at a time. -/
theorem machine_step (h : m.Formed g) (event : Event S B (Outline A)) :
    (m.step g event).machine = m.machine.step g (event.onStart Outline.plan) := by
  cases event with
  | start call =>
      simp only [step, Machine.step, Event.onStart, machine, List.map_append]
      rfl
  | turn id =>
      refine machine_update (g.tellTurn id) (g.turn id) fun place hPlace => ?_
      exact (comes_turn (p := ⟨place, m.floor, m.story⟩) (h id place hPlace)).turn_eq
  | answer id =>
      refine machine_update (g.tellAnswer id) g.answer fun place hPlace => ?_
      exact answer_eq (p := ⟨place, m.floor, m.story⟩) (h id place hPlace)
  | drop id =>
      refine machine_update (tellDrop id) (Guard.drop id) fun place hPlace => ?_
      exact drop_eq (p := ⟨place, m.floor, m.story⟩) (h id place hPlace)
  | _ => rfl

/-- A tale of calls is told of the very run of these calls. -/
theorem machine_run (h : m.Formed g) (events : List (Event S B (Outline A))) :
    (m.run g events).machine = m.machine.run g (events.map (Event.onStart Outline.plan)) := by
  induction events generalizing m with
  | nil => rfl
  | cons event events ih =>
      refine (ih (h.step (steps h event))).trans ?_
      rw [machine_step h]
      rfl

theorem machine_run_outlined {m : Tale C S B Reply} (h : m.Formed g)
    (events : List (Event S B (Present × Call))) :
    (m.run g (events.map (Event.outlined g.joined))).machine =
      m.machine.run g (events.map (Event.planned g.joined)) := by
  rw [machine_run h, List.map_map]
  congr 2
  funext event
  exact Event.onStart_outlined g.joined event

end Tale

end Tollgate.Guard
