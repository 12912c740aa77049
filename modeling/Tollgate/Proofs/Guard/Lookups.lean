import Tollgate.Proofs.Guard.Tallies

/-!
What is counted of lookups is what is told of them. The lookups that were begun and that returned, as
they are counted while calls take turns, are the moments of the story at which lookups begin and
return. A call returns from every lookup that it begins before it ends, so that once all calls have
ended, as many lookups have returned as were begun.
-/

namespace Tollgate.Guard

variable {C S B A : Type} {g : Guard C S B} {c : Concern} {id : TaskId}

/-- The call that begins a lookup of a concern at the moment, if one does. -/
def Moment.beginner? (c : Concern) : Moment C → Option TaskId
  | begun id d _ => if d = c then some id else none
  | answered .. | learnt .. | returned .. => none

/-- The call to which a lookup of a concern returns at the moment, if one does. -/
def Moment.returner? (c : Concern) : Moment C → Option TaskId
  | returned id d _ _ => if d = c then some id else none
  | begun .. | answered .. | learnt .. => none

/-- The calls that have begun lookups of a concern, one for each lookup. -/
def begunBy (c : Concern) (story : List (Moment C)) : List TaskId :=
  story.filterMap (Moment.beginner? c)

/-- The calls to which lookups of a concern have returned, one for each lookup. -/
def returnedBy (c : Concern) (story : List (Moment C)) : List TaskId :=
  story.filterMap (Moment.returner? c)

/-- As many lookups of a concern are counted as a story tells of. -/
structure Tally.Counts (n : Tally) (c : Concern) (story : List (Moment C)) : Prop where
  begun : n.begun = (begunBy c story).length
  returned : n.returned = (returnedBy c story).length

theorem Tally.Counts.cons {n n' : Tally} {story : List (Moment C)} {moment : Moment C}
    (h : n.Counts c story)
    (hBegun : n'.begun = n.begun + if (moment.beginner? c).isSome then 1 else 0)
    (hReturned : n'.returned = n.returned + if (moment.returner? c).isSome then 1 else 0) :
    n'.Counts c (moment :: story) := by
  constructor
  · rw [hBegun, h.begun, begunBy, begunBy, List.filterMap_cons]
    cases moment.beginner? c <;> rfl
  · rw [hReturned, h.returned, returnedBy, returnedBy, List.filterMap_cons]
    cases moment.returner? c <;> rfl

/-- What a call counts in its turn, wherever it is in it. -/
def Passage.tally (g : Guard C S B) (c : Concern) (id : TaskId) (p : Passage C S B A) (n : Tally) :
    Tally :=
  g.tallyTurn c id p.place.task p.floor n

/-- A lookup that begins is counted. -/
theorem Tally.Counts.begins {n : Tally} {story : List (Moment C)} (h : n.Counts c story)
    (id : TaskId) (d : Concern) (s : ServiceId) :
    (if d = c then n.start false else n).Counts c (.begun id d s :: story) := by
  by_cases hd : d = c
  · exact h.cons (by simp [hd, start, Moment.beginner?]) (by simp [hd, start, Moment.returner?])
  · exact h.cons (by simp [hd, Moment.beginner?]) (by simp [hd, Moment.returner?])

/-- A lookup that returns is counted. -/
theorem Tally.Counts.returns {n : Tally} {story : List (Moment C)} (h : n.Counts c story)
    (id : TaskId) (d : Concern) (s : ServiceId) (outcome : Outcome (Option d.Fact)) :
    (if d = c then n.finish else n).Counts c (.returned id d s outcome :: story) := by
  by_cases hd : d = c
  · exact h.cons (by simp [hd, finish, Moment.beginner?]) (by simp [hd, finish, Moment.returner?])
  · exact h.cons (by simp [hd, Moment.beginner?]) (by simp [hd, Moment.returner?])

/-- Of each thing that a call does in its turn as much is counted as is told. -/
theorem Does.counts {p q : Passage C S B A} (h : Does g id p q) {n : Tally}
    (hCounts : n.Counts c p.story) :
    ∃ n', p.tally g c id n = q.tally g c id n' ∧ n'.Counts c q.story := by
  cases h with
  | finish | note | count => exact ⟨n, rfl, hCounts⟩
  | learn => exact ⟨n, rfl, hCounts.cons rfl rfl⟩
  | refused hBind | ask hBind =>
      refine ⟨n, ?_, hCounts⟩
      simp [Passage.tally, tallyTurn, Place.task, Outline.plan, tally, hBind, holdsGateOf]
  | @hit d s next f story fact hLive =>
      refine ⟨if d = c then n.start true else n, ?_, ?_⟩
      · simp [Passage.tally, tallyTurn, Place.task, Outline.plan, Plan.lookup, Plan.followedBy,
          tally, Scene.look_fst, hLive]
      · have hBoth := (hCounts.begins id d s).returns id d s (.ok (some fact))
        by_cases hd : d = c
        · simpa [hd, Tally.start, Tally.finish] using hBoth
        · simpa [hd] using hBoth
  | @miss d s next f story hLive stands hStands =>
      refine ⟨if d = c then n.start false else n, ?_, hCounts.begins id d s⟩
      simp only [Passage.tally, tallyTurn, Place.task, Outline.plan, Plan.lookup, Plan.followedBy,
        tally, Scene.look_fst, hLive]
      obtain ⟨rfl, hHeld⟩ | ⟨rfl, hHeld⟩ := hStands
      · simp [Midway.task, Task.followedBy, hHeld]
      · simp [Midway.task, Task.followedBy, hHeld]
  | enter hHeld =>
      refine ⟨n, ?_, hCounts⟩
      simp only [Passage.tally, tallyTurn, Place.task, Midway.task, Task.followedBy, hHeld, if_true]
  | @served d s lock next f story fact hLive =>
      refine ⟨if d = c then n.finish else n, ?_, hCounts.returns id d s _⟩
      simp [Passage.tally, tallyTurn, Place.task, Midway.task, Task.followedBy, Plan.behindGate,
        Plan.followedBy, tally, Scene.look_fst, hLive]
  | @load d s lock next f story hLive =>
      refine ⟨if d = c then n.ask else n, ?_, ?_⟩
      · simp [Passage.tally, tallyTurn, Place.task, Midway.task, Task.followedBy, Plan.behindGate,
          Plan.followedBy, tally, Scene.look_fst, hLive, runOnBind_replica, holdsGateOf]
      · by_cases hd : d = c
        · simpa [hd, Tally.ask] using (⟨hCounts.begun, hCounts.returned⟩ : n.ask.Counts c story)
        · simpa [hd] using hCounts
  | @settle d s lock outcome next f story =>
      refine ⟨if d = c then n.finish else n, ?_, ?_⟩
      · cases outcome with
        | error e => rfl
        | ok a =>
            simp only [Passage.tally, tallyTurn, Place.task, Midway.task, Task.followedBy,
              Plan.settle, Plan.followedBy, tally, settled, Except.map]
            cases d.fact? a <;> rfl
      · have hStory : n.Counts c (settledStory id d s story outcome) := by
          rcases settledStory_cases id d s story outcome with hSame | ⟨fact, hLearnt⟩
          · rwa [hSame]
          · rw [hLearnt]
            exact hCounts.cons rfl rfl
        exact hStory.returns id d s _

theorem Rests.tally_eq {p : Passage C S B A} (h : Rests g id p) (n : Tally) :
    p.tally g c id n = n := by
  cases h with
  | asking | loading | finished | dropped => rfl
  | waiting hHeld =>
      simp [Passage.tally, tallyTurn, Place.task, Midway.task, Task.followedBy, hHeld]

/-- In its turn a call counts as many lookups as are told of it. -/
theorem Comes.counts {p q : Passage C S B A} (h : Comes g id p q) {n : Tally}
    (hCounts : n.Counts c p.story) : (p.tally g c id n).Counts c q.story := by
  obtain ⟨n', hTally, hCountsToo⟩ := h.kept
    (P := fun r => ∃ n', p.tally g c id n = r.tally g c id n' ∧ n'.Counts c r.story)
    (fun _ _ hDoes ⟨_, hTally, hCountsToo⟩ => by
      obtain ⟨n', hNext, hCountsNext⟩ := hDoes.counts (c := c) hCountsToo
      exact ⟨n', hTally.trans hNext, hCountsNext⟩) ⟨n, rfl, hCounts⟩
  rwa [hTally, h.rests.tally_eq]

/-- With an answer no lookup begins or returns, whether or not it is one that counts. -/
theorem Tally.Counts.answer {n : Tally} {story : List (Moment C)} (h : n.Counts c story)
    (t : Task C A) (f : Floor C S B) :
    (g.tallyAnswer c t f n).Counts c (g.recountAnswer id t f story) := by
  obtain ⟨phase, holds⟩ := t
  cases phase with
  | asking connection q s next =>
      simp only [tallyAnswer, recountAnswer]
      split
      · cases (f.scene.ask g.authority connection q s).1 with
        | ok a => exact h.cons rfl rfl
        | error e => exact h.cons rfl rfl
      · exact h.cons rfl rfl
  | ready _ | queued _ _ | finished _ | dropped => exact h

namespace Tale

variable {m : Tale C S B A} {n : Tally}

/-- Whatever happens next, as many lookups are counted as are told of. -/
theorem counts_step (hFormed : m.Formed g) (h : n.Counts c m.story)
    (event : Event S B (Outline A)) :
    (m.machine.tallyStep g c n (event.onStart Outline.plan)).Counts c (m.step g event).story := by
  cases event with
  | turn id =>
      simp only [Event.onStart, Machine.tallyStep, getElem?_machine, step]
      cases hPlace : m.places[id]? with
      | none => rwa [update_of_none hPlace]
      | some place =>
          rw [update_of_some hPlace]
          exact (comes_turn (p := ⟨place, m.floor, m.story⟩) (hFormed id place hPlace)).counts h
  | answer id =>
      simp only [Event.onStart, Machine.tallyStep, getElem?_machine, step]
      cases hPlace : m.places[id]? with
      | none => rwa [update_of_none hPlace]
      | some place =>
          rw [update_of_some hPlace]
          exact h.answer place.task m.floor
  | drop id =>
      simp only [Event.onStart, Machine.tallyStep, step]
      cases hPlace : m.places[id]? with
      | none => rwa [update_of_none hPlace]
      | some place =>
          rw [update_of_some hPlace]
          exact h
  | start _ | invalidate _ | clear | advance _ | changeStores _ | changeCounts _ => exact h

/-- Over a whole run as many lookups are counted as are told of. -/
theorem counts_run (hFormed : m.Formed g) (h : n.Counts c m.story)
    (events : List (Event S B (Outline A))) :
    (m.machine.tally g c n (events.map (Event.onStart Outline.plan))).Counts c
      (m.run g events).story := by
  induction events generalizing m n with
  | nil => exact h
  | cons event events ih =>
      have hRest := ih (hFormed.step (steps hFormed event)) (counts_step hFormed h event)
      rw [machine_step hFormed] at hRest
      exact hRest

end Tale

/-- The lookups that a call at this place has begun and not returned from. -/
def Place.open (c : Concern) : Place C A → Nat
  | .within d _ _ _ => if d = c then 1 else 0
  | _ => 0

/-- A call has returned from every lookup that it has begun, but for the one that it is within. -/
def Place.Returns (c : Concern) (story : List (Moment C)) (id : TaskId) (place : Place C A) : Prop :=
  place = .dropped ∨
    (begunBy c story).count id = (returnedBy c story).count id + place.open c

theorem count_begunBy_cons (moment : Moment C) (story : List (Moment C)) :
    (begunBy c (moment :: story)).count id =
      (begunBy c story).count id + if moment.beginner? c = some id then 1 else 0 := by
  rw [begunBy, begunBy, List.filterMap_cons]
  cases moment.beginner? c <;> simp [List.count_cons]

theorem count_returnedBy_cons (moment : Moment C) (story : List (Moment C)) :
    (returnedBy c (moment :: story)).count id =
      (returnedBy c story).count id + if moment.returner? c = some id then 1 else 0 := by
  rw [returnedBy, returnedBy, List.filterMap_cons]
  cases moment.returner? c <;> simp [List.count_cons]

/-- What is told of others counts for no lookup of a call. -/
theorem count_of_others {new story : List (Moment C)} (h : ∀ moment ∈ new, moment.call ≠ id) :
    (begunBy c (new ++ story)).count id = (begunBy c story).count id ∧
      (returnedBy c (new ++ story)).count id = (returnedBy c story).count id := by
  induction new with
  | nil => exact ⟨rfl, rfl⟩
  | cons moment new ih =>
      obtain ⟨hBegun, hReturned⟩ := ih fun later hMem => h later (List.mem_cons_of_mem _ hMem)
      have hCall : moment.call ≠ id := h moment List.mem_cons_self
      have hNone : moment.beginner? c ≠ some id ∧ moment.returner? c ≠ some id := by
        cases moment <;> simp_all [Moment.beginner?, Moment.returner?, Moment.call]
      rw [List.cons_append, count_begunBy_cons, count_returnedBy_cons, if_neg hNone.1,
        if_neg hNone.2]
      exact ⟨hBegun, hReturned⟩

/-- A call returns from its lookups one after another. -/
theorem Does.returns {p q : Passage C S B A} (h : Does g id p q)
    (hReturns : p.place.Returns c p.story id) : q.place.Returns c q.story id := by
  have hCounts : (begunBy c p.story).count id =
      (returnedBy c p.story).count id + p.place.open c := by
    refine hReturns.resolve_left fun hDropped => ?_
    cases h <;> cases hDropped
  refine Or.inr ?_
  cases h with
  | finish | note | refused _ | ask _ | count | enter _ | load _ => exact hCounts
  | learn =>
      rw [count_begunBy_cons, count_returnedBy_cons]
      exact hCounts
  | @hit d s next f story fact hLive =>
      simp only [count_begunBy_cons, count_returnedBy_cons, Moment.beginner?, Moment.returner?]
      have hCounts : (begunBy c story).count id = (returnedBy c story).count id := hCounts
      by_cases hd : d = c <;> simp [hd, hCounts, Place.open]
  | @miss d s next f story hLive stands hStands =>
      simp only [count_begunBy_cons, count_returnedBy_cons, Moment.beginner?, Moment.returner?]
      have hCounts : (begunBy c story).count id = (returnedBy c story).count id := hCounts
      by_cases hd : d = c <;> simp [hd, hCounts, Place.open]
  | @served d s lock next f story fact hLive =>
      simp only [count_begunBy_cons, count_returnedBy_cons, Moment.beginner?, Moment.returner?]
      simp only [Place.open] at hCounts
      by_cases hd : d = c <;> simp_all [Place.open]
  | @settle d s lock outcome next f story =>
      have hStory : (begunBy c (settledStory id d s story outcome)).count id =
          (returnedBy c (settledStory id d s story outcome)).count id +
            if d = c then 1 else 0 := by
        rcases settledStory_cases id d s story outcome with hSame | ⟨fact, hLearnt⟩
        · rw [hSame]
          exact hCounts
        · rw [hLearnt, count_begunBy_cons, count_returnedBy_cons]
          exact hCounts
      simp only [count_begunBy_cons, count_returnedBy_cons, Moment.beginner?, Moment.returner?]
      rw [hStory]
      by_cases hd : d = c <;> simp [hd, Place.open]

theorem Comes.returns {p q : Passage C S B A} (h : Comes g id p q)
    (hReturns : p.place.Returns c p.story id) : q.place.Returns c q.story id :=
  h.kept (P := fun r => r.place.Returns c r.story id) (fun _ _ hDoes => hDoes.returns) hReturns

theorem Hears.returns {p q : Passage C S B A} (h : Hears g id p q)
    (hReturns : p.place.Returns c p.story id) : q.place.Returns c q.story id := by
  cases h with
  | nothing => exact hReturns
  | own | load _ =>
      refine Or.inr ?_
      rw [count_begunBy_cons, count_returnedBy_cons]
      exact hReturns.resolve_left nofun

/-- Every call has returned from the lookups that it has begun, but for the one that it is within, and
for those that were dropped. -/
structure Tale.Returns (c : Concern) (m : Tale C S B A) : Prop where
  places : ∀ (id : TaskId) (place : Place C A), m.places[id]? = some place →
    place.Returns c m.story id
  others : ∀ id, m.places[id]? = none →
    (begunBy c m.story).count id = (returnedBy c m.story).count id

namespace Tale.Returns

variable {m m' : Tale C S B A}

/-- A passage of one call keeps it so if that call does. -/
theorem goOn (h : m.Returns c) {place : Place C A} (hPlace : m.places[id]? = some place)
    {p : Passage C S B A}
    (hStory : ∃ new, p.story = new ++ m.story ∧ ∀ moment ∈ new, moment.call = id)
    (hOwn : p.place.Returns c p.story id) : (m.goOn id p).Returns c := by
  obtain ⟨new, hNew, hCall⟩ := hStory
  have hSame (j : TaskId) (hj : j ≠ id) :
      (begunBy c p.story).count j = (begunBy c m.story).count j ∧
        (returnedBy c p.story).count j = (returnedBy c m.story).count j := by
    rw [hNew]
    exact count_of_others fun moment hMem hOther => hj (hOther.symm.trans (hCall moment hMem))
  constructor
  case places =>
    intro j other hOther
    rw [getElem?_goOn hPlace] at hOther
    split_ifs at hOther with hj
    · cases hOther
      rwa [hj]
    · obtain ⟨hBegun, hReturned⟩ := hSame j hj
      refine (h.places j other hOther).imp_right fun hCounts => ?_
      exact hBegun.trans (hCounts.trans (congrArg (· + other.open c) hReturned.symm))
  case others =>
    intro j hOther
    rw [getElem?_goOn hPlace] at hOther
    split_ifs at hOther with hj
    obtain ⟨hBegun, hReturned⟩ := hSame j hj
    exact hBegun.trans ((h.others j hOther).trans hReturned.symm)

/-- One step keeps it so. -/
theorem step (h : m.Returns c) {event : Event S B (Outline A)} (hSteps : Steps g m event m') :
    m'.Returns c := by
  cases hSteps with
  | start call =>
      constructor
      case places =>
        intro id place hPlace
        cases hOld : m.places[id]? with
        | some old =>
            rw [List.getElem?_append_left (List.getElem?_eq_some_iff.1 hOld).1, hOld] at hPlace
            cases hPlace
            exact h.places id _ hOld
        | none =>
            rcases place_of_begun hPlace with hSame | rfl
            · rw [hOld] at hSame
              cases hSame
            · exact Or.inr (h.others id hOld)
      case others =>
        intro id hNone
        refine h.others id (List.getElem?_eq_none ?_)
        have hLength := List.getElem?_eq_none_iff.1 hNone
        rw [List.length_append] at hLength
        exact Nat.le_of_add_right_le hLength
  | turn hPlace hComes =>
      exact h.goOn hPlace hComes.tells (hComes.returns (h.places _ _ hPlace))
  | answer hPlace hHears =>
      exact h.goOn hPlace hHears.tells (hHears.returns (h.places _ _ hPlace))
  | @drop id place hPlace =>
      refine h.goOn hPlace ⟨[], rfl, nofun⟩ ?_
      cases place with
      | finished outcome => exact h.places id _ hPlace
      | ready _ | asking _ _ _ _ | within _ _ _ _ | dropped => exact Or.inl rfl
  | around change _ => exact ⟨h.places, h.others⟩

end Tale.Returns

/-- The lookups of a concern that are counted over a run are those of which its tale tells. -/
theorem tally_counts (g : Guard C S B) (x : Scene C S B)
    (events : List (Event S B (Present × Call))) (c : Concern) :
    let start : Machine C S B Reply := { floor := { scene := x } }
    let told : Tale C S B Reply :=
      Tale.run g { floor := { scene := x } } (events.map (Event.outlined g.joined))
    (start.tally g c {} (events.map (Event.planned g.joined))).Counts c told.story := by
  intro start told
  have hCounts := Tale.counts_run (c := c) (Tale.Formed.start (g := g) (A := Reply) { scene := x })
    (n := {}) ⟨rfl, rfl⟩ (events.map (Event.outlined g.joined))
  rw [List.map_map] at hCounts
  have hPlanned : Event.onStart Outline.plan ∘ Event.outlined g.joined =
      Event.planned (S := S) (B := B) g.joined :=
    funext (Event.onStart_outlined g.joined)
  rwa [hPlanned] at hCounts

/-- Once every call that was started has ended, and none was dropped, every lookup that was begun has
returned. -/
theorem begun_eq_returned (g : Guard C S B) (x : Scene C S B)
    (events : List (Event S B (Present × Call))) (c : Concern) :
    let start : Machine C S B Reply := { floor := { scene := x } }
    let planned := events.map (Event.planned g.joined)
    let made := start.tally g c {} planned
    (∀ t ∈ (start.run g planned).tasks, ∃ outcome, t.phase = .finished outcome) →
      made.begun = made.returned := by
  intro start planned made hEnded
  let told : Tale C S B Reply :=
    Tale.run g { floor := { scene := x } } (events.map (Event.outlined g.joined))
  have hStart : Tale.Formed g ({ floor := { scene := x } } : Tale C S B Reply) := .start _
  have hMachine : told.machine = start.run g planned := Tale.machine_run_outlined hStart events
  have hReturns : told.Returns c :=
    Tale.kept_by_run (P := fun m => m.Returns c) hStart
      (fun event _ m hFormed h => h.step (Tale.steps hFormed event))
      ⟨fun _ _ h => (by cases h), fun _ _ => rfl⟩
  have hCount (id : TaskId) :
      (begunBy c told.story).count id = (returnedBy c told.story).count id := by
    cases hPlace : told.places[id]? with
    | none => exact hReturns.others id hPlace
    | some place =>
        have hMem : place.task ∈ (start.run g planned).tasks :=
          hMachine ▸ List.mem_map_of_mem (List.mem_of_getElem? hPlace)
        obtain ⟨outcome, hPhase⟩ := hEnded _ hMem
        cases place with
        | finished _ => exact (hReturns.places id _ hPlace).resolve_left nofun
        | ready _ | asking _ _ _ _ | dropped => cases hPhase
        | within d s lookup next =>
            simp only [Place.task, Task.followedBy] at hPhase
            cases hLookup : lookup.phase <;> simp [hLookup] at hPhase
  obtain ⟨hBegun, hReturned⟩ := tally_counts g x events c
  exact hBegun.trans ((List.perm_iff_count.2 hCount).length_eq.trans hReturned.symm)

end Tollgate.Guard
