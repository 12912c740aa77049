import Tollgate.Proofs.Guard.Freshness
import Tollgate.Proofs.Guard.Tale

/-!
What an invalidation does to facts that are out of date. It drops what is remembered of a service,
and nothing that a call has been told. So a lookup that begins after it returns a fact that was told
since the change before it, or one that was told before to a call still in flight at the
invalidation, which remembered it late.
-/

namespace Tollgate.Guard

variable {C S B A : Type} {g : Guard C S B} {id : TaskId}

/-- The replica told a call a fact about a service, at some moment of a story. -/
def ToldTo (g : Guard C S B) (id : TaskId) (c : Concern) (s : ServiceId) (fact : c.Fact)
    (story : List (Moment C)) : Prop :=
  ∃ q outcome, .answered id g.replica q s outcome ∈ story ∧ Holds c fact q outcome

theorem ToldTo.mono {id : TaskId} {c : Concern} {s : ServiceId} {fact : c.Fact}
    {story more : List (Moment C)} (h : g.ToldTo id c s fact story) (hMore : story ⊆ more) :
    g.ToldTo id c s fact more := by
  obtain ⟨q, outcome, hMem, hHolds⟩ := h
  exact ⟨q, outcome, hMore hMem, hHolds⟩

theorem ToldTo.of_append {id : TaskId} {c : Concern} {s : ServiceId} {fact : c.Fact}
    {story past : List (Moment C)} (h : g.ToldTo id c s fact (story ++ past)) :
    g.ToldTo id c s fact story ∨ g.ToldTo id c s fact past := by
  obtain ⟨q, outcome, hMem, hHolds⟩ := h
  exact (List.mem_append.1 hMem).imp (⟨q, outcome, ·, hHolds⟩) (⟨q, outcome, ·, hHolds⟩)

/-- What was told in a story was told in any later one. -/
theorem ToldTo.later {id : TaskId} {c : Concern} {s : ServiceId} {fact : c.Fact}
    {story later past : List (Moment C)} (h : g.ToldTo id c s fact (story ++ past))
    (hLater : story <:+ later) : g.ToldTo id c s fact (later ++ past) := by
  refine h.mono (List.append_subset.2 ⟨?_, List.subset_append_right _ _⟩)
  exact List.Subset.trans hLater.subset (List.subset_append_left _ _)

/-- A call that can go on, or waits, remembers only facts that are known or that the replica will
have told it by then. -/
def Phase.Honest (g : Guard C S B) (known : Knowledge) : Phase C A → Prop
  | .ready plan => plan.Honest known
  | .queued _ rest => rest.Honest known
  | .asking connection q s next => ∀ outcome, (next outcome).Honest fun c r fact =>
      known c r fact ∨ (connection = g.replica ∧ r = s ∧ Holds c fact q outcome)
  | .finished _ | .dropped => True

theorem Phase.Honest.mono {phase : Phase C A} {known more : Knowledge} (h : phase.Honest g known)
    (hMore : ∀ c s fact, known c s fact → more c s fact) : phase.Honest g more := by
  cases phase with
  | ready plan => exact Plan.Honest.mono h hMore
  | queued pass rest => exact Plan.Honest.mono h hMore
  | asking connection q s next =>
      exact fun outcome => (h outcome).mono fun c r fact => Or.imp_left (hMore c r fact)
  | finished outcome | dropped => trivial

/-- What a call remembers, it was told. -/
def LearntFromAnswer (g : Guard C S B) (past : List (Moment C)) :
    Moment C → List (Moment C) → Prop
  | .learnt id c s fact, earlier => g.ToldTo id c s fact (earlier ++ past)
  | _, _ => True

/-- Whatever a call does in its turn, it remembers only what it was told, and comes to stand where it
will go on so. -/
theorem Does.learns {p q : Passage C S B A} (h : Does g id p q) {past : List (Moment C)}
    {known : Knowledge} (hHonest : p.place.task.phase.Honest g known)
    (hKnown : ∀ c s fact, known c s fact → g.ToldTo id c s fact (p.story ++ past))
    (hStory : Throughout (g.LearntFromAnswer past) p.story) :
    q.place.task.phase.Honest g known ∧ Throughout (g.LearntFromAnswer past) q.story := by
  cases h with
  | finish => exact ⟨trivial, hStory⟩
  | note => exact ⟨hHonest, hStory⟩
  | @refused bind q s next f story e hBind =>
      refine ⟨Plan.Honest.mono (hHonest _) ?_, hStory⟩
      rintro c r fact (hKnown | ⟨_, _, hHolds⟩)
      · exact hKnown
      · cases hHolds
  | @ask bind q s next f story connection hBind =>
      refine ⟨fun outcome => Plan.Honest.mono (hHonest outcome) ?_, hStory⟩
      rintro c r fact (hKnown | ⟨rfl, rfl, hHolds⟩)
      · exact Or.inl hKnown
      · rw [runOnBind_replica] at hBind
        cases hBind
        exact Or.inr ⟨rfl, rfl, hHolds⟩
  | learn => exact ⟨hHonest.2, hKnown _ _ _ hHonest.1, hStory⟩
  | count => exact ⟨hHonest _, hStory⟩
  | @hit c s next f story fact hLive => exact ⟨hHonest (some fact), trivial, trivial, hStory⟩
  | miss hLive hStands =>
      obtain ⟨rfl, _⟩ | ⟨rfl, _⟩ := hStands
      · exact ⟨hHonest none, trivial, hStory⟩
      · exact ⟨hHonest none, trivial, hStory⟩
  | enter _ => exact ⟨hHonest, hStory⟩
  | @served c s lock next f story fact hLive => exact ⟨hHonest (some fact), trivial, hStory⟩
  | load _ =>
      refine ⟨fun outcome => Plan.Honest.mono (hHonest none outcome) ?_, hStory⟩
      rintro c r fact (hKnown | ⟨_, rfl, hHolds⟩)
      · exact Or.inl hKnown
      · exact Or.inr ⟨rfl, rfl, hHolds⟩
  | @settle c s lock outcome next f story =>
      cases outcome with
      | error e => exact ⟨hHonest, trivial, hStory⟩
      | ok a =>
          simp only [Place.task, Task.followedBy, Midway.task, Plan.settle, Plan.followedBy,
            Phase.Honest, Plan.Honest] at hHonest
          simp only [settledStory, Except.map]
          cases hFact : c.fact? a with
          | none =>
              rw [hFact] at hHonest
              exact ⟨hHonest, trivial, hStory⟩
          | some fact =>
              rw [hFact] at hHonest
              exact ⟨hHonest.2, trivial, hKnown c s fact hHonest.1, hStory⟩

/-- A turn of a call that remembers only what it was told. -/
theorem Comes.learns {p q : Passage C S B A} (h : Comes g id p q) {past : List (Moment C)}
    (hHonest : p.place.task.phase.Honest g fun c s fact => g.ToldTo id c s fact (p.story ++ past))
    (hStory : Throughout (g.LearntFromAnswer past) p.story) :
    (q.place.task.phase.Honest g fun c s fact => g.ToldTo id c s fact (q.story ++ past)) ∧
      Throughout (g.LearntFromAnswer past) q.story := by
  have hKept := h.kept (P := fun r => p.story <:+ r.story ∧
    (r.place.task.phase.Honest g fun c s fact => g.ToldTo id c s fact (p.story ++ past)) ∧
      Throughout (g.LearntFromAnswer past) r.story) ?_ ⟨List.suffix_rfl, hHonest, hStory⟩
  · obtain ⟨hLater, hHonestToo, hStoryToo⟩ := hKept
    exact ⟨hHonestToo.mono fun _ _ _ hTold => hTold.later hLater, hStoryToo⟩
  · rintro a b hDoes ⟨hLater, hHonestToo, hStoryToo⟩
    exact ⟨hLater.trans hDoes.suffix,
      hDoes.learns hHonestToo (fun _ _ _ hTold => hTold.later hLater) hStoryToo⟩

/-- A call that is answered may remember what it was told by that. -/
theorem Hears.learns {p q : Passage C S B A} (h : Hears g id p q) {past : List (Moment C)}
    (hHonest : p.place.task.phase.Honest g fun c s fact => g.ToldTo id c s fact (p.story ++ past))
    (hStory : Throughout (g.LearntFromAnswer past) p.story) :
    (q.place.task.phase.Honest g fun c s fact => g.ToldTo id c s fact (q.story ++ past)) ∧
      Throughout (g.LearntFromAnswer past) q.story := by
  cases h with
  | nothing => exact ⟨hHonest, hStory⟩
  | @own connection q s next f story =>
      refine ⟨Plan.Honest.mono (hHonest _) ?_, trivial, hStory⟩
      rintro c r fact (hTold | ⟨rfl, rfl, hHolds⟩)
      · exact hTold.mono (List.subset_cons_self _ _)
      · exact ⟨q, _, List.mem_cons_self, hHolds⟩
  | @load c s lock next f story outcome hOutcome =>
      refine ⟨Plan.Honest.mono (hHonest outcome) ?_, trivial, hStory⟩
      rintro d r fact (hTold | ⟨-, rfl, hHolds⟩)
      · exact hTold.mono (List.subset_cons_self _ _)
      · exact ⟨.fact c, outcome, List.mem_cons_self, hHolds⟩

/-- A call at this place has neither ended nor been dropped. -/
def Place.InFlight : Place C A → Prop
  | .finished _ | .dropped => False
  | _ => True

/-- A call is in flight. -/
def Tale.InFlight (m : Tale C S B A) (id : TaskId) : Prop :=
  ∃ place, m.places[id]? = some place ∧ place.InFlight

/-- What calls under way may remember, and have remembered in their story, they were told: in that
story or in the past before it. Whoever was told anything is there. -/
structure Tale.Taught (g : Guard C S B) (past : List (Moment C)) (m : Tale C S B A) : Prop where
  honest : ∀ (id : TaskId) (place : Place C A), m.places[id]? = some place →
    place.task.phase.Honest g fun c s fact => g.ToldTo id c s fact (m.story ++ past)
  learnt : Throughout (g.LearntFromAnswer past) m.story
  there : ∀ id connection q s outcome,
    .answered id connection q s outcome ∈ m.story ++ past → id < m.places.length

namespace Tale.Taught

variable {past : List (Moment C)} {m m' : Tale C S B A}

theorem start (f : Floor C S B) : Taught g [] ({ floor := f } : Tale C S B A) where
  honest _ _ h := by cases h
  learnt := trivial
  there _ _ _ _ _ h := absurd h List.not_mem_nil

/-- A passage of one call after which it still remembers only what it was told. -/
theorem goOn (h : m.Taught g past) {place : Place C A} (hPlace : m.places[id]? = some place)
    {p : Passage C S B A} (hLater : m.story <:+ p.story)
    (hHonest : p.place.task.phase.Honest g fun c s fact => g.ToldTo id c s fact (p.story ++ past))
    (hLearnt : Throughout (g.LearntFromAnswer past) p.story)
    (hThere : ∀ j connection q s outcome,
      .answered j connection q s outcome ∈ p.story → .answered j connection q s outcome ∉ m.story →
        j = id) : (m.goOn id p).Taught g past where
  honest j other hOther := by
    rw [getElem?_goOn hPlace] at hOther
    split_ifs at hOther with hj
    · cases hOther
      rwa [hj]
    · exact (h.honest j other hOther).mono fun _ _ _ hTold => hTold.later hLater
  learnt := hLearnt
  there j connection q s outcome hMem := by
    have hLength : id < m.places.length := (List.getElem?_eq_some_iff.1 hPlace).1
    have hSame : (m.goOn id p).places.length = m.places.length := List.length_set
    rw [hSame]
    by_cases hOld : .answered j connection q s outcome ∈ m.story ++ past
    · exact h.there j connection q s outcome hOld
    · obtain ⟨hNew, hPast⟩ := not_or.1 (mt List.mem_append.2 hOld)
      rw [hThere j connection q s outcome ((List.mem_append.1 hMem).resolve_right hPast) hNew]
      exact hLength

/-- One step keeps to what was told, if a call that it starts remembers only what it will be told.
-/
theorem step (h : m.Taught g past) {event : Event S B (Outline A)} (hSteps : Steps g m event m')
    (hStart : ∀ call known, event = .start call → call.plan.Honest known) :
    m'.Taught g past := by
  cases hSteps with
  | start call =>
      refine ⟨fun j place hPlace => ?_, h.learnt, fun j connection q s outcome hMem => ?_⟩
      · rcases place_of_begun hPlace with hOld | rfl
        · exact h.honest j place hOld
        · exact hStart call _ rfl
      · rw [List.length_append]
        exact Nat.lt_add_right _ (h.there j connection q s outcome hMem)
  | turn hPlace hComes =>
      obtain ⟨hHonest, hLearnt⟩ := hComes.learns (h.honest _ _ hPlace) h.learnt
      refine h.goOn hPlace hComes.suffix hHonest hLearnt ?_
      intro j connection q s outcome hMem hOld
      obtain ⟨new, hNew, hCall⟩ := hComes.story_eq
      rw [hNew] at hMem
      exact absurd trivial (hCall _ ((List.mem_append.1 hMem).resolve_right hOld)).2
  | answer hPlace hHears =>
      obtain ⟨hHonest, hLearnt⟩ := hHears.learns (h.honest _ _ hPlace) h.learnt
      refine h.goOn hPlace hHears.suffix hHonest hLearnt ?_
      intro j connection q s outcome hMem hOld
      obtain ⟨new, hNew, hCall⟩ := hHears.story_eq
      rw [hNew] at hMem
      exact (hCall _ ((List.mem_append.1 hMem).resolve_right hOld)).1
  | @drop id place hPlace =>
      refine h.goOn hPlace List.suffix_rfl ?_ h.learnt fun _ _ _ _ _ hMem hOld => absurd hMem hOld
      simp only [tellDrop]
      split <;> trivial
  | around change _ => exact ⟨h.honest, h.learnt, h.there⟩

/-- Calls keep to what they were told over every run. -/
theorem run {m : Tale C S B Reply} (h : m.Taught g past) (hFormed : m.Formed g)
    (events : List (Event S B (Present × Call))) :
    (m.run g (events.map (Event.outlined g.joined))).Taught g past := by
  refine Tale.kept_by_run (P := fun m => m.Taught g past) hFormed ?_ h
  intro event hEvent m hFormed h
  refine h.step (Tale.steps hFormed event) fun outline known hStart => ?_
  obtain ⟨source, _, rfl⟩ := List.mem_map.1 hEvent
  cases source with
  | start call =>
      cases hStart
      rw [Call.plan_outline]
      exact call.2.plan_honest call.1 g.joined known
  | _ => cases hStart

/-- What was told up to the end of a story is the past of the next one. -/
theorem afresh (h : m.Taught g past) : m.afresh.Taught g (m.story ++ past) :=
  ⟨h.honest, trivial, h.there⟩

end Tale.Taught

/-- Calls that had ended at a moment, or been dropped, remember nothing afterwards. -/
structure Tale.Silent (ended : TaskId → Prop) (m : Tale C S B A) : Prop where
  places : ∀ id, ended id → ∃ place, m.places[id]? = some place ∧ ¬place.InFlight
  silent : ∀ moment ∈ m.story, ¬ended moment.call

/-- A call that does something is in flight. -/
theorem Comes.inFlight {p q : Passage C S B A} (h : Comes g id p q) (hEnded : ¬p.place.InFlight) :
    q = p := by
  rcases Relation.ReflTransGen.cases_head h.does with rfl | ⟨_, hDoes, _⟩
  · rfl
  · cases hDoes <;> exact absurd trivial hEnded

theorem Hears.inFlight {p q : Passage C S B A} (h : Hears g id p q) (hEnded : ¬p.place.InFlight) :
    q = p := by
  cases h with
  | nothing => rfl
  | own | load _ => exact absurd trivial hEnded

namespace Tale.Silent

variable {ended : TaskId → Prop} {m m' : Tale C S B A}

/-- A passage of one call that leaves it as it is if it had ended. -/
theorem goOn (h : m.Silent ended) {place : Place C A} (hPlace : m.places[id]? = some place)
    {p : Passage C S B A} (hSame : ¬place.InFlight → ¬p.place.InFlight ∧ p.story = m.story)
    (hStory : ∃ new, p.story = new ++ m.story ∧ ∀ moment ∈ new, moment.call = id) :
    (m.goOn id p).Silent ended where
  places j hj := by
    obtain ⟨other, hOther, hQuiet⟩ := h.places j hj
    rw [getElem?_goOn hPlace]
    split_ifs with hId
    · rw [hId, hPlace] at hOther
      cases hOther
      exact ⟨_, rfl, (hSame hQuiet).1⟩
    · exact ⟨other, hOther, hQuiet⟩
  silent moment hMem hEnded := by
    obtain ⟨new, hNew, hCall⟩ := hStory
    have hMem : moment ∈ new ++ m.story := hNew ▸ hMem
    rcases List.mem_append.1 hMem with hMem | hOld
    · rw [hCall moment hMem] at hEnded
      obtain ⟨other, hOther, hQuiet⟩ := h.places id hEnded
      rw [hPlace] at hOther
      cases hOther
      rw [(hSame hQuiet).2] at hNew
      rw [List.self_eq_append_left.1 hNew] at hMem
      cases hMem
    · exact h.silent moment hOld hEnded

theorem step (h : m.Silent ended) {event : Event S B (Outline A)} (hSteps : Steps g m event m') :
    m'.Silent ended := by
  cases hSteps with
  | start call =>
      refine ⟨fun id hId => ?_, h.silent⟩
      obtain ⟨place, hPlace, hQuiet⟩ := h.places id hId
      have hLength : id < m.places.length := (List.getElem?_eq_some_iff.1 hPlace).1
      exact ⟨place, List.getElem?_append_left hLength ▸ hPlace, hQuiet⟩
  | @turn id place p hPlace hComes =>
      refine h.goOn hPlace (fun hEnded => ?_) ?_
      · rw [hComes.inFlight hEnded]
        exact ⟨hEnded, rfl⟩
      · exact hComes.tells
  | @answer id place p hPlace hHears =>
      refine h.goOn hPlace (fun hEnded => ?_) ?_
      · rw [hHears.inFlight hEnded]
        exact ⟨hEnded, rfl⟩
      · exact hHears.tells
  | @drop id place hPlace =>
      refine h.goOn hPlace (fun _ => ⟨?_, rfl⟩) ⟨[], rfl, nofun⟩
      simp only [tellDrop]
      split <;> exact fun h => h
  | around change _ => exact ⟨h.places, h.silent⟩

/-- Over a whole run, whoever had ended before it says nothing. -/
theorem run (hFormed : m.Formed g) (events : List (Event S B (Outline A))) :
    (m.afresh.run g events).Silent fun id =>
      ∃ place, m.places[id]? = some place ∧ ¬place.InFlight :=
  Tale.kept_by_run (m := m.afresh) hFormed
    (fun event _ _ hFormed h => h.step (Tale.steps hFormed event))
    ⟨fun _ hEnded => hEnded, nofun⟩

end Tale.Silent

/-- What is remembered of a service was learnt in the story. -/
def RemembersLearnt (s : ServiceId) (x : Scene C S B) (story : List (Moment C)) : Prop :=
  ∀ c (fact : c.Fact), x.Remembers c s fact → ∃ id, .learnt id c s fact ∈ story

theorem RemembersLearnt.mono {s : ServiceId} {x y : Scene C S B} {story later : List (Moment C)}
    (h : RemembersLearnt s x story)
    (hRemembers : ∀ c (fact : c.Fact), y.Remembers c s fact → x.Remembers c s fact)
    (hLater : story ⊆ later) : RemembersLearnt s y later := by
  intro c fact hFact
  obtain ⟨id, hMem⟩ := h c fact (hRemembers c fact hFact)
  exact ⟨id, hLater hMem⟩

theorem RemembersLearnt.learn {s r : ServiceId} {x : Scene C S B} {story : List (Moment C)}
    (h : RemembersLearnt s x story) (id : TaskId) (c : Concern) (fact : c.Fact) :
    RemembersLearnt s (x.learn c r fact) (.learnt id c r fact :: story) := by
  intro d other hOther
  by_cases hKey : (d, s) = (c, r)
  · cases hKey
    rw [Scene.eq_of_remembers_learn hOther]
    exact ⟨id, List.mem_cons_self⟩
  · obtain ⟨id', hMem⟩ := h d other (Scene.remembers_of_learn hKey hOther)
    exact ⟨id', List.mem_cons_of_mem _ hMem⟩

/-- A lookup that began in the story returns a fact that was learnt in it, or what its own question
was answered in it. -/
def ReturnsSince (g : Guard C S B) (s : ServiceId) : Moment C → List (Moment C) → Prop
  | .returned id c r (.ok found), earlier => r = s → .begun id c r ∈ earlier →
    (∃ fact, found = some fact ∧ ∃ late, .learnt late c r fact ∈ earlier) ∨
      ∃ a, c.fact? a = found ∧ .answered id g.replica (.fact c) r (.ok a) ∈ earlier
  | _, _ => True

/-- A lookup that began in the story and was given the answer to its question was given it there. -/
def Place.AnsweredSince (g : Guard C S B) (story : List (Moment C)) (id : TaskId) :
    Place C A → Prop
  | .within c s lookup _ => ∀ lock outcome, lookup = (Midway.answered outcome).task g s lock →
    .begun id c s ∈ story → .answered id g.replica (.fact c) s outcome ∈ story
  | _ => True

/-- Calls under way after a service was forgotten: what is remembered of it was learnt since, and
lookups that have begun since return what was learnt, or told them, since. -/
structure Tale.Relearns (g : Guard C S B) (s : ServiceId) (m : Tale C S B A) : Prop where
  remembers : RemembersLearnt s m.floor.scene m.story
  answered : ∀ (id : TaskId) (place : Place C A), m.places[id]? = some place →
    place.AnsweredSince g m.story id
  returned : Throughout (g.ReturnsSince s) m.story

/-- What a call does in its turn leaves it without an answer to settle. -/
theorem Does.answeredSince {p q : Passage C S B A} (h : Does g id p q) :
    q.place.AnsweredSince g q.story id := by
  cases hPlace : q.place with
  | within c s lookup next =>
      rintro lock outcome rfl
      exact absurd hPlace h.not_answered
  | ready _ | asking _ _ _ _ | finished _ | dropped => trivial

/-- A call that does one thing in its turn remembers what it learns, and returns from a lookup what
is remembered or what it was told. -/
theorem Does.relearns {p q : Passage C S B A} (h : Does g id p q) {s : ServiceId}
    (hRemembers : RemembersLearnt s p.floor.scene p.story)
    (hAnswered : p.place.AnsweredSince g p.story id)
    (hReturned : Throughout (g.ReturnsSince s) p.story) :
    RemembersLearnt s q.floor.scene q.story ∧ Throughout (g.ReturnsSince s) q.story := by
  have hLook (x : Scene C S B) (c : Concern) (r : ServiceId) (d : Concern) (fact : d.Fact)
      (h : (x.look c r).2.Remembers d s fact) : x.Remembers d s fact :=
    Scene.remembers_of_look h
  cases h with
  | finish | note | refused _ | ask _ | count | enter _ => exact ⟨hRemembers, hReturned⟩
  | load _ => exact ⟨hRemembers.mono (hLook _ _ _) (List.Subset.refl _), hReturned⟩
  | learn => exact ⟨hRemembers.learn id _ _, trivial, hReturned⟩
  | miss _ _ =>
      exact ⟨hRemembers.mono (hLook _ _ _) (List.subset_cons_self _ _), trivial, hReturned⟩
  | @hit c r next f story fact hLive =>
      refine ⟨hRemembers.mono (hLook _ _ _) ?_, ?_, trivial, hReturned⟩
      · exact List.Subset.trans (List.subset_cons_self _ _) (List.subset_cons_self _ _)
      · rintro rfl -
        obtain ⟨late, hLate⟩ := hRemembers c fact (Scene.remembers_of_live hLive)
        exact Or.inl ⟨fact, rfl, late, List.mem_cons_of_mem _ hLate⟩
  | @served c r lock next f story fact hLive =>
      rw [Floor.scene_release]
      refine ⟨hRemembers.mono (hLook _ _ _) (List.subset_cons_self _ _), ?_, hReturned⟩
      rintro rfl -
      obtain ⟨late, hLate⟩ := hRemembers c fact (Scene.remembers_of_live hLive)
      exact Or.inl ⟨fact, rfl, late, hLate⟩
  | @settle c r lock outcome next f story =>
      rw [Floor.scene_release]
      cases outcome with
      | error e =>
          exact ⟨hRemembers.mono (fun _ _ h => h) (List.subset_cons_self _ _), trivial, hReturned⟩
      | ok a =>
          have hTold (hBegun : .begun id c r ∈ story) :
              .answered id g.replica (.fact c) r (.ok a) ∈ story := hAnswered lock _ rfl hBegun
          simp only [settled, settledStory, Except.map]
          cases hFact : c.fact? a with
          | none =>
              refine ⟨hRemembers.mono (fun _ _ h => h) (List.subset_cons_self _ _), ?_, hReturned⟩
              exact fun _ hBegun => Or.inr ⟨a, hFact, hTold hBegun⟩
          | some fact =>
              refine ⟨(RemembersLearnt.learn hRemembers id c fact).mono (fun _ _ h => h)
                (List.subset_cons_self _ _), ?_, trivial, hReturned⟩
              exact fun _ _ => Or.inl ⟨fact, rfl, id, List.mem_cons_self⟩

theorem Comes.relearns {p q : Passage C S B A} (h : Comes g id p q) {s : ServiceId}
    (hRemembers : RemembersLearnt s p.floor.scene p.story)
    (hAnswered : p.place.AnsweredSince g p.story id)
    (hReturned : Throughout (g.ReturnsSince s) p.story) :
    RemembersLearnt s q.floor.scene q.story ∧ q.place.AnsweredSince g q.story id ∧
      Throughout (g.ReturnsSince s) q.story := by
  refine h.kept (P := fun r => RemembersLearnt s r.floor.scene r.story ∧
    r.place.AnsweredSince g r.story id ∧ Throughout (g.ReturnsSince s) r.story) ?_
    ⟨hRemembers, hAnswered, hReturned⟩
  rintro a b hDoes ⟨hRemembersToo, hAnsweredToo, hReturnedToo⟩
  obtain ⟨hNow, hStory⟩ := hDoes.relearns hRemembersToo hAnsweredToo hReturnedToo
  exact ⟨hNow, hDoes.answeredSince, hStory⟩

theorem Hears.relearns {p q : Passage C S B A} (h : Hears g id p q) {s : ServiceId}
    (hRemembers : RemembersLearnt s p.floor.scene p.story)
    (hAnswered : p.place.AnsweredSince g p.story id)
    (hReturned : Throughout (g.ReturnsSince s) p.story) :
    RemembersLearnt s q.floor.scene q.story ∧ q.place.AnsweredSince g q.story id ∧
      Throughout (g.ReturnsSince s) q.story := by
  cases h with
  | nothing => exact ⟨hRemembers, hAnswered, hReturned⟩
  | own =>
      exact ⟨hRemembers.mono (fun _ _ h => h) (List.subset_cons_self _ _), trivial, trivial,
        hReturned⟩
  | load _ =>
      refine ⟨hRemembers.mono (fun _ _ h => h) (List.subset_cons_self _ _), ?_, trivial, hReturned⟩
      rintro lock outcome hTask -
      cases Midway.task_injective hTask
      exact List.mem_cons_self

/-- What others add to the story changes nothing for a lookup. -/
theorem Place.AnsweredSince.mono {place : Place C A} {story later : List (Moment C)}
    (h : place.AnsweredSince g story id)
    (hLater : ∃ new, later = new ++ story ∧ ∀ moment ∈ new, moment.call ≠ id) :
    place.AnsweredSince g later id := by
  obtain ⟨new, rfl, hCall⟩ := hLater
  cases place with
  | within c s lookup next =>
      intro lock outcome hTask hBegun
      rcases List.mem_append.1 hBegun with hNew | hOld
      · exact absurd rfl (hCall _ hNew)
      · exact List.mem_append_right _ (h lock outcome hTask hOld)
  | ready _ | asking _ _ _ _ | finished _ | dropped => trivial

namespace Tale.Relearns

variable {s : ServiceId} {m m' : Tale C S B A}

/-- A passage of one call keeps it so if that call does. -/
theorem goOn (h : m.Relearns g s) {place : Place C A} (hPlace : m.places[id]? = some place)
    {p : Passage C S B A}
    (hStory : ∃ new, p.story = new ++ m.story ∧ ∀ moment ∈ new, moment.call = id)
    (hOwn : RemembersLearnt s p.floor.scene p.story ∧ p.place.AnsweredSince g p.story id ∧
      Throughout (g.ReturnsSince s) p.story) : (m.goOn id p).Relearns g s := by
  obtain ⟨hRemembers, hAnswered, hReturned⟩ := hOwn
  obtain ⟨new, hNew, hCall⟩ := hStory
  refine ⟨hRemembers, fun j other hOther => ?_, hReturned⟩
  rw [getElem?_goOn hPlace] at hOther
  split_ifs at hOther with hj
  · cases hOther
    rwa [hj]
  · refine (h.answered j other hOther).mono ⟨new, hNew, fun moment hMem hSame => hj ?_⟩
    exact hSame.symm.trans (hCall moment hMem)

/-- One step keeps it so. -/
theorem step (h : m.Relearns g s) {event : Event S B (Outline A)} (hSteps : Steps g m event m') :
    m'.Relearns g s := by
  cases hSteps with
  | start call =>
      refine ⟨h.remembers, fun j place hPlace => ?_, h.returned⟩
      rcases place_of_begun hPlace with hOld | rfl
      · exact h.answered j place hOld
      · trivial
  | turn hPlace hComes =>
      exact h.goOn hPlace hComes.tells
        (hComes.relearns h.remembers (h.answered _ _ hPlace) h.returned)
  | answer hPlace hHears =>
      exact h.goOn hPlace hHears.tells
        (hHears.relearns h.remembers (h.answered _ _ hPlace) h.returned)
  | @drop id place hPlace =>
      refine h.goOn hPlace ⟨[], rfl, nofun⟩ ⟨?_, ?_, h.returned⟩
      · simp only [tellDrop, scene_drop]
        exact h.remembers
      · simp only [tellDrop]
        split <;> trivial
  | around change hRemembers =>
      exact ⟨h.remembers.mono (fun c fact => hRemembers _ c s fact) (List.Subset.refl _), h.answered,
        h.returned⟩

/-- Over a whole run after a moment at which nothing is remembered of the service, all that comes of
it is learnt since. -/
theorem run (hFormed : m.Formed g)
    (hNothing : ∀ c (fact : c.Fact), ¬m.floor.scene.Remembers c s fact)
    (events : List (Event S B (Outline A))) : (m.afresh.run g events).Relearns g s := by
  have hStart : m.afresh.Relearns g s := by
    refine ⟨fun c fact hFact => absurd hFact (hNothing c fact), fun id place _ => ?_, trivial⟩
    cases place with
    | within c r lookup next => exact fun _ _ _ hBegun => by cases hBegun
    | ready _ | asking _ _ _ _ | finished _ | dropped => trivial
  exact Tale.kept_by_run (P := fun m => m.Relearns g s) (m := m.afresh) hFormed
    (fun event _ _ hFormed h => h.step (Tale.steps hFormed event)) hStart

end Tale.Relearns

/-- Somebody was told a fact about a service by the replica. -/
def Told (g : Guard C S B) (c : Concern) (s : ServiceId) (fact : c.Fact)
    (story : List (Moment C)) : Prop :=
  ∃ id, g.ToldTo id c s fact story

/-- What calls come by after a service was forgotten, told by the stories of a run before a change,
from the change to the forgetting, and after it. A lookup that begins after the forgetting returns a
fact that the replica has told since the change, or one that it told before the change to a call in
flight at the forgetting, which remembered it only after that. One that returns nothing was told so
itself. And what a call remembers, the replica has told since the change or told that call before. -/
structure ForgetsOutdated (g : Guard C S B) (s : ServiceId) (inFlight : TaskId → Prop)
    (before between after : List (Moment C)) : Prop where
  returned : ∀ id c fact earlier, .returned id c s (.ok (some fact)) :: earlier <:+ after →
    .begun id c s ∈ earlier →
      g.Told c s fact (earlier ++ between) ∨
        ∃ late, inFlight late ∧ .learnt late c s fact ∈ earlier ∧ g.ToldTo late c s fact before
  absent : ∀ id c earlier, .returned id c s (.ok none) :: earlier <:+ after →
    .begun id c s ∈ earlier →
      ∃ a, c.fact? a = none ∧ .answered id g.replica (.fact c) s (.ok a) ∈ earlier
  learnt : ∀ id c fact earlier, .learnt id c s fact :: earlier <:+ after →
    g.Told c s fact (earlier ++ between) ∨ inFlight id ∧ g.ToldTo id c s fact before

/-- What a call remembers after some moment, it was told since the past, or in the past and was still in
flight at that moment. -/
theorem Tale.Taught.learnt_after {m : Tale C S B Reply} {past : List (Moment C)}
    (h : m.Taught g past) (hFormed : m.Formed g) (events : List (Event S B (Present × Call)))
    {c : Concern} {s : ServiceId} {fact : c.Fact} {earlier : List (Moment C)}
    (hSuffix : .learnt id c s fact :: earlier <:+
      (m.afresh.run g (events.map (Event.outlined g.joined))).story) :
    g.Told c s fact (earlier ++ m.story) ∨ m.InFlight id ∧ g.ToldTo id c s fact past := by
  have hTaught := Tale.Taught.run h.afresh hFormed events
  have hTold : g.ToldTo id c s fact (earlier ++ (m.story ++ past)) :=
    (hTaught.learnt.of_suffix hSuffix).1
  rw [← List.append_assoc] at hTold
  rcases hTold.of_append with hSince | hBefore
  · exact Or.inl ⟨id, hSince⟩
  · -- Whoever was told before is there at the moment, and those who have ended by then say nothing.
    refine Or.inr ⟨?_, hBefore⟩
    obtain ⟨q, outcome, hMem, _⟩ := hBefore
    have hLength := h.there id g.replica q s outcome (List.mem_append_right _ hMem)
    have hSilent := Tale.Silent.run hFormed (events.map (Event.outlined g.joined))
    by_contra hEnded
    refine hSilent.silent _ (hSuffix.subset List.mem_cons_self) ?_
    exact ⟨_, List.getElem?_eq_getElem hLength, fun hInFlight => hEnded
      ⟨_, List.getElem?_eq_getElem hLength, hInFlight⟩⟩

/-- Lookups that begin after a service was forgotten return what calls have learnt since, or were told
it themselves, so what holds of all that is learnt holds of them. -/
theorem Tale.Relearns.forgetsOutdated {s : ServiceId} {m : Tale C S B A} (h : m.Relearns g s)
    {inFlight : TaskId → Prop} {before between : List (Moment C)}
    (hLearnt : ∀ id c fact earlier, .learnt id c s fact :: earlier <:+ m.story →
      g.Told c s fact (earlier ++ between) ∨ inFlight id ∧ g.ToldTo id c s fact before) :
    g.ForgetsOutdated s inFlight before between m.story where
  returned id c fact earlier hSuffix hBegun := by
    rcases (h.returned.of_suffix hSuffix).1 rfl hBegun with
      ⟨_, ⟨⟩, late, hLate⟩ | ⟨a, hFact, hAnswered⟩
    · obtain ⟨later, earliest, hSplit⟩ := List.append_of_mem hLate
      have hEarliest : .learnt late c s fact :: earliest <:+ earlier := ⟨later, hSplit.symm⟩
      obtain ⟨id', hSince⟩ | ⟨hInFlight, hBefore⟩ := hLearnt late c fact earliest
        (hEarliest.trans ((List.suffix_cons _ _).trans hSuffix))
      · exact Or.inl ⟨id', hSince.later ((List.suffix_cons _ _).trans hEarliest)⟩
      · exact Or.inr ⟨late, hInFlight, hLate, hBefore⟩
    · exact Or.inl ⟨id, .fact c, .ok a, List.mem_append_left _ hAnswered, .single hFact⟩
  absent id c earlier hSuffix hBegun := by
    obtain ⟨_, ⟨⟩, _⟩ | ⟨a, hFact, hAnswered⟩ := (h.returned.of_suffix hSuffix).1 rfl hBegun
    exact ⟨a, hFact, hAnswered⟩
  learnt := hLearnt

/-- An invalidation drops whatever is out of date, but not what calls in flight were told before it.
-/
theorem forgets_outdated (g : Guard C S B) (x : Scene C S B) (change : S → S) (s : ServiceId)
    (before between after : List (Event S B (Present × Call))) :
    let outlined := List.map (Event.outlined g.joined)
    let start : Tale C S B Reply := { floor := { scene := x } }
    let unchanged := start.run g (outlined before)
    let changed := (unchanged.step g (.changeStores change)).afresh
    let forgotten := (changed.run g (outlined between)).step g (.invalidate s)
    let ended := forgotten.afresh.run g (outlined after)
    ended.machine = Machine.run g { floor := { scene := x } }
        ((before ++ .changeStores change :: between ++ .invalidate s :: after).map
          (Event.planned g.joined)) ∧
      g.ForgetsOutdated s forgotten.InFlight unchanged.story forgotten.story ended.story := by
  intro outlined start unchanged changed forgotten ended
  have hFormed : start.Formed g := .start _
  have hUnchanged : unchanged.Formed g := hFormed.run _
  have hChanged : changed.Formed g := hUnchanged
  have hForgotten : forgotten.Formed g := hChanged.run _
  constructor
  case left =>
    have hBefore := Tale.machine_run_outlined hFormed before
    have hBetween := Tale.machine_run_outlined hChanged between
    have hAfter := Tale.machine_run_outlined (m := forgotten.afresh) hForgotten after
    have hChange : changed.machine = unchanged.machine.step g (.changeStores change) := rfl
    have hForget : forgotten.afresh.machine =
        (changed.run g (outlined between)).machine.step g (.invalidate s) := rfl
    refine hAfter.trans ?_
    rw [hForget, hBetween, hChange, hBefore]
    simp only [Machine.run, List.map_append, List.map_cons, List.foldl_append, List.foldl_cons]
    rfl
  case right =>
    have hTold : unchanged.Taught g [] := Tale.Taught.run (.start _) hFormed before
    have hToldSince : changed.Taught g (unchanged.story ++ []) :=
      ⟨hTold.honest, trivial, hTold.there⟩
    have hToldBetween : forgotten.Taught g (unchanged.story ++ []) := by
      have hRun := hToldSince.run hChanged between
      exact ⟨hRun.honest, hRun.learnt, hRun.there⟩
    rw [List.append_nil] at hToldBetween
    have hRelearns : ended.Relearns g s :=
      .run hForgotten (fun c fact h => (Scene.remembers_of_invalidate h).2 rfl) _
    exact hRelearns.forgetsOutdated fun id c fact earlier =>
      hToldBetween.learnt_after hForgotten after

/-- A call was told that a service is active. The service is deactivated and then forgotten, the
call goes on and remembers what it was told, and a call that begins only then finds it. -/
theorem outdated_after_invalidation :
    let s : ServiceId := default
    let lookup : Event MemoryStore Unit (Present × Call) :=
      .start ({ now := .midnight .epoch }, .isActive s)
    let deactivate : Event MemoryStore Unit (Present × Call) :=
      .changeStores fun m => (m.setActive s false).2
    let before := [lookup, .turn 0, .answer 0, deactivate]
    let events := before ++ [.invalidate s, .turn 0, lookup, .turn 1]
    let store : MemoryStore := { label := "replica" }
    let floor : Floor Unit MemoryStore Unit :=
      { scene := opening {} {} (store.upsert s { active := true }) () }
    let run (events : List (Event MemoryStore Unit (Present × Call))) :=
      Machine.run ofMemory { floor } (events.map (Event.planned ofMemory.joined))
    let changed := run before
    let forgotten := run (before ++ [.invalidate s])
    let ended := run events
    let told : Tale Unit MemoryStore Unit Reply :=
      Tale.run ofMemory { floor } (events.map (Event.outlined ofMemory.joined))
    (changed.floor.scene.stores.services.get? s).map (·.active) = some false ∧
      (ended.floor.scene.stores.services.get? s).map (·.active) = some false ∧
      forgotten.tasks.length = 1 ∧
      (ended.tasks[1]?).map (·.phase) = some (.finished (.ok (.active (some true)))) ∧
      told.machine = ended ∧
      told.story =
        [.returned 1 .serviceActive s (.ok (some true)), .begun 1 .serviceActive s,
          .returned 0 .serviceActive s (.ok (some true)), .learnt 0 .serviceActive s true,
          .answered 0 () (.fact .serviceActive) s (.ok (some true)), .begun 0 .serviceActive s] := by
  refine ⟨by decide +kernel, by decide +kernel, rfl, ?_, ?_, rfl⟩
  · rfl
  · exact Tale.machine_run_outlined (Tale.Formed.start _) _

end Tollgate.Guard
