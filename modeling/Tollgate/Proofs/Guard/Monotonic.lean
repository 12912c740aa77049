import Mathlib.Order.Hom.Basic
import Tollgate.Proofs.Guard.Tale

/-!
Why lookups of a fact never go back in time. Each one that returns does so with an answer of the
replica: with the one to its own load, or with the one that the last call to remember the fact was
given. As loads of a fact follow one another behind its gate, and each remembers before it lets go of
the gate, no lookup returns an answer older than the answer of one that returned before.
-/

namespace Tollgate.Guard

variable {C S B A D : Type}

/-- The time of the last answer to a call since it began its last lookup, counted in moments of the
story. -/
def answerTime? (id : TaskId) : List (Moment C) → Option Nat
  | [] => none
  | .begun id' _ _ :: story => if id' = id then none else answerTime? id story
  | .answered id' _ _ _ _ :: story => if id' = id then some story.length else answerTime? id story
  | .learnt .. :: story | .returned .. :: story => answerTime? id story

/-- The time of the answer from which a fact was last remembered. -/
def storedTime? (c : Concern) (s : ServiceId) : List (Moment C) → Option Nat
  | [] => none
  | .learnt id d r _ :: story =>
    if d = c ∧ r = s then answerTime? id story else storedTime? c s story
  | .begun .. :: story | .answered .. :: story | .returned .. :: story => storedTime? c s story

/-- The time of the answer with which a lookup of a call comes back: its own, if it asked for one,
and else that from which the fact is remembered. -/
def sourceTime? (id : TaskId) (c : Concern) (s : ServiceId) (story : List (Moment C)) :
    Option Nat :=
  (answerTime? id story).or (storedTime? c s story)

/-- The replica gave an answer at a time of the story. -/
def ToldAt (g : Guard C S B) (time : Nat) (c : Concern) (s : ServiceId) (a : c.Answer)
    (story : List (Moment C)) : Prop :=
  ∃ id earlier, .answered id g.replica (.fact c) s (.ok a) :: earlier <:+ story ∧
    earlier.length = time

/-- A lookup of a fact returns, at the moment, just what the replica told at the time of its source.
-/
inductive EndsWith (g : Guard C S B) (c : Concern) (s : ServiceId) :
    Moment C → List (Moment C) → Nat → Prop
  | returned {id : TaskId} {found : Option c.Fact} {story : List (Moment C)} {time : Nat}
      {a : c.Answer} (hSource : sourceTime? id c s story = some time)
      (hTold : g.ToldAt time c s a story) (hFound : c.fact? a = found) :
      EndsWith g c s (.returned id c s (.ok found)) story time

/-- Some lookup of a fact has returned in the story the answer of a time. -/
def Ended (g : Guard C S B) (c : Concern) (s : ServiceId) (story : List (Moment C)) (time : Nat) :
    Prop :=
  ∃ moment earlier, moment :: earlier <:+ story ∧ g.EndsWith c s moment earlier time

variable {g : Guard C S B} {c : Concern} {s : ServiceId} {story later : List (Moment C)}
  {time : Nat} {id : TaskId}

theorem ToldAt.mono {a : c.Answer} (h : g.ToldAt time c s a story) (hLater : story <:+ later) :
    g.ToldAt time c s a later := by
  obtain ⟨id, earlier, hSuffix, hLength⟩ := h
  exact ⟨id, earlier, hSuffix.trans hLater, hLength⟩

theorem ToldAt.lt_length {a : c.Answer} (h : g.ToldAt time c s a story) : time < story.length := by
  obtain ⟨id, earlier, hSuffix, rfl⟩ := h
  exact hSuffix.length_le

theorem ended_cons {moment : Moment C} :
    g.Ended c s (moment :: story) time ↔
      g.EndsWith c s moment story time ∨ g.Ended c s story time := by
  constructor
  · rintro ⟨first, earlier, hSuffix, hEnds⟩
    rcases List.suffix_cons_iff.1 hSuffix with hSame | hSuffix
    · cases hSame
      exact Or.inl hEnds
    · exact Or.inr ⟨first, earlier, hSuffix, hEnds⟩
  · rintro (hEnds | ⟨first, earlier, hSuffix, hEnds⟩)
    · exact ⟨moment, story, List.suffix_rfl, hEnds⟩
    · exact ⟨first, earlier, hSuffix.trans (List.suffix_cons _ _), hEnds⟩

/-- Lookups return answers of the past. -/
theorem Ended.lt_length (h : g.Ended c s story time) : time < story.length := by
  obtain ⟨moment, earlier, hSuffix, ⟨_, hTold, _⟩⟩ := h
  exact Nat.lt_trans hTold.lt_length hSuffix.length_le

/-- No answer that a lookup of the fact has returned is newer than this time. -/
def NoneNewer (g : Guard C S B) (c : Concern) (s : ServiceId) (story : List (Moment C))
    (time : Nat) : Prop :=
  ∀ earlier, g.Ended c s story earlier → earlier ≤ time

theorem NoneNewer.cons {moment : Moment C} (h : g.NoneNewer c s story time)
    (hNow : ∀ now, g.EndsWith c s moment story now → now ≤ time) :
    g.NoneNewer c s (moment :: story) time := by
  intro earlier hEnded
  rcases ended_cons.1 hEnded with hEnds | hBefore
  · exact hNow earlier hEnds
  · exact h earlier hBefore

/-- A fact that is remembered is the one that the replica told at the time from which it was last
remembered, and no lookup has returned a newer answer. -/
def Recorded (g : Guard C S B) (x : Scene C S B) (story : List (Moment C)) : Prop :=
  ∀ c s (fact : c.Fact), x.Remembers c s fact → ∃ time a, storedTime? c s story = some time ∧
    g.ToldAt time c s a story ∧ c.fact? a = some fact ∧ g.NoneNewer c s story time

/-- Each lookup that returns without a failure does so with an answer as new as all that lookups of
the same fact have returned before. -/
def Ordered (g : Guard C S B) (story : List (Moment C)) : Prop :=
  Throughout (fun moment earlier => ∀ id c s (found : Option c.Fact),
    moment = .returned id c s (.ok found) →
      ∃ time, g.EndsWith c s moment earlier time ∧ g.NoneNewer c s earlier time) story

/-- A call that remembers facts only in lookups. -/
def Outline.OnlyLooksUp : Outline A → Prop
  | .done _ => True
  | .note _ rest => rest.OnlyLooksUp
  | .ask _ _ _ next => ∀ outcome, (next outcome).OnlyLooksUp
  | .learn .. => False
  | .count _ next => ∀ outcome, (next outcome).OnlyLooksUp
  | .lookup _ _ next => ∀ outcome, (next outcome).OnlyLooksUp

namespace Outline.OnlyLooksUp

theorem followedBy {p : Outline A} {f : Outcome A → Outline D} (h : p.OnlyLooksUp)
    (hf : ∀ outcome, (f outcome).OnlyLooksUp) : (p.followedBy f).OnlyLooksUp := by
  induction p with
  | done outcome => exact hf outcome
  | note n rest ih => exact ih h
  | learn c s fact rest ih => exact h.elim
  | ask _ _ _ next ih | count _ next ih | lookup _ _ next ih =>
      exact fun outcome => ih outcome (h outcome)

theorem andThen {p : Outline A} {f : A → Outline D} (h : p.OnlyLooksUp)
    (hf : ∀ a, (f a).OnlyLooksUp) : (p.andThen f).OnlyLooksUp := by
  refine h.followedBy fun outcome => ?_
  cases outcome with
  | ok a => exact hf a
  | error e => trivial

theorem map {p : Outline A} (f : A → D) (h : p.OnlyLooksUp) : (p.map f).OnlyLooksUp :=
  h.followedBy fun _ => trivial

theorem single (c : Concern) (s : ServiceId) : (Outline.single c s).OnlyLooksUp :=
  fun _ => trivial

theorem evaluate (now : Timestamp) (s : ServiceId) (permission : String) :
    (Outline.evaluate now s permission).OnlyLooksUp := by
  refine (single .serviceActive s).andThen fun active => ?_
  match active with
  | none => trivial
  | some false => trivial
  | some true =>
      refine ((single .apiKeys s).map _).andThen fun keys => ?_
      simp only
      split
      · trivial
      · refine ((single .permissions s).map _).andThen fun ps => ?_
        split <;> trivial

/-- Every call but one that loads all facts together remembers only what it looks up. -/
theorem call (present : Present) (joined : Bool) {call : Call} (hPrime : ∀ s, call ≠ .prime s) :
    (call.outline present joined).OnlyLooksUp := by
  cases call with
  | apiKeys s => exact ((single .apiKeys s).map _).map _
  | permissions s => exact ((single .permissions s).map _).map _
  | isActive s => exact (single .serviceActive s).map _
  | prime s => exact absurd rfl (hPrime s)
  | authorize s permission =>
      refine ((evaluate present.now s permission).followedBy fun outcome => ?_).map _
      cases outcome with
      | ok service => trivial
      | error e =>
          simp only
          split <;> trivial
  | checkLimit s limit =>
      refine OnlyLooksUp.map _ (OnlyLooksUp.andThen (fun _ => trivial) fun sent => ?_)
      match sent with
      | none => trivial
      | some n =>
          simp only
          split <;> trivial
  | incrementDaily s | dailyCount s | setDaily s value | readReplica s => exact fun _ => trivial

end Outline.OnlyLooksUp

/-- What a call leaves of a scene and its story while it goes on: no other call begins a lookup or is
answered meanwhile; what was not remembered still is not, and no lookup of it has returned, except
for the fact that the call loads; and the story stays in order. -/
structure Moves (g : Guard C S B) (id : TaskId) (loads : Option GateKey) (x : Scene C S B)
    (story : List (Moment C)) (y : Scene C S B) (later : List (Moment C)) : Prop where
  suffix : story <:+ later
  answers : ∀ j, j ≠ id → answerTime? j later = answerTime? j story
  quiet : ∀ c s, loads ≠ some (c, s) → (∀ fact : c.Fact, ¬x.Remembers c s fact) →
    (∀ fact : c.Fact, ¬y.Remembers c s fact) ∧
      ∀ time, g.Ended c s later time → g.Ended c s story time
  recorded : g.Recorded x story → g.Ordered story → g.Recorded y later ∧ g.Ordered later

/-- A moment with which no lookup returns leaves the record as it is, if it is not one at which a
fact is remembered. -/
theorem Recorded.cons {x : Scene C S B} {moment : Moment C} (h : g.Recorded x story)
    (hStored : ∀ c s, storedTime? c s (moment :: story) = storedTime? c s story)
    (hNow : ∀ c s (fact : c.Fact) time now, x.Remembers c s fact →
      storedTime? c s story = some time → g.EndsWith c s moment story now → now ≤ time) :
    g.Recorded x (moment :: story) := by
  intro c s fact hFact
  obtain ⟨time, a, hTime, hTold, hAnswer, hNewest⟩ := h c s fact hFact
  exact ⟨time, a, (hStored c s).trans hTime, hTold.mono (List.suffix_cons _ _), hAnswer,
    hNewest.cons fun now => hNow c s fact time now hFact hTime⟩

namespace Moves

variable {loads : Option GateKey} {x y z : Scene C S B} {latest : List (Moment C)}

theorem of_remembers (story : List (Moment C))
    (h : ∀ c s (fact : c.Fact), y.Remembers c s fact → x.Remembers c s fact) :
    g.Moves id loads x story y story where
  suffix := List.suffix_rfl
  answers _ _ := rfl
  quiet c s _ hNothing := ⟨fun fact hFact => hNothing fact (h c s fact hFact), fun _ h => h⟩
  recorded hRecorded hOrdered :=
    ⟨fun c s fact hFact => hRecorded c s fact (h c s fact hFact), hOrdered⟩

theorem of_memory (story : List (Moment C)) (h : y.memory = x.memory) :
    g.Moves id loads x story y story :=
  .of_remembers story fun _ _ _ => Scene.remembers_of_memory h

theorem look (x : Scene C S B) (c : Concern) (s : ServiceId) (story : List (Moment C)) :
    g.Moves id loads x story (x.look c s).2 story :=
  .of_remembers story fun _ _ _ => Scene.remembers_of_look

theorem trans (first : g.Moves id loads x story y later)
    (second : g.Moves id loads y later z latest) : g.Moves id loads x story z latest where
  suffix := first.suffix.trans second.suffix
  answers j hj := (second.answers j hj).trans (first.answers j hj)
  quiet c s hLoads hNothing := by
    obtain ⟨hStill, hEnded⟩ := first.quiet c s hLoads hNothing
    obtain ⟨hStillToo, hEndedToo⟩ := second.quiet c s hLoads hStill
    exact ⟨hStillToo, fun time h => hEnded time (hEndedToo time h)⟩
  recorded hRecorded hOrdered :=
    (first.recorded hRecorded hOrdered).elim second.recorded

/-- A moment with which no lookup returns, and at which nothing is remembered, moves nothing. -/
theorem of_moment (x : Scene C S B) {moment : Moment C} (story : List (Moment C))
    (hAnswers : ∀ j, j ≠ id → answerTime? j (moment :: story) = answerTime? j story)
    (hStored : ∀ c s, storedTime? c s (moment :: story) = storedTime? c s story)
    (hReturns : ∀ id c s (found : Option c.Fact), moment ≠ .returned id c s (.ok found)) :
    g.Moves id loads x story x (moment :: story) where
  suffix := List.suffix_cons _ _
  answers := hAnswers
  quiet c s _ hNothing := by
    refine ⟨hNothing, fun time h => (ended_cons.1 h).elim ?_ fun h => h⟩
    rintro ⟨_, _, _⟩
    exact absurd rfl (hReturns _ _ _ _)
  recorded hRecorded hOrdered := by
    refine ⟨hRecorded.cons hStored ?_, fun id c s found hSame => ?_, hOrdered⟩
    · rintro c s fact time now - - ⟨_, _, _⟩
      exact absurd rfl (hReturns _ _ _ _)
    · exact absurd hSame (hReturns id c s found)

/-- A lookup that asked for nothing returns what the replica told when it was remembered. -/
theorem found {fact : c.Fact} (hFact : x.Remembers c s fact)
    (hUnanswered : answerTime? id story = none) :
    g.Moves id loads x story x (.returned id c s (.ok (some fact)) :: story) where
  suffix := List.suffix_cons _ _
  answers _ _ := rfl
  quiet d r _ hNothing := by
    refine ⟨hNothing, fun time h => (ended_cons.1 h).elim (fun hEnds => ?_) fun h => h⟩
    cases hEnds
    exact absurd hFact (hNothing _)
  recorded hRecorded hOrdered := by
    have hSource : sourceTime? id c s story = storedTime? c s story := by
      simp only [sourceTime?, hUnanswered, Option.none_or]
    constructor
    case left =>
      refine hRecorded.cons (fun _ _ => rfl) ?_
      rintro d r other time now - hTime hEnds
      cases hEnds with
      | returned hNow _ _ =>
          rw [hSource, hTime] at hNow
          exact Nat.le_of_eq (Option.some.inj hNow).symm
    case right =>
      refine ⟨?_, hOrdered⟩
      rintro _ _ _ _ ⟨⟩
      obtain ⟨time, a, hStored, hTold, hAnswer, hNewest⟩ := hRecorded c s fact hFact
      exact ⟨time, .returned (hSource.trans hStored) hTold hAnswer, hNewest⟩

/-- A lookup that was given an answer returns what that holds, once it is remembered. -/
theorem loaded {a : c.Answer} {found : Option c.Fact} (hFound : c.fact? a = found)
    (hStored : ∀ fact : c.Fact, x.Remembers c s fact → storedTime? c s story = some time)
    (hAnswer : answerTime? id story = some time) (hTold : g.ToldAt time c s a story)
    (hNewest : g.NoneNewer c s story time) :
    g.Moves id (some (c, s)) x story x (.returned id c s (.ok found) :: story) where
  suffix := List.suffix_cons _ _
  answers _ _ := rfl
  quiet d r hKey hNothing := by
    refine ⟨hNothing, fun time h => (ended_cons.1 h).elim (fun hEnds => ?_) fun h => h⟩
    cases hEnds
    exact absurd rfl hKey
  recorded hRecorded hOrdered := by
    have hSource : sourceTime? id c s story = some time := by
      simp only [sourceTime?, hAnswer, Option.some_or]
    constructor
    case left =>
      refine hRecorded.cons (fun _ _ => rfl) ?_
      rintro d r fact stored now hFact hTime hEnds
      cases hEnds with
      | returned hNow _ _ =>
          rw [hStored fact hFact] at hTime
          rw [hSource, hTime] at hNow
          exact Nat.le_of_eq (Option.some.inj hNow).symm
    case right =>
      refine ⟨?_, hOrdered⟩
      rintro _ _ _ _ ⟨⟩
      exact ⟨time, .returned hSource hTold hFound, hNewest⟩

/-- A fact is remembered from the answer that the call was given. -/
theorem learnt {a : c.Answer} {fact : c.Fact} (hFact : c.fact? a = some fact)
    (hAnswer : answerTime? id story = some time) (hTold : g.ToldAt time c s a story)
    (hNewest : g.NoneNewer c s story time) :
    g.Moves id (some (c, s)) x story (x.learn c s fact) (.learnt id c s fact :: story) where
  suffix := List.suffix_cons _ _
  answers _ _ := rfl
  quiet d r hKey hNone := by
    refine ⟨fun other hOther => ?_, fun time h => (ended_cons.1 h).elim nofun fun h => h⟩
    refine hNone other (Scene.remembers_of_learn (fun hSame => ?_) hOther)
    exact hKey (congrArg some hSame.symm)
  recorded hRecorded hOrdered := by
    refine ⟨fun d r other hOther => ?_, nofun, hOrdered⟩
    by_cases hKey : (d, r) = (c, s)
    · cases hKey
      rw [Scene.eq_of_remembers_learn hOther]
      refine ⟨time, a, ?_, hTold.mono (List.suffix_cons _ _), hFact, hNewest.cons nofun⟩
      simp only [storedTime?, and_self, if_true, hAnswer]
    · obtain ⟨time, a, hStored, hTold, hAnswer, hNewest⟩ :=
        hRecorded d r other (Scene.remembers_of_learn hKey hOther)
      refine ⟨time, a, ?_, hTold.mono (List.suffix_cons _ _), hAnswer, hNewest.cons nofun⟩
      have hOther : ¬(c = d ∧ s = r) := by
        rintro ⟨rfl, rfl⟩
        exact hKey rfl
      simp only [storedTime?, if_neg hOther, hStored]

end Moves

/-- A call has been given this answer to its load, and no lookup of the fact has returned a newer
one. -/
def Given (g : Guard C S B) (id : TaskId) (c : Concern) (s : ServiceId) (story : List (Moment C))
    (a : c.Answer) : Prop :=
  ∃ time, answerTime? id story = some time ∧ g.ToldAt time c s a story ∧ g.NoneNewer c s story time

/-- A lookup that was given an answer remembers what that holds, if it holds a fact, and returns it.
-/
theorem settled_moves {x : Scene C S B} {outcome : Outcome c.Answer}
    (hNothing : ∀ fact : c.Fact, ¬x.Remembers c s fact)
    (hGiven : ∀ a, outcome = .ok a → g.Given id c s story a) :
    g.Moves id (some (c, s)) x story (settled x c s outcome)
      (.returned id c s (outcome.map c.fact?) :: settledStory id c s story outcome) := by
  cases outcome with
  | error e => exact .of_moment x story (fun _ _ => rfl) (fun _ _ => rfl) nofun
  | ok a =>
      obtain ⟨time, hAnswer, hTold, hNewest⟩ := hGiven a rfl
      have hNoted : g.Moves id (some (c, s)) x story (x.note (.load c)) story := .of_memory story rfl
      refine hNoted.trans ?_
      simp only [settled, settledStory, Except.map]
      cases hFact : c.fact? a with
      | none =>
          exact .loaded hFact (fun fact h => absurd h (hNothing fact)) hAnswer hTold hNewest
      | some fact =>
          refine (Moves.learnt hFact hAnswer hTold hNewest).trans ?_
          refine .loaded hFact (fun _ _ => ?_) hAnswer (hTold.mono (List.suffix_cons _ _))
            (hNewest.cons fun _ hEnds => by cases hEnds)
          simp only [storedTime?, and_self, if_true, hAnswer]

/-- Where a lookup stands fits the scene and the story: it asks for nothing before it has gone
through its gate, asks only where it has found nothing, and goes on with what it was told. -/
def Midway.Fits (g : Guard C S B) (x : Scene C S B) (story : List (Moment C)) (id : TaskId)
    (s : ServiceId) : Midway c → Prop
  | waiting | entered => answerTime? id story = none
  | asking => ∀ fact : c.Fact, ¬x.Remembers c s fact
  | answered outcome =>
    (∀ fact : c.Fact, ¬x.Remembers c s fact) ∧
      ∀ a, outcome = .ok a → g.Given id c s story a

/-- Where a call stands that remembers facts only in lookups. -/
def Place.Fits (g : Guard C S B) (x : Scene C S B) (story : List (Moment C)) (id : TaskId) :
    Place C A → Prop
  | .ready rest => rest.OnlyLooksUp
  | .asking _ _ _ next => ∀ outcome, (next outcome).OnlyLooksUp
  | .within _ s lookup next =>
    (∀ outcome, (next outcome).OnlyLooksUp) ∧
      ∃ lock stands, lookup = Midway.task g s lock stands ∧ stands.Fits g x story id s
  | .finished _ | .dropped => True

theorem Place.Fits.next {x : Scene C S B} {lookup : Task C (Option c.Fact)}
    {next : Outcome (Option c.Fact) → Outline A}
    (h : (Place.within c s lookup next).Fits g x story id) (outcome : Outcome (Option c.Fact)) :
    (next outcome).OnlyLooksUp :=
  h.1 outcome

theorem Place.Fits.stands {x : Scene C S B} {lock : LockId} {stands : Midway c}
    {next : Outcome (Option c.Fact) → Outline A}
    (h : (Place.within c s (stands.task g s lock) next).Fits g x story id) :
    stands.Fits g x story id s := by
  obtain ⟨_, lock', stands', hTask, hFits⟩ := h
  rwa [Midway.task_injective hTask]

/-- The fact that a call is loading, behind the gate that it holds. -/
def Task.loads? (t : Task C A) : Option GateKey :=
  t.holds.map (·.key)

/-- If a call is to settle an answer, then to the load of this fact. -/
def Place.Settles (g : Guard C S B) (loads : Option GateKey) : Place C A → Prop
  | .within c s lookup _ =>
    ∀ lock outcome, lookup = (Midway.answered outcome).task g s lock → loads = some (c, s)
  | _ => True

theorem Place.settles (place : Place C A) : place.Settles g place.task.loads? := by
  cases place with
  | within c s lookup next =>
      rintro lock outcome rfl
      rfl
  | ready _ | asking _ _ _ _ | finished _ | dropped => trivial

/-- What a call does in its turn leaves it without an answer to settle. -/
theorem Does.settles {p q : Passage C S B A} (h : Does g id p q) (loads : Option GateKey) :
    q.place.Settles g loads := by
  cases hPlace : q.place with
  | within c s lookup next =>
      rintro lock outcome rfl
      exact absurd hPlace h.not_answered
  | ready _ | asking _ _ _ _ | finished _ | dropped => trivial

/-- Whatever a call does in its turn, it touches no fact but the one whose load it settles. -/
theorem Does.moves {p q : Passage C S B A} (h : Does g id p q)
    (hFits : p.place.Fits g p.floor.scene p.story id) {loads : Option GateKey}
    (hLoads : p.place.Settles g loads) :
    g.Moves id loads p.floor.scene p.story q.floor.scene q.story ∧
      q.place.Fits g q.floor.scene q.story id := by
  have hBegins (c : Concern) (s : ServiceId) (x : Scene C S B) (story : List (Moment C)) :
      g.Moves id loads x story x (.begun id c s :: story) :=
    .of_moment x story (fun j hj => if_neg (Ne.symm hj)) (fun _ _ => rfl) nofun
  have hUnanswered (c : Concern) (s : ServiceId) (story : List (Moment C)) :
      answerTime? id (.begun id c s :: story) = none := if_pos rfl
  cases h with
  | finish => exact ⟨.of_memory _ rfl, trivial⟩
  | note => exact ⟨.of_memory _ rfl, hFits⟩
  | refused _ | count => exact ⟨.of_memory _ rfl, hFits _⟩
  | ask _ => exact ⟨.of_memory _ rfl, hFits⟩
  | learn => exact hFits.elim
  | @hit c s next f story fact hLive =>
      refine ⟨(hBegins c s _ _).trans ?_, hFits _⟩
      refine (Moves.found (Scene.remembers_of_live hLive) (hUnanswered c s story)).trans ?_
      exact (Moves.look _ c s _).trans (.of_memory _ rfl)
  | @miss c s next f story hLive stands hStands =>
      refine ⟨(hBegins c s _ _).trans ((Moves.look _ c s _).trans (.of_memory _ rfl)), hFits,
        _, stands, rfl, ?_⟩
      obtain ⟨rfl, _⟩ | ⟨rfl, _⟩ := hStands
      · exact hUnanswered c s story
      · exact hUnanswered c s story
  | enter _ => exact ⟨.of_memory _ rfl, hFits.next, _, .entered, rfl, hFits.stands⟩
  | @served c s lock next f story fact hLive =>
      refine ⟨?_, hFits.next _⟩
      rw [Floor.scene_release]
      exact (Moves.found (Scene.remembers_of_live hLive) hFits.stands).trans (.look _ c s _)
  | @load c s lock next f story hLive =>
      exact ⟨.look _ c s _, hFits.next, _, .asking, rfl, Scene.not_remembers_look hLive⟩
  | @settle c s lock outcome next f story =>
      obtain ⟨hNothing, hGiven⟩ := hFits.stands
      rw [hLoads lock outcome rfl, Floor.scene_release]
      exact ⟨settled_moves hNothing hGiven, hFits.next _⟩

/-- A turn of a call touches no fact but the one that it is loading. -/
theorem Comes.moves {p q : Passage C S B A} (h : Comes g id p q)
    (hFits : p.place.Fits g p.floor.scene p.story id) :
    g.Moves id p.place.task.loads? p.floor.scene p.story q.floor.scene q.story ∧
      q.place.Fits g q.floor.scene q.story id := by
  have hKept := h.kept (P := fun r => r.place.Settles g p.place.task.loads? ∧
    g.Moves id p.place.task.loads? p.floor.scene p.story r.floor.scene r.story ∧
      r.place.Fits g r.floor.scene r.story id) ?_
    ⟨p.place.settles, .of_memory _ rfl, hFits⟩
  · exact hKept.2
  · rintro a b hDoes ⟨hSettles, hMoves, hFitsToo⟩
    obtain ⟨hNext, hFitsNext⟩ := hDoes.moves hFitsToo hSettles
    exact ⟨hDoes.settles _, hMoves.trans hNext, hFitsNext⟩

/-- A call stays as it is while others do not touch the fact that it is loading. -/
theorem Place.Fits.mono {x y : Scene C S B} {place : Place C A} (h : place.Fits g x story id)
    (hSuffix : story <:+ later) (hAnswer : answerTime? id later = answerTime? id story)
    (hQuiet : ∀ c s, place.task.loads? = some (c, s) →
      (∀ fact : c.Fact, ¬x.Remembers c s fact) → (∀ fact : c.Fact, ¬y.Remembers c s fact) ∧
        ∀ time, g.Ended c s later time → g.Ended c s story time) :
    place.Fits g y later id := by
  cases place with
  | ready rest => exact h
  | asking connection q s next => exact h
  | finished outcome => trivial
  | dropped => trivial
  | within c s lookup next =>
      obtain ⟨hNext, lock, stands, rfl, hStands⟩ := h
      refine ⟨hNext, lock, stands, rfl, ?_⟩
      cases stands with
      | waiting | entered => exact hAnswer.trans hStands
      | asking => exact (hQuiet c s rfl hStands).1
      | answered outcome =>
          obtain ⟨hNothing, hGiven⟩ := hStands
          obtain ⟨hStill, hEnded⟩ := hQuiet c s rfl hNothing
          refine ⟨hStill, fun a ha => ?_⟩
          obtain ⟨time, hTime, hTold, hNewest⟩ := hGiven a ha
          exact ⟨time, hAnswer.trans hTime, hTold.mono hSuffix,
            fun earlier h => hNewest earlier (hEnded earlier h)⟩

/-- The moment of an answer is none at which a lookup returns. -/
theorem ended_answered {connection : C} {q : Question} {r : ServiceId}
    {outcome : Outcome q.Answer} :
    g.Ended c s (.answered id connection q r outcome :: story) time ↔ g.Ended c s story time := by
  refine ended_cons.trans ⟨fun h => h.elim (fun hEnds => ?_) fun h => h, Or.inr⟩
  cases hEnds

/-- The answer that a call is given is newer than those which lookups have returned. -/
theorem Hears.fits {p q : Passage C S B A} (h : Hears g id p q)
    (hFits : p.place.Fits g p.floor.scene p.story id) :
    q.place.Fits g q.floor.scene q.story id := by
  cases h with
  | nothing => exact hFits
  | own => exact hFits _
  | @load c s lock next f story outcome hOutcome =>
      refine ⟨hFits.next, _, .answered outcome, rfl, hFits.stands, fun a ha => ?_⟩
      -- The answer is of this moment, and all lookups have returned answers of the past.
      refine ⟨story.length, if_pos rfl, ⟨id, story, ?_, rfl⟩, ?_⟩
      · exact List.suffix_cons_iff.2 (Or.inl (congrArg
          (fun outcome => .answered id g.replica (.fact c) s outcome :: story) ha.symm))
      · exact fun earlier hEnded => Nat.le_of_lt (ended_answered.1 hEnded).lt_length

/-- An answer to one call touches no fact, and leaves all other calls with the answers that they
have. -/
theorem Hears.moves {p q : Passage C S B A} (h : Hears g id p q) (loads : Option GateKey) :
    g.Moves id loads p.floor.scene p.story q.floor.scene q.story := by
  have hAnswers {connection : C} {q : Question} {s : ServiceId} {outcome : Outcome q.Answer}
      {story : List (Moment C)} (j : TaskId) (hj : j ≠ id) :
      answerTime? j (.answered id connection q s outcome :: story) = answerTime? j story :=
    if_neg (Ne.symm hj)
  cases h with
  | nothing => exact .of_memory _ rfl
  | own | load _ =>
      exact (Moves.of_moment _ _ hAnswers (fun _ _ => rfl) nofun).trans (.of_memory _ rfl)

/-- Two calls never load the same fact. -/
theorem Machine.Sound.loads_apart {m : Machine C S B A} (h : m.Sound) {i j : TaskId}
    {t u : Task C A} (ht : m.tasks[i]? = some t) (hu : m.tasks[j]? = some u) {key : GateKey}
    (hLoads : t.loads? = some key) (hLoadsToo : u.loads? = some key) : i = j := by
  have hPlace {i : TaskId} {t : Task C A} (ht : m.tasks[i]? = some t) {pass : Pass GateKey}
      (hHolds : t.holds = some pass) : m.places i = some pass := by
    rw [Machine.places_of_task ht]
    have hOrderly := h.orderly i t ht
    obtain ⟨phase, holds⟩ := t
    cases phase with
    | queued _ _ =>
        rw [hOrderly.1] at hHolds
        cases hHolds
    | ready _ | asking _ _ _ _ | finished _ | dropped => exact hHolds
  obtain ⟨pass, hHolds, rfl⟩ := Option.map_eq_some_iff.1 hLoads
  obtain ⟨pass', hHolds', hKey⟩ := Option.map_eq_some_iff.1 hLoadsToo
  have hLock := h.serves.lock_eq_of_key_eq (hPlace ht hHolds) (hPlace hu hHolds') hKey.symm
  have hHolder := h.holding i t pass ht hHolds
  rw [hLock, h.holding j u pass' hu hHolds'] at hHolder
  exact (Option.some.inj hHolder).symm

/-- Calls under way that remember facts only in lookups, with a story in order. -/
structure Tale.InOrder (g : Guard C S B) (m : Tale C S B A) : Prop where
  sound : m.machine.Sound
  fits : ∀ (id : TaskId) (place : Place C A), m.places[id]? = some place →
    place.Fits g m.floor.scene m.story id
  recorded : g.Recorded m.floor.scene m.story
  ordered : g.Ordered m.story

namespace Tale.InOrder

variable {m m' : Tale C S B A}

theorem loads_apart (h : m.InOrder g) {i j : TaskId} {place other : Place C A}
    (hPlace : m.places[i]? = some place) (hOther : m.places[j]? = some other) {key : GateKey}
    (hLoads : place.task.loads? = some key) (hLoadsToo : other.task.loads? = some key) : i = j := by
  have hTask {i : TaskId} {place : Place C A} (hPlace : m.places[i]? = some place) :
      m.machine.tasks[i]? = some place.task := by
    rw [getElem?_machine, hPlace, Option.map_some]
  exact h.sound.loads_apart (hTask hPlace) (hTask hOther) hLoads hLoadsToo

/-- A passage of one call keeps the order if that call touches no fact but the one that it is
loading: no other call is loading that. -/
theorem goOn (h : m.InOrder g) {place : Place C A} (hPlace : m.places[id]? = some place)
    {p : Passage C S B A} (hSound : (m.goOn id p).machine.Sound)
    (hMoves : g.Moves id place.task.loads? m.floor.scene m.story p.floor.scene p.story)
    (hFits : p.place.Fits g p.floor.scene p.story id) : (m.goOn id p).InOrder g := by
  obtain ⟨hRecorded, hOrdered⟩ := hMoves.recorded h.recorded h.ordered
  refine ⟨hSound, fun j other hOther => ?_, hRecorded, hOrdered⟩
  rw [getElem?_goOn hPlace] at hOther
  split_ifs at hOther with hj
  · cases hOther
    rwa [hj]
  · refine (h.fits j other hOther).mono hMoves.suffix (hMoves.answers j hj) fun c s hLoads => ?_
    exact hMoves.quiet c s fun hSame => hj (h.loads_apart hOther hPlace hLoads hSame)

/-- One step keeps a story in order, if a call that it starts remembers facts only in lookups. -/
theorem step (h : m.InOrder g) {event : Event S B (Outline A)} (hSteps : Steps g m event m')
    (hSound : m'.machine.Sound) (hStart : ∀ call, event = .start call → call.OnlyLooksUp) :
    m'.InOrder g := by
  cases hSteps with
  | start call =>
      refine ⟨hSound, fun j place hPlace => ?_, h.recorded, h.ordered⟩
      rcases place_of_begun hPlace with hOld | rfl
      · exact h.fits j place hOld
      · exact hStart call rfl
  | turn hPlace hComes =>
      obtain ⟨hMoves, hFits⟩ := hComes.moves (h.fits _ _ hPlace)
      exact h.goOn hPlace hSound hMoves hFits
  | answer hPlace hHears =>
      exact h.goOn hPlace hSound (hHears.moves _) (hHears.fits (h.fits _ _ hPlace))
  | @drop id place hPlace =>
      refine h.goOn hPlace hSound ?_ ?_
      · refine .of_memory _ ?_
        simp only [tellDrop, scene_drop]
      · simp only [tellDrop]
        split <;> trivial
  | around change hRemembers =>
      refine ⟨hSound, fun j place hPlace => ?_, ?_, h.ordered⟩
      · refine (h.fits j place hPlace).mono List.suffix_rfl rfl fun c s _ hNothing => ?_
        exact ⟨fun fact hFact => hNothing fact (hRemembers _ c s fact hFact), fun _ h => h⟩
      · exact fun c s fact hFact => h.recorded c s fact (hRemembers _ c s fact hFact)

end Tale.InOrder

/-- Calls other than those that load all facts together keep their story in order over every run. -/
theorem Tale.InOrder.run (g : Guard C S B) (settings : CachesSettings) (clock : Cache.Clock)
    (stores : S) (counts : B) (events : List (Event S B (Present × Call)))
    (hPrime : ∀ present s, .start (present, .prime s) ∉ events) :
    let start : Tale C S B Reply := { floor := { scene := opening settings clock stores counts } }
    (start.run g (events.map (Event.outlined g.joined))).InOrder g := by
  intro start
  have hStart : start.InOrder g := {
    sound := Machine.Sound.start _
    fits := fun _ _ h => by cases h
    recorded := fun _ _ fact h => absurd h (Scene.not_remembers_opening _ _ _ _ fact)
    ordered := trivial }
  refine Tale.kept_by_run (Tale.Formed.start _) ?_ hStart
  intro event hEvent m hFormed h
  obtain ⟨source, hSource, rfl⟩ := List.mem_map.1 hEvent
  refine h.step (Tale.steps hFormed _) ?_ ?_
  · rw [Tale.machine_step hFormed, Event.onStart_outlined]
    refine h.sound.step g _ fun plan hPlan => ?_
    cases source with
    | start call =>
        cases hPlan
        exact Call.plan_orderly call.1 g.joined call.2
    | _ => cases hPlan
  · rintro outline hOutline
    cases source with
    | start call =>
        obtain ⟨present, call⟩ := call
        cases hOutline
        refine Outline.OnlyLooksUp.call present g.joined ?_
        rintro s rfl
        exact hPrime present s hSource
    | _ => cases hOutline

/-- Lookups of a fact never go back, whatever calls other than those that load all facts together
are under way. Where two of them return, the later one returns what the replica told at the same time
or later: however its versions of the fact follow one another in time, the same version or a newer
one. -/
theorem lookups_monotonic (g : Guard C S B) (settings : CachesSettings) (clock : Cache.Clock)
    (stores : S) (counts : B) (events : List (Event S B (Present × Call)))
    (hPrime : ∀ present s, .start (present, .prime s) ∉ events) :
    let floor : Floor C S B := { scene := opening settings clock stores counts }
    let told : Tale C S B Reply := Tale.run g { floor } (events.map (Event.outlined g.joined))
    told.machine = Machine.run g { floor } (events.map (Event.planned g.joined)) ∧
      ∀ c s (first second : TaskId) (found foundLater : Option c.Fact) earlier between,
        .returned second c s (.ok foundLater) :: between <:+ told.story →
        .returned first c s (.ok found) :: earlier <:+ between →
        ∃ i j, g.EndsWith c s (.returned first c s (.ok found)) earlier i ∧
          g.EndsWith c s (.returned second c s (.ok foundLater)) between j ∧
          ∀ version : Nat →o Nat, version i ≤ version j := by
  intro floor told
  refine ⟨Tale.machine_run_outlined (Tale.Formed.start floor) events, ?_⟩
  have hOrdered : g.Ordered told.story :=
    (Tale.InOrder.run g settings clock stores counts events hPrime).ordered
  intro c s first second found foundLater earlier between hSecond hFirst
  obtain ⟨j, hAt, hNewest⟩ := (hOrdered.of_suffix hSecond).1 _ _ _ _ rfl
  obtain ⟨i, hBefore, _⟩ := (hOrdered.of_suffix
    (hFirst.trans ((List.suffix_cons _ _).trans hSecond))).1 _ _ _ _ rfl
  have hLe : i ≤ j := hNewest i ⟨_, earlier, hFirst, hBefore⟩
  exact ⟨i, j, hBefore, hAt, fun version => version.monotone hLe⟩

/-- A lookup loads that a service is active. That changes and is forgotten, another lookup loads
that the service is not, and a third one finds this: it does not go back behind the first one. -/
theorem lookups_monotonic_change :
    let s : ServiceId := default
    let lookup : Event MemoryStore Unit (Present × Call) :=
      .start ({ now := .midnight .epoch }, .isActive s)
    let events := [lookup, .turn 0, .answer 0, .turn 0,
      .changeStores fun m => (m.setActive s false).2, .invalidate s,
      lookup, .turn 1, .answer 1, .turn 1, lookup, .turn 2]
    let store : MemoryStore := { label := "replica" }
    let stores := store.upsert s { active := true }
    let earlier : List (Moment Unit) :=
      [.learnt 0 .serviceActive s true,
        .answered 0 () (.fact .serviceActive) s (.ok (some true)), .begun 0 .serviceActive s]
    let first : Moment Unit := .returned 0 .serviceActive s (.ok (some true))
    let between : List (Moment Unit) :=
      [.begun 2 .serviceActive s,
        .returned 1 .serviceActive s (.ok (some false)), .learnt 1 .serviceActive s false,
        .answered 1 () (.fact .serviceActive) s (.ok (some false)), .begun 1 .serviceActive s] ++
      first :: earlier
    let second : Moment Unit := .returned 2 .serviceActive s (.ok (some false))
    let told : Tale Unit MemoryStore Unit Reply :=
      Tale.run ofMemory { floor := { scene := opening {} {} stores () } }
        (events.map (Event.outlined ofMemory.joined))
    told.story = second :: between ∧
      ∃ i j, ofMemory.EndsWith .serviceActive s first earlier i ∧
        ofMemory.EndsWith .serviceActive s second between j ∧
        ∀ version : Nat →o Nat, version i ≤ version j := by
  intro s lookup events store stores earlier first between second told
  have hStory : told.story = second :: between := by
    simp only [told, events, lookup, stores, store, between, first, second, earlier, s]
    rfl
  have hPrime : ∀ present r, .start (present, .prime r) ∉ events := by simp [events, lookup]
  have hSecond : second :: between <:+ told.story := ⟨[], hStory.symm⟩
  have hFirst : first :: earlier <:+ between := ⟨_ :: _ :: _ :: _ :: _ :: [], rfl⟩
  exact ⟨hStory, (lookups_monotonic ofMemory {} {} stores () events hPrime).2 .serviceActive s 0 2
    _ _ earlier between hSecond hFirst⟩

end Tollgate.Guard
