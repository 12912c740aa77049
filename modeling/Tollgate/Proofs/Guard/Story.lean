import Mathlib.Logic.Relation
import Tollgate.Proofs.Guard.Outline
import Tollgate.Proofs.Guard.Remembered

/-!
The story of calls under way, moment by moment, the newest first: which lookups began, which
questions were answered, which facts were remembered, and what each lookup returned. It is told of
calls in outline. Where a call makes a lookup, that lookup runs as it does in the call, and the
outcome with which it ends is both what the story says and what the call goes on with. Without the
story, the calls are those of the run that it tells of.
-/

namespace Tollgate

/-- The fact in an answer, or that there is none, tells which answer it was. -/
theorem Concern.fact?_injective (c : Concern) {a b : c.Answer} (h : c.fact? a = c.fact? b) :
    a = b := by
  cases c with
  | apiKeys | permissions => exact Option.some.inj h
  | serviceActive => exact h

namespace Guard

variable {C S B A D : Type}

/-- Something seen of calls under way. -/
inductive Moment (C : Type)
  /-- A call begins a lookup. -/
  | begun (id : TaskId) (c : Concern) (s : ServiceId)
  /-- A question of a call is answered. -/
  | answered (id : TaskId) (connection : C) (q : Question) (s : ServiceId)
      (outcome : Outcome q.Answer)
  /-- A call remembers a fact. -/
  | learnt (id : TaskId) (c : Concern) (s : ServiceId) (fact : c.Fact)
  /-- A lookup of a call returns, and the call goes on with what it returns. -/
  | returned (id : TaskId) (c : Concern) (s : ServiceId) (outcome : Outcome (Option c.Fact))

/-- The call of which something is seen. -/
def Moment.call : Moment C → TaskId
  | begun id _ _ | answered id _ _ _ _ | learnt id _ _ _ | returned id _ _ _ => id

/-- A question is answered at the moment. -/
def Moment.IsAnswer : Moment C → Prop
  | answered .. => True
  | begun .. | learnt .. | returned .. => False

/-- Each moment of a story stands in a relation to the moments before it. -/
def Throughout (P : Moment C → List (Moment C) → Prop) : List (Moment C) → Prop
  | [] => True
  | moment :: story => P moment story ∧ Throughout P story

theorem Throughout.of_suffix {P : Moment C → List (Moment C) → Prop}
    {story earlier : List (Moment C)} (h : Throughout P story) (hSuffix : earlier <:+ story) :
    Throughout P earlier := by
  induction story with
  | nil =>
      rw [List.suffix_nil.1 hSuffix]
      exact h
  | cons moment story ih =>
      rcases List.suffix_cons_iff.1 hSuffix with rfl | hSuffix
      · exact h
      · exact ih h.2 hSuffix

/-- The story goes on with what a call remembers while it goes on from a plan. -/
def recount (g : Guard C S B) (id : TaskId) :
    Plan A → Option (Pass GateKey) → Floor C S B → List (Moment C) → List (Moment C)
  | .done _, _, _, story => story
  | .note n rest, holds, f, story =>
    g.recount id rest holds { f with scene := f.scene.note n } story
  | .look c s next, holds, f, story =>
    let (found, scene) := f.scene.look c s
    g.recount id (next found) holds { f with scene := scene } story
  | .enter c s rest, _, f, story =>
    let (lock, gates) := f.gates.join (c, s) id
    let f := { f with gates := gates }
    if gates.isHeldBy lock id then g.recount id rest (some ⟨(c, s), lock⟩) f story else story
  | .leave _ _ rest, holds, f, story => g.recount id rest none (f.release holds) story
  | .ask bind _ _ next, holds, f, story =>
    match g.binds.runOnBind bind .ok with
    | .error e => g.recount id (next (.error e)) holds f story
    | .ok (_ : C) => story
  | .learn c s fact rest, holds, f, story =>
    g.recount id rest holds { f with scene := f.scene.learn c s fact }
      (.learnt id c s fact :: story)
  | .count cmd next, holds, f, story =>
    let (outcome, scene) := f.scene.count g.counters cmd
    g.recount id (next outcome) holds { f with scene := scene } story

/-- The story goes on with what a call remembers in a turn. -/
def recountTurn (g : Guard C S B) (id : TaskId) (t : Task C A) (f : Floor C S B)
    (story : List (Moment C)) : List (Moment C) :=
  match t.phase with
  | .ready plan => g.recount id plan t.holds f story
  | .queued pass rest =>
    if f.gates.isHeldBy pass.lock id then
      g.recount id rest (some pass) { f with woken := f.woken.filter (· ≠ id) } story
    else story
  | .asking .. | .finished _ | .dropped => story

/-- The story goes on with the answer that a call waits for. -/
def recountAnswer (g : Guard C S B) (id : TaskId) (t : Task C A) (f : Floor C S B)
    (story : List (Moment C)) : List (Moment C) :=
  match t.phase with
  | .asking connection q s _ =>
    .answered id connection q s (f.scene.ask g.authority connection q s).1 :: story
  | _ => story

/-- A call under way together with what follows it. -/
def Task.followedBy (t : Task C A) (k : Outcome A → Plan D) : Task C D where
  phase :=
    match t.phase with
    | .ready plan => .ready (plan.followedBy k)
    | .queued pass rest => .queued pass (rest.followedBy k)
    | .asking connection q s next => .asking connection q s fun outcome =>
        (next outcome).followedBy k
    | .finished outcome => .ready (k outcome)
    | .dropped => .dropped
  holds := t.holds

/-- Where a call stands in its outline: it is between lookups, and can go on or waits for an answer;
it is within a lookup, with what follows that; it has ended; or it was dropped. -/
inductive Place (C A : Type)
  | ready (rest : Outline A)
  | asking (connection : C) (q : Question) (s : ServiceId) (next : Outcome q.Answer → Outline A)
  | within (c : Concern) (s : ServiceId) (lookup : Task C (Option c.Fact))
      (next : Outcome (Option c.Fact) → Outline A)
  | finished (outcome : Outcome A)
  | dropped

/-- The call that stands at a place. -/
def Place.task : Place C A → Task C A
  | ready rest => { phase := .ready rest.plan }
  | asking connection q s next => { phase := .asking connection q s fun outcome =>
      (next outcome).plan }
  | within _ _ lookup next => lookup.followedBy fun outcome => (next outcome).plan
  | finished outcome => { phase := .finished outcome }
  | dropped => { phase := .dropped }

/-- A passage of a story: where one call stands, what calls act on, and the story so far. -/
structure Passage (C S B A : Type) where
  place : Place C A
  floor : Floor C S B
  story : List (Moment C)

/-- Tells how a call goes on in outline until it waits or ends. -/
def tell (g : Guard C S B) (id : TaskId) :
    Outline A → Floor C S B → List (Moment C) → Passage C S B A
  | .done outcome, f, story => ⟨.finished outcome, f, story⟩
  | .note n rest, f, story => g.tell id rest { f with scene := f.scene.note n } story
  | .ask bind q s next, f, story =>
    match g.binds.runOnBind bind .ok with
    | .error e => g.tell id (next (.error e)) f story
    | .ok connection => ⟨.asking connection q s next, f, story⟩
  | .learn c s fact rest, f, story =>
    g.tell id rest { f with scene := f.scene.learn c s fact } (.learnt id c s fact :: story)
  | .count cmd next, f, story =>
    let (outcome, scene) := f.scene.count g.counters cmd
    g.tell id (next outcome) { f with scene := scene } story
  | .lookup c s next, f, story =>
    let (t, floor) := g.proceed id (Plan.lookup c s) none f
    let story := g.recount id (Plan.lookup c s) none f (.begun id c s :: story)
    match t.phase with
    | .finished outcome => g.tell id (next outcome) floor (.returned id c s outcome :: story)
    | _ => ⟨.within c s t next, floor, story⟩

/-- Tells of a turn of a call. -/
def tellTurn (g : Guard C S B) (id : TaskId) (p : Passage C S B A) : Passage C S B A :=
  match p.place with
  | .ready rest => g.tell id rest p.floor p.story
  | .within c s lookup next =>
    let (t, floor) := g.turn id lookup p.floor
    let story := g.recountTurn id lookup p.floor p.story
    match t.phase with
    | .finished outcome => g.tell id (next outcome) floor (.returned id c s outcome :: story)
    | _ => ⟨.within c s t next, floor, story⟩
  | .asking .. | .finished _ | .dropped => p

/-- Tells of the answer to the question that a call waits for. -/
def tellAnswer (g : Guard C S B) (id : TaskId) (p : Passage C S B A) : Passage C S B A where
  place :=
    match p.place with
    | .asking connection q s next => .ready (next (p.floor.scene.ask g.authority connection q s).1)
    | .within c s lookup next => .within c s (g.answer lookup p.floor).1 next
    | place => place
  floor := (g.answer p.place.task p.floor).2
  story := g.recountAnswer id p.place.task p.floor p.story

/-- Tells of a call that is dropped. -/
def tellDrop (id : TaskId) (p : Passage C S B A) : Passage C S B A where
  place :=
    match p.place with
    | .finished outcome => .finished outcome
    | _ => .dropped
  floor := (Guard.drop id p.place.task p.floor).2
  story := p.story

/-- Where a lookup stands once it has missed: it waits for its gate, has gone through it, waits for
the answer to its question, or was given that. -/
inductive Midway (c : Concern)
  | waiting
  | entered
  | asking
  | answered (outcome : Outcome c.Answer)

/-- The lookup that stands there, with its place at the gate. -/
def Midway.task (g : Guard C S B) {c : Concern} (s : ServiceId) (lock : LockId) :
    Midway c → Task C (Option c.Fact)
  | waiting => { phase := .queued ⟨(c, s), lock⟩ (Plan.behindGate c s) }
  | entered => { phase := .ready (Plan.behindGate c s), holds := some ⟨(c, s), lock⟩ }
  | asking =>
    { phase := .asking g.replica (.fact c) s (Plan.settle c s), holds := some ⟨(c, s), lock⟩ }
  | answered outcome =>
    { phase := .ready (Plan.settle c s outcome), holds := some ⟨(c, s), lock⟩ }

/-- The story of what a lookup makes of the answer to its question. -/
def settledStory (id : TaskId) (c : Concern) (s : ServiceId) (story : List (Moment C)) :
    Outcome c.Answer → List (Moment C)
  | .error _ => story
  | .ok a =>
    match c.fact? a with
    | none => story
    | some fact => .learnt id c s fact :: story

theorem settledStory_cases (id : TaskId) (c : Concern) (s : ServiceId) (story : List (Moment C))
    (outcome : Outcome c.Answer) :
    settledStory id c s story outcome = story ∨
      ∃ fact : c.Fact, settledStory id c s story outcome = .learnt id c s fact :: story := by
  cases outcome with
  | error e => exact Or.inl rfl
  | ok a =>
      simp only [settledStory]
      cases c.fact? a with
      | none => exact Or.inl rfl
      | some fact => exact Or.inr ⟨fact, rfl⟩

/-- The next thing that a call does in its turn. -/
inductive Does (g : Guard C S B) (id : TaskId) : Passage C S B A → Passage C S B A → Prop
  | finish {outcome : Outcome A} {f : Floor C S B} {story : List (Moment C)} :
      Does g id ⟨.ready (.done outcome), f, story⟩ ⟨.finished outcome, f, story⟩
  | note {n : Note} {rest : Outline A} {f : Floor C S B} {story : List (Moment C)} :
      Does g id ⟨.ready (.note n rest), f, story⟩
        ⟨.ready rest, { f with scene := f.scene.note n }, story⟩
  | refused {bind : String} {q : Question} {s : ServiceId} {next : Outcome q.Answer → Outline A}
      {f : Floor C S B} {story : List (Moment C)} {e : Failure}
      (hBind : g.binds.runOnBind bind Except.ok = .error e) :
      Does g id ⟨.ready (.ask bind q s next), f, story⟩ ⟨.ready (next (.error e)), f, story⟩
  | ask {bind : String} {q : Question} {s : ServiceId} {next : Outcome q.Answer → Outline A}
      {f : Floor C S B} {story : List (Moment C)} {connection : C}
      (hBind : g.binds.runOnBind bind Except.ok = .ok connection) :
      Does g id ⟨.ready (.ask bind q s next), f, story⟩ ⟨.asking connection q s next, f, story⟩
  | learn {c : Concern} {s : ServiceId} {fact : c.Fact} {rest : Outline A} {f : Floor C S B}
      {story : List (Moment C)} :
      Does g id ⟨.ready (.learn c s fact rest), f, story⟩
        ⟨.ready rest, { f with scene := f.scene.learn c s fact }, .learnt id c s fact :: story⟩
  | count {cmd : Counter.Command} {next : Outcome cmd.Told → Outline A} {f : Floor C S B}
      {story : List (Moment C)} :
      Does g id ⟨.ready (.count cmd next), f, story⟩
        ⟨.ready (next (f.scene.count g.counters cmd).1),
          { f with scene := (f.scene.count g.counters cmd).2 }, story⟩
  /-- A lookup that finds its fact at once returns it. -/
  | hit {c : Concern} {s : ServiceId} {next : Outcome (Option c.Fact) → Outline A}
      {f : Floor C S B} {story : List (Moment C)} {fact : c.Fact}
      (hLive : f.scene.live? c s = some fact) :
      Does g id ⟨.ready (.lookup c s next), f, story⟩
        ⟨.ready (next (.ok (some fact))),
          { f with scene := (f.scene.look c s).2.note (.hit c) },
          .returned id c s (.ok (some fact)) :: .begun id c s :: story⟩
  /-- A lookup that does not find its fact joins those who want it. -/
  | miss {c : Concern} {s : ServiceId} {next : Outcome (Option c.Fact) → Outline A}
      {f : Floor C S B} {story : List (Moment C)} (hLive : f.scene.live? c s = none)
      {stands : Midway c}
      (hStands : stands = .waiting ∧
          (f.gates.join (c, s) id).2.isHeldBy (f.gates.join (c, s) id).1 id = false ∨
        stands = .entered ∧ (f.gates.join (c, s) id).2.isHeldBy (f.gates.join (c, s) id).1 id) :
      Does g id ⟨.ready (.lookup c s next), f, story⟩
        ⟨.within c s (stands.task g s (f.gates.join (c, s) id).1) next,
          { f with
            scene := (f.scene.look c s).2.note (.miss c)
            gates := (f.gates.join (c, s) id).2 },
          .begun id c s :: story⟩
  /-- A lookup goes through the gate that was handed to it. -/
  | enter {c : Concern} {s : ServiceId} {lock : LockId}
      {next : Outcome (Option c.Fact) → Outline A} {f : Floor C S B} {story : List (Moment C)}
      (hHeld : f.gates.isHeldBy lock id) :
      Does g id ⟨.within c s (Midway.waiting.task g s lock) next, f, story⟩
        ⟨.within c s (Midway.entered.task g s lock) next,
          { f with woken := f.woken.filter (· ≠ id) }, story⟩
  /-- A lookup that finds its fact behind the gate returns it. -/
  | served {c : Concern} {s : ServiceId} {lock : LockId}
      {next : Outcome (Option c.Fact) → Outline A} {f : Floor C S B} {story : List (Moment C)}
      {fact : c.Fact} (hLive : f.scene.live? c s = some fact) :
      Does g id ⟨.within c s (Midway.entered.task g s lock) next, f, story⟩
        ⟨.ready (next (.ok (some fact))),
          Floor.release { f with scene := (f.scene.look c s).2 } (some ⟨(c, s), lock⟩),
          .returned id c s (.ok (some fact)) :: story⟩
  /-- A lookup that does not find its fact there either asks for it. -/
  | load {c : Concern} {s : ServiceId} {lock : LockId}
      {next : Outcome (Option c.Fact) → Outline A} {f : Floor C S B} {story : List (Moment C)}
      (hLive : f.scene.live? c s = none) :
      Does g id ⟨.within c s (Midway.entered.task g s lock) next, f, story⟩
        ⟨.within c s (Midway.asking.task g s lock) next,
          { f with scene := (f.scene.look c s).2 }, story⟩
  /-- A lookup that was given the answer to its question remembers the fact that it holds, if there
  is one, and returns it. -/
  | settle {c : Concern} {s : ServiceId} {lock : LockId} {outcome : Outcome c.Answer}
      {next : Outcome (Option c.Fact) → Outline A} {f : Floor C S B} {story : List (Moment C)} :
      Does g id ⟨.within c s ((Midway.answered outcome).task g s lock) next, f, story⟩
        ⟨.ready (next (outcome.map c.fact?)),
          Floor.release { f with scene := settled f.scene c s outcome } (some ⟨(c, s), lock⟩),
          .returned id c s (outcome.map c.fact?) :: settledStory id c s story outcome⟩

/-- A call that waits or has ended has nothing to do in its turn. -/
inductive Rests (g : Guard C S B) (id : TaskId) : Passage C S B A → Prop
  | asking {connection : C} {q : Question} {s : ServiceId} {next : Outcome q.Answer → Outline A}
      {f : Floor C S B} {story : List (Moment C)} :
      Rests g id ⟨.asking connection q s next, f, story⟩
  | waiting {c : Concern} {s : ServiceId} {lock : LockId}
      {next : Outcome (Option c.Fact) → Outline A} {f : Floor C S B} {story : List (Moment C)}
      (hHeld : f.gates.isHeldBy lock id = false) :
      Rests g id ⟨.within c s (Midway.waiting.task g s lock) next, f, story⟩
  | loading {c : Concern} {s : ServiceId} {lock : LockId}
      {next : Outcome (Option c.Fact) → Outline A} {f : Floor C S B} {story : List (Moment C)} :
      Rests g id ⟨.within c s (Midway.asking.task g s lock) next, f, story⟩
  | finished {outcome : Outcome A} {f : Floor C S B} {story : List (Moment C)} :
      Rests g id ⟨.finished outcome, f, story⟩
  | dropped {f : Floor C S B} {story : List (Moment C)} : Rests g id ⟨.dropped, f, story⟩

/-- What a call comes to in its turn: it does one thing after another until it rests. -/
structure Comes (g : Guard C S B) (id : TaskId) (p q : Passage C S B A) : Prop where
  does : Relation.ReflTransGen (Does g id) p q
  rests : Rests g id q

variable {g : Guard C S B} {id : TaskId} {c : Concern} {s : ServiceId}

theorem Plan.settle_injective {outcome outcome' : Outcome c.Answer}
    (h : Plan.settle c s outcome = Plan.settle c s outcome') : outcome = outcome' := by
  match outcome, outcome' with
  | .error e, .error e' => cases h; rfl
  | .error e, .ok a => cases h
  | .ok a, .error e => cases h
  | .ok a, .ok b =>
      refine congrArg Except.ok (c.fact?_injective ?_)
      simp only [Plan.settle, Plan.note.injEq, true_and] at h
      cases hFirst : c.fact? a <;> cases hSecond : c.fact? b <;> simp_all

/-- A lookup that is under way tells where it stands. -/
theorem Midway.task_injective {stands stands' : Midway c} {lock lock' : LockId}
    (h : stands.task g s lock = stands'.task g s lock') : stands = stands' := by
  cases stands with
  | waiting =>
      cases stands' with
      | waiting => rfl
      | entered | asking | answered _ => cases h
  | entered =>
      cases stands' with
      | entered => rfl
      | waiting | asking => cases h
      | answered outcome =>
          cases outcome <;> cases h
  | asking =>
      cases stands' with
      | asking => rfl
      | waiting | entered | answered _ => cases h
  | answered outcome =>
      cases stands' with
      | waiting | asking => cases h
      | entered =>
          cases outcome <;> cases h
      | answered outcome' =>
          refine congrArg _ (Plan.settle_injective (s := s) ?_)
          exact Phase.ready.inj (Task.mk.inj h).1

theorem Comes.rest {p : Passage C S B A} (h : Rests g id p) : Comes g id p p :=
  ⟨.refl, h⟩

theorem Comes.head {p q r : Passage C S B A} (first : Does g id p q) (rest : Comes g id q r) :
    Comes g id p r :=
  ⟨.head first rest.does, rest.rests⟩

/-- A lookup goes on after its load with what it was told, without the gate. -/
theorem proceed_settle (g : Guard C S B) (id : TaskId) (pass : Pass GateKey)
    (outcome : Outcome c.Answer) (k : Outcome (Option c.Fact) → Plan A) (f : Floor C S B)
    (hKey : pass.key = (c, s)) :
    g.proceed id ((Plan.settle c s outcome).followedBy k) (some pass) f =
      g.proceed id (k (outcome.map c.fact?)) none
        (Floor.release { f with scene := settled f.scene c s outcome } (some pass)) := by
  obtain ⟨key, lock⟩ := pass
  cases hKey
  cases outcome with
  | error e => rfl
  | ok a =>
      simp only [Plan.settle, Plan.followedBy, proceed, settled, Except.map]
      cases c.fact? a with
      | none => rfl
      | some fact => rfl

theorem recount_settle (g : Guard C S B) (id : TaskId) (pass : Pass GateKey)
    (outcome : Outcome c.Answer) (f : Floor C S B) (story : List (Moment C)) :
    g.recount id (Plan.settle c s outcome) (some pass) f story =
      settledStory id c s story outcome := by
  cases outcome with
  | error e => rfl
  | ok a =>
      simp only [Plan.settle, recount, settledStory]
      cases c.fact? a with
      | none => rfl
      | some fact => rfl

/-- A question to the replica is put, and the call waits. -/
theorem proceed_ask_replica (g : Guard C S B) (id : TaskId) (q : Question) (s : ServiceId)
    (next : Outcome q.Answer → Plan A) (holds : Option (Pass GateKey)) (f : Floor C S B) :
    g.proceed id (.ask replicaBind q s next) holds f =
      ({ phase := .asking g.replica q s next, holds }, f) := by
  simp only [proceed, runOnBind_replica]

theorem recount_ask_replica (g : Guard C S B) (id : TaskId) (q : Question) (s : ServiceId)
    (next : Outcome q.Answer → Plan A) (holds : Option (Pass GateKey)) (f : Floor C S B)
    (story : List (Moment C)) :
    g.recount id (.ask replicaBind q s next) holds f story = story := by
  simp only [recount, runOnBind_replica]

/-- Behind its gate a lookup returns what it finds, or asks. -/
theorem comes_entered (lock : LockId) {next : Outcome (Option c.Fact) → Outline A}
    (hNext : ∀ outcome f story,
      Comes g id ⟨.ready (next outcome), f, story⟩ (g.tell id (next outcome) f story))
    (f : Floor C S B) (story : List (Moment C)) :
    Comes g id ⟨.within c s (Midway.entered.task g s lock) next, f, story⟩
      (g.tellTurn id ⟨.within c s (Midway.entered.task g s lock) next, f, story⟩) := by
  cases hLive : f.scene.live? c s with
  | some fact =>
      refine .head (.served hLive) ?_
      simp only [tellTurn, Midway.task, turn, recountTurn, Plan.behindGate, proceed, recount,
        Scene.look_fst, hLive]
      exact hNext _ _ _
  | none =>
      refine .head (.load hLive) ?_
      have hAsk := proceed_ask_replica g id (.fact c) s (Plan.settle c s) (some ⟨(c, s), lock⟩)
        { f with scene := (f.scene.look c s).2 }
      have hNothing := recount_ask_replica g id (.fact c) s (Plan.settle c s)
        (some ⟨(c, s), lock⟩) { f with scene := (f.scene.look c s).2 } story
      simp only [tellTurn, Midway.task, turn, recountTurn, Plan.behindGate, proceed, recount,
        Scene.look_fst, hLive, hAsk, hNothing]
      exact .rest .loading

/-- What is told of a call that goes on is what it comes to. -/
theorem comes_tell (g : Guard C S B) (id : TaskId) (p : Outline A) (f : Floor C S B)
    (story : List (Moment C)) : Comes g id ⟨.ready p, f, story⟩ (g.tell id p f story) := by
  induction p generalizing f story with
  | done outcome => exact .head .finish (.rest .finished)
  | note n rest ih => exact .head .note (ih _ _)
  | ask bind q s next ih =>
      simp only [tell]
      cases hBind : g.binds.runOnBind bind Except.ok with
      | error e => exact .head (.refused hBind) (ih _ _ _)
      | ok connection => exact .head (.ask hBind) (.rest .asking)
  | learn c s fact rest ih => exact .head .learn (ih _ _)
  | count cmd next ih => exact .head .count (ih _ _ _)
  | lookup c s next ih =>
      cases hLive : f.scene.live? c s with
      | some fact =>
          refine .head (.hit hLive) ?_
          simp only [tell, Plan.lookup, proceed, recount, Scene.look_fst, hLive]
          exact ih _ _ _
      | none =>
          cases hHeld : (f.gates.join (c, s) id).2.isHeldBy (f.gates.join (c, s) id).1 id with
          | true =>
              refine .head (.miss hLive (Or.inr ⟨rfl, hHeld⟩)) ?_
              have hEntered := comes_entered (g := g) (s := s) (f.gates.join (c, s) id).1 ih
                { f with
                  scene := (f.scene.look c s).2.note (.miss c)
                  gates := (f.gates.join (c, s) id).2 } (.begun id c s :: story)
              simp only [tellTurn, Midway.task, turn, recountTurn] at hEntered
              simp only [tell, Plan.lookup, proceed, recount, Scene.look_fst, hLive, if_pos hHeld]
              exact hEntered
          | false =>
              refine .head (.miss hLive (Or.inl ⟨rfl, hHeld⟩)) ?_
              simp only [tell, Plan.lookup, proceed, recount, Scene.look_fst, hLive, hHeld]
              exact .rest (.waiting hHeld)

/-- A lookup that a call is within has missed, and stands at its gate. -/
def Place.Formed (g : Guard C S B) : Place C A → Prop
  | within _ s lookup _ => ∃ lock stands, lookup = Midway.task g s lock stands
  | _ => True

/-- What is told of the turn of a call is what it comes to. -/
theorem comes_turn {p : Passage C S B A} (h : p.place.Formed g) :
    Comes g id p (g.tellTurn id p) := by
  obtain ⟨place, f, story⟩ := p
  cases place with
  | ready rest => exact comes_tell g id rest f story
  | asking connection q s next => exact .rest .asking
  | finished outcome => exact .rest .finished
  | dropped => exact .rest .dropped
  | within c s lookup next =>
      obtain ⟨lock, stands, rfl⟩ := h
      have hEntered := comes_entered (g := g) (s := s) lock
        fun outcome => comes_tell g id (next outcome)
      cases stands with
      | waiting =>
          cases hHeld : f.gates.isHeldBy lock id with
          | true =>
              refine .head (.enter hHeld) ?_
              have hFurther := hEntered { f with woken := f.woken.filter (· ≠ id) } story
              simp only [tellTurn, Midway.task, turn, recountTurn] at hFurther
              simp only [tellTurn, Midway.task, turn, recountTurn, if_pos hHeld]
              exact hFurther
          | false =>
              simp only [tellTurn, Midway.task, turn, recountTurn, hHeld]
              exact .rest (.waiting hHeld)
      | entered => exact hEntered f story
      | asking => exact .rest .loading
      | answered outcome =>
          refine .head .settle ?_
          have hProceed := proceed_settle g id ⟨(c, s), lock⟩ outcome .done f rfl
          rw [Plan.followedBy_done] at hProceed
          simp only [tellTurn, Midway.task, turn, recountTurn, hProceed, recount_settle, proceed]
          exact comes_tell g id _ _ _

/-- What everything that a call does keeps, its turn keeps. -/
theorem Comes.kept {P : Passage C S B A → Prop} {p q : Passage C S B A} (h : Comes g id p q)
    (hStep : ∀ a b, Does g id a b → P a → P b) (hFirst : P p) : P q := by
  obtain ⟨hDoes, -⟩ := h
  induction hDoes with
  | refl => exact hFirst
  | tail _ hLast ih => exact hStep _ _ hLast ih

/-- What is told of a call in its turn is about that call, and is no answer. -/
theorem Does.story_eq {p q : Passage C S B A} (h : Does g id p q) :
    ∃ new, q.story = new ++ p.story ∧ ∀ moment ∈ new, moment.call = id ∧ ¬moment.IsAnswer := by
  cases h with
  | finish | note | refused _ | ask _ | count | enter _ | load _ => exact ⟨[], rfl, nofun⟩
  | learn | miss _ _ | served _ => exact ⟨[_], rfl, by simp [Moment.call, Moment.IsAnswer]⟩
  | hit _ => exact ⟨[_, _], rfl, by simp [Moment.call, Moment.IsAnswer]⟩
  | @settle c s lock outcome next f story =>
      rcases settledStory_cases id c s story outcome with hStory | ⟨fact, hStory⟩ <;> rw [hStory]
      · exact ⟨[_], rfl, by simp [Moment.call, Moment.IsAnswer]⟩
      · exact ⟨[_, _], rfl, by simp [Moment.call, Moment.IsAnswer]⟩

theorem Comes.story_eq {p q : Passage C S B A} (h : Comes g id p q) :
    ∃ new, q.story = new ++ p.story ∧ ∀ moment ∈ new, moment.call = id ∧ ¬moment.IsAnswer := by
  refine h.kept (P := fun r => ∃ new, r.story = new ++ p.story ∧ ∀ moment ∈ new,
    moment.call = id ∧ ¬moment.IsAnswer) ?_ ⟨[], rfl, nofun⟩
  rintro a b hDoes ⟨new, hNew, hCall⟩
  obtain ⟨newer, hNewer, hCallToo⟩ := hDoes.story_eq
  refine ⟨newer ++ new, by rw [hNewer, hNew, List.append_assoc], fun moment hMem => ?_⟩
  exact (List.mem_append.1 hMem).elim (hCallToo moment) (hCall moment)

theorem Comes.tells {p q : Passage C S B A} (h : Comes g id p q) :
    ∃ new, q.story = new ++ p.story ∧ ∀ moment ∈ new, moment.call = id := by
  obtain ⟨new, hNew, hCall⟩ := h.story_eq
  exact ⟨new, hNew, fun moment hMem => (hCall moment hMem).1⟩

/-- A call takes nothing of its story back. -/
theorem Does.suffix {p q : Passage C S B A} (h : Does g id p q) : p.story <:+ q.story := by
  obtain ⟨new, hNew, -⟩ := h.story_eq
  exact ⟨new, hNew.symm⟩

theorem Comes.suffix {p q : Passage C S B A} (h : Comes g id p q) : p.story <:+ q.story := by
  obtain ⟨new, hNew, -⟩ := h.story_eq
  exact ⟨new, hNew.symm⟩

theorem Does.formed {p q : Passage C S B A} (h : Does g id p q) : q.place.Formed g := by
  cases h with
  | miss _ _ | enter _ | load _ => exact ⟨_, _, rfl⟩
  | _ => trivial

theorem Comes.formed {p q : Passage C S B A} (h : Comes g id p q) (hFormed : p.place.Formed g) :
    q.place.Formed g :=
  h.kept (P := fun r => r.place.Formed g) (fun _ _ hDoes _ => hDoes.formed) hFormed

/-- What a call does in its turn leaves it without an answer to settle. -/
theorem Does.not_answered {p q : Passage C S B A} (h : Does g id p q) {lock : LockId}
    {outcome : Outcome c.Answer} {next : Outcome (Option c.Fact) → Outline A} :
    q.place ≠ .within c s ((Midway.answered outcome).task g s lock) next := by
  intro hPlace
  cases h with
  | miss _ hStands =>
      simp only [Place.within.injEq] at hPlace
      obtain ⟨rfl, rfl, hTask, -⟩ := hPlace
      cases Midway.task_injective (eq_of_heq hTask)
      obtain ⟨⟨⟩, _⟩ | ⟨⟨⟩, _⟩ := hStands
  | enter _ | load _ =>
      simp only [Place.within.injEq] at hPlace
      obtain ⟨rfl, rfl, hTask, -⟩ := hPlace
      cases Midway.task_injective (eq_of_heq hTask)
  | finish | note | refused _ | ask _ | learn | count | hit _ | served _ | settle => cases hPlace

/-- The first thing that a call does in its turn is the first of the turn of the call that stands at
its place. -/
theorem Does.turn_eq {p q : Passage C S B A} (h : Does g id p q) :
    g.turn id p.place.task p.floor = g.turn id q.place.task q.floor := by
  cases h with
  | finish | note | learn | count => rfl
  | refused hBind | ask hBind =>
      simp only [Place.task, Outline.plan, turn, proceed, hBind]
  | hit hLive =>
      simp only [Place.task, Outline.plan, turn, Plan.lookup, Plan.followedBy, proceed,
        Scene.look_fst, hLive]
  | miss hLive hStands =>
      simp only [Place.task, Outline.plan, turn, Plan.lookup, Plan.followedBy, proceed,
        Scene.look_fst, hLive]
      obtain ⟨rfl, hHeld⟩ | ⟨rfl, hHeld⟩ := hStands
      · simp only [Midway.task, Task.followedBy, hHeld, Bool.false_eq_true, if_false]
      · simp only [Midway.task, Task.followedBy, hHeld, if_true]
  | enter hHeld =>
      simp only [Place.task, Midway.task, Task.followedBy, turn, hHeld, if_true]
  | served hLive =>
      simp only [Place.task, Midway.task, Task.followedBy, turn, Plan.behindGate, Plan.followedBy,
        proceed, Scene.look_fst, hLive]
  | load hLive =>
      simp only [Place.task, Midway.task, Task.followedBy, turn, Plan.behindGate, Plan.followedBy,
        proceed, Scene.look_fst, hLive, runOnBind_replica]
  | settle =>
      simp only [Place.task, Midway.task, Task.followedBy, turn]
      exact proceed_settle g id _ _ _ _ rfl

theorem Rests.turn_eq {p : Passage C S B A} (h : Rests g id p) :
    g.turn id p.place.task p.floor = (p.place.task, p.floor) := by
  cases h with
  | asking | loading | finished | dropped => rfl
  | waiting hHeld =>
      simp only [Place.task, Midway.task, Task.followedBy, turn, hHeld, Bool.false_eq_true, if_false]

/-- What a call comes to is what the turn of the call that stands at its place comes to. -/
theorem Comes.turn_eq {p q : Passage C S B A} (h : Comes g id p q) :
    g.turn id p.place.task p.floor = (q.place.task, q.floor) := by
  refine Eq.trans ?_ h.rests.turn_eq
  exact h.kept (P := fun r =>
      g.turn id p.place.task p.floor = g.turn id r.place.task r.floor)
    (fun _ _ hDoes hSame => hSame.trans hDoes.turn_eq) rfl

/-- What a call makes of an answer: if it waits for one, with a question of its own or within a
lookup, it can go on with it. -/
inductive Hears (g : Guard C S B) (id : TaskId) : Passage C S B A → Passage C S B A → Prop
  | nothing (p : Passage C S B A) : Hears g id p p
  | own {connection : C} {q : Question} {s : ServiceId} {next : Outcome q.Answer → Outline A}
      {f : Floor C S B} {story : List (Moment C)} :
      Hears g id ⟨.asking connection q s next, f, story⟩
        ⟨.ready (next (f.scene.ask g.authority connection q s).1),
          { f with scene := (f.scene.ask g.authority connection q s).2 },
          .answered id connection q s (f.scene.ask g.authority connection q s).1 :: story⟩
  | load {c : Concern} {s : ServiceId} {lock : LockId}
      {next : Outcome (Option c.Fact) → Outline A} {f : Floor C S B} {story : List (Moment C)}
      {outcome : Outcome c.Answer}
      (hOutcome : (f.scene.ask g.authority g.replica (.fact c) s).1 = outcome) :
      Hears g id ⟨.within c s (Midway.asking.task g s lock) next, f, story⟩
        ⟨.within c s ((Midway.answered outcome).task g s lock) next,
          { f with scene := (f.scene.ask g.authority g.replica (.fact c) s).2 },
          .answered id g.replica (.fact c) s outcome :: story⟩

theorem hears_answer {p : Passage C S B A} (h : p.place.Formed g) :
    Hears g id p (g.tellAnswer id p) := by
  obtain ⟨place, f, story⟩ := p
  cases place with
  | ready rest => exact .nothing _
  | asking connection q s next => exact .own
  | finished outcome => exact .nothing _
  | dropped => exact .nothing _
  | within c s lookup next =>
      obtain ⟨lock, stands, rfl⟩ := h
      cases stands with
      | asking => exact .load rfl
      | waiting | entered | answered outcome => exact .nothing _

theorem Hears.story_eq {p q : Passage C S B A} (h : Hears g id p q) :
    ∃ new, q.story = new ++ p.story ∧ ∀ moment ∈ new, moment.call = id ∧ moment.IsAnswer := by
  cases h with
  | nothing => exact ⟨[], rfl, nofun⟩
  | own | load _ => exact ⟨[_], rfl, by simp [Moment.call, Moment.IsAnswer]⟩

theorem Hears.tells {p q : Passage C S B A} (h : Hears g id p q) :
    ∃ new, q.story = new ++ p.story ∧ ∀ moment ∈ new, moment.call = id := by
  obtain ⟨new, hNew, hCall⟩ := h.story_eq
  exact ⟨new, hNew, fun moment hMem => (hCall moment hMem).1⟩

theorem Hears.suffix {p q : Passage C S B A} (h : Hears g id p q) : p.story <:+ q.story := by
  obtain ⟨new, hNew, -⟩ := h.story_eq
  exact ⟨new, hNew.symm⟩

theorem Hears.formed {p q : Passage C S B A} (h : Hears g id p q) (hFormed : p.place.Formed g) :
    q.place.Formed g := by
  cases h with
  | nothing => exact hFormed
  | own => trivial
  | load _ => exact ⟨_, _, rfl⟩

/-- The call that stands at a place is answered as the tale tells. -/
theorem answer_eq {p : Passage C S B A} (h : p.place.Formed g) :
    g.answer p.place.task p.floor = ((g.tellAnswer id p).place.task, (g.tellAnswer id p).floor) := by
  obtain ⟨place, f, story⟩ := p
  cases place with
  | ready rest | asking connection q s next | finished outcome | dropped => rfl
  | within c s lookup next =>
      obtain ⟨lock, stands, rfl⟩ := h
      cases stands with
      | waiting | entered | asking | answered outcome => rfl

/-- The call that stands at a place is dropped as the tale tells. -/
theorem drop_eq {p : Passage C S B A} (h : p.place.Formed g) :
    Guard.drop id p.place.task p.floor =
      ((tellDrop id p : Passage C S B A).place.task, (tellDrop id p).floor) := by
  obtain ⟨place, f, story⟩ := p
  cases place with
  | ready rest | asking connection q s next | finished outcome | dropped => rfl
  | within c s lookup next =>
      obtain ⟨lock, stands, rfl⟩ := h
      cases stands with
      | waiting | entered | asking | answered outcome => rfl

end Guard

end Tollgate
