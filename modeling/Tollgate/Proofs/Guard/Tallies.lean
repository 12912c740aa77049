import Mathlib.Data.List.Perm.Basic
import Tollgate.Proofs.Guard.Lines
import Tollgate.Proofs.Guard.Tale
import Tollgate.Proofs.Guard.Progress

/-!
Lookups, reports, caches and questions add up. Each lookup looks once outside its gate, where it is
reported as a hit or as a miss. One that missed looks again behind the gate, and that is a hit of
the cache, or a miss for which the replica is asked. So what the caches count and what is reported
tell how many lookups there were, how many of them asked, and how many questions failed, once all of
them have returned.
-/

namespace Tollgate.Guard

variable {C S B A D : Type}

/-- What is counted of the lookups of a concern: those that began, those that returned, the
questions that they put to the replica, and the questions that failed. -/
structure Tally where
  begun : Nat := 0
  returned : Nat := 0
  queries : Nat := 0
  failures : Nat := 0
deriving DecidableEq, Repr

namespace Tally

/-- A lookup begins. If it finds the fact, it returns at once. -/
def start (n : Tally) (found : Bool) : Tally :=
  { n with begun := n.begun + 1, returned := n.returned + found.toNat }

/-- A lookup that went through a gate returns. -/
def finish (n : Tally) : Tally :=
  { n with returned := n.returned + 1 }

/-- A lookup puts its question. -/
def ask (n : Tally) : Tally :=
  { n with queries := n.queries + 1 }

/-- The question of a lookup is answered. -/
def hear {α : Type} (n : Tally) : Outcome α → Tally
  | .ok _ => n
  | .error _ => { n with failures := n.failures + 1 }

end Tally

/-- Whether a gate that is held is one of a concern. -/
def holdsGateOf (c : Concern) (holds : Option (Pass GateKey)) : Bool :=
  holds.any fun pass => pass.key.1 = c

/-- What is counted of the lookups of a concern while a call goes on from a plan. A lookup begins
with a look outside the gates. Where it does not find the fact it returns when it lets go of its
gate. A question is that of a lookup if it is put behind a gate. -/
def tally (g : Guard C S B) (c : Concern) (id : TaskId) :
    Plan A → Option (Pass GateKey) → Floor C S B → Tally → Tally
  | .done _, _, _, n => n
  | .note m rest, holds, f, n => g.tally c id rest holds { f with scene := f.scene.note m } n
  | .look d s next, holds, f, n =>
    let (found, scene) := f.scene.look d s
    g.tally c id (next found) holds { f with scene := scene }
      (if d = c && holds.isNone then n.start found.isSome else n)
  | .enter d s rest, _, f, n =>
    let (lock, gates) := f.gates.join (d, s) id
    let f := { f with gates := gates }
    if gates.isHeldBy lock id then g.tally c id rest (some ⟨(d, s), lock⟩) f n else n
  | .leave d _ rest, holds, f, n =>
    g.tally c id rest none (f.release holds) (if d = c then n.finish else n)
  | .ask bind _ _ next, holds, f, n =>
    match g.binds.runOnBind bind .ok with
    | .error e => g.tally c id (next (.error e)) holds f n
    | .ok (_ : C) => if holdsGateOf c holds then n.ask else n
  | .learn d s fact rest, holds, f, n =>
    g.tally c id rest holds { f with scene := f.scene.learn d s fact } n
  | .count cmd next, holds, f, n =>
    let (outcome, scene) := f.scene.count g.counters cmd
    g.tally c id (next outcome) holds { f with scene := scene } n

/-- What is counted in a turn of a call. -/
def tallyTurn (g : Guard C S B) (c : Concern) (id : TaskId) (t : Task C A) (f : Floor C S B)
    (n : Tally) : Tally :=
  match t.phase with
  | .ready plan => g.tally c id plan t.holds f n
  | .queued pass rest =>
    if f.gates.isHeldBy pass.lock id then
      g.tally c id rest (some pass) { f with woken := f.woken.filter (· ≠ id) } n
    else n
  | .asking .. | .finished _ | .dropped => n

/-- What is counted when a call is answered. -/
def tallyAnswer (g : Guard C S B) (c : Concern) (t : Task C A) (f : Floor C S B) (n : Tally) :
    Tally :=
  match t.phase with
  | .asking connection q s _ =>
    if holdsGateOf c t.holds then n.hear (f.scene.ask g.authority connection q s).1 else n
  | _ => n

namespace Machine

/-- What is counted when one thing happens. -/
def tallyStep (g : Guard C S B) (c : Concern) (m : Machine C S B A) (n : Tally) :
    Event S B (Plan A) → Tally
  | .turn id => (m.tasks[id]?).elim n fun t => g.tallyTurn c id t m.floor n
  | .answer id => (m.tasks[id]?).elim n fun t => g.tallyAnswer c t m.floor n
  | _ => n

/-- What is counted when things happen one after another. -/
def tally (g : Guard C S B) (c : Concern) (m : Machine C S B A) (n : Tally) :
    List (Event S B (Plan A)) → Tally
  | [] => n
  | event :: events => (m.step g event).tally g c (m.tallyStep g c n event) events

end Machine

/-- What caches and reports tell of a concern. -/
structure Figures where
  hits : Nat
  misses : Nat
  hitNotes : Nat
  missNotes : Nat
  loadNotes : Nat
deriving DecidableEq

/-- What the cache of a concern has counted, and what was reported of it. -/
def Scene.figures (x : Scene C S B) (c : Concern) : Figures where
  hits := (x.memory.cache c).hits
  misses := (x.memory.cache c).misses
  hitNotes := (notes x.deeds).count (.hit c)
  missNotes := (notes x.deeds).count (.miss c)
  loadNotes := (notes x.deeds).count (.load c)

theorem notes_noted (n : Note) (deeds : List (Deed C)) :
    notes (.noted n :: deeds) = notes deeds ++ [n] := by
  simp [notes]

theorem notes_asked (connection : C) (q : Question) (s : ServiceId) (time : Nat)
    (outcome : Outcome q.Answer) (deeds : List (Deed C)) :
    notes (.asked connection q s time outcome :: deeds) = notes deeds := by
  simp [notes]

theorem notes_forgot (s : Option ServiceId) (deeds : List (Deed C)) :
    notes (.forgot s :: deeds) = notes deeds := by
  simp [notes]

namespace Scene

variable (x : Scene C S B) (c d : Concern) (s : ServiceId)

theorem figures_note (n : Note) :
    (x.note n).figures c =
      { x.figures c with
        hitNotes := (x.figures c).hitNotes + if n = .hit c then 1 else 0
        missNotes := (x.figures c).missNotes + if n = .miss c then 1 else 0
        loadNotes := (x.figures c).loadNotes + if n = .load c then 1 else 0 } := by
  simp only [figures, note, notes_noted, List.count_append, List.count_singleton, beq_iff_eq]

/-- A report that is on no concern changes no figures. -/
theorem figures_note_of_none {n : Note} (h : n.concern? = none) :
    (x.note n).figures c = x.figures c := by
  rw [figures_note]
  cases n with
  | loadFailure | limitExceeded => rfl
  | _ => cases h

/-- A look that finds a fact is a hit of its cache. -/
theorem figures_look_of_live {fact : d.Fact} (h : x.live? d s = some fact) :
    (x.look d s).2.figures c =
      { x.figures c with hits := (x.figures c).hits + if d = c then 1 else 0 } := by
  by_cases hd : d = c
  · subst d
    have hFound : ((x.memory.cache c).get s x.clock.now).1 = some fact := (x.look_fst c s).trans h
    simp only [figures, cache_look, Cache.hits_get, Cache.misses_get, hFound, Option.isSome_some,
      if_true]
    rfl
  · have hCache := x.cache_look_of_ne s (Ne.symm hd)
    simp only [figures, hCache, hd, if_false]
    rfl

/-- A look that finds nothing is a miss of its cache. -/
theorem figures_look_of_not_live (h : x.live? d s = none) :
    (x.look d s).2.figures c =
      { x.figures c with misses := (x.figures c).misses + if d = c then 1 else 0 } := by
  by_cases hd : d = c
  · subst d
    have hFound : ((x.memory.cache c).get s x.clock.now).1 = none := (x.look_fst c s).trans h
    simp only [figures, cache_look, Cache.hits_get, Cache.misses_get, hFound, Option.isSome_none,
      Bool.false_eq_true, if_false, if_true]
    rfl
  · have hCache := x.cache_look_of_ne s (Ne.symm hd)
    simp only [figures, hCache, hd, if_false]
    rfl

theorem figures_learn (fact : d.Fact) : (x.learn d s fact).figures c = x.figures c := by
  by_cases hd : d = c
  · subst d
    simp only [figures, cache_learn, Cache.hits_put, Cache.misses_put]
    rfl
  · have hCache := x.cache_learn_of_ne s fact (Ne.symm hd)
    simp only [figures, hCache]
    rfl

theorem figures_ask (authority : C → Authority S) (connection : C) (q : Question) :
    (x.ask authority connection q s).2.figures c = x.figures c := by
  simp only [figures, ask, notes_asked]

theorem figures_invalidate : (x.invalidate s).figures c = x.figures c := by
  simp only [figures, invalidate, notes_forgot, Memory.cache_invalidate]
  rfl

theorem figures_clear : x.clear.figures c = x.figures c := by
  simp only [figures, clear, notes_forgot, Memory.cache_clear]
  rfl

end Scene

/-- Where a lookup stands: it waits for its gate; it has asked; it has been answered; or it has been
told that its question failed. -/
inductive Stage
  | waiting
  | asking
  | loaded
  | failed
deriving DecidableEq

/-- The stage of a lookup, if it is one of a concern. -/
def Stage.of (c d : Concern) (stage : Stage) : Option Stage :=
  if d = c then some stage else none

/-- The stage of a lookup that has been given the answer to its question. -/
def Stage.after {α : Type} : Outcome α → Stage
  | .ok _ => .loaded
  | .error _ => .failed

/-- Where the lookup of a concern stands that a call is in the midst of. -/
def Task.stage? (c : Concern) (t : Task C A) : Option Stage :=
  match t.phase with
  | .queued pass _ => Stage.of c pass.key.1 .waiting
  | .asking .. => t.holds.bind fun pass => Stage.of c pass.key.1 .asking
  | .ready (.leave ..) => t.holds.bind fun pass => Stage.of c pass.key.1 .failed
  | .ready _ => t.holds.bind fun pass => Stage.of c pass.key.1 .loaded
  | .finished _ | .dropped => none

/-- How many lookups stand at each stage: one, if it stands at any, and others. -/
def withOwn (own : Option Stage) (others : Stage → Nat) (stage : Stage) : Nat :=
  others stage + if own = some stage then 1 else 0

@[simp]
theorem withOwn_none (others : Stage → Nat) : withOwn none others = others := rfl

@[simp]
theorem withOwn_some (own stage : Stage) (others : Stage → Nat) :
    withOwn (some own) others stage = others stage + if own = stage then 1 else 0 := by
  simp only [withOwn, Option.some_inj]

@[simp]
theorem Stage.of_self (c : Concern) (stage : Stage) : Stage.of c c stage = some stage :=
  if_pos rfl

theorem Stage.of_ne {c d : Concern} (h : d ≠ c) (stage : Stage) : Stage.of c d stage = none :=
  if_neg h

/-- A load that succeeds is reported, whether or not there is a fact to keep. -/
theorem figures_settled (x : Scene C S B) (c d : Concern) (s : ServiceId)
    (outcome : Outcome d.Answer) :
    (settled x d s outcome).figures c =
      { x.figures c with
        loadNotes := (x.figures c).loadNotes +
          if d = c ∧ Stage.after outcome = .loaded then 1 else 0 } := by
  cases outcome with
  | error e => simp [settled, Stage.after]
  | ok a =>
      simp only [settled]
      cases d.fact? a <;> simp [Scene.figures_learn, Scene.figures_note, Stage.after]

/-- The figures of a concern fit what is counted of its lookups, of which so many are at each stage.
What was dropped in the midst of a lookup is missing from the stages. -/
structure Balanced (F : Figures) (n : Tally) (owed : Stage → Nat) : Prop where
  reported : F.hitNotes + F.missNotes = n.begun
  missed : F.misses = F.missNotes + n.queries
  asked : n.failures + F.loadNotes + owed .asking + owed .loaded ≤ n.queries
  returned : n.returned + owed .failed ≤ F.hits + F.loadNotes + n.failures
  begun : F.hits + n.queries + owed .waiting ≤ n.begun

namespace Balanced

variable {F : Figures} {n : Tally} {owed : Stage → Nat}

theorem start : Balanced ⟨0, 0, 0, 0, 0⟩ {} fun _ => 0 :=
  ⟨rfl, rfl, Nat.le_refl _, Nat.le_refl _, Nat.le_refl _⟩

theorem mono (h : Balanced F n owed) {fewer : Stage → Nat}
    (hFewer : ∀ stage, fewer stage ≤ owed stage) : Balanced F n fewer where
  reported := h.reported
  missed := h.missed
  asked := by have := h.asked; have := hFewer .asking; have := hFewer .loaded; omega
  returned := by have := h.returned; have := hFewer .failed; omega
  begun := by have := h.begun; have := hFewer .waiting; omega

/-- Once every lookup has returned, nothing is owed. -/
theorem atRest (h : Balanced F n owed) (hAll : n.begun = n.returned) :
    F.hitNotes + F.missNotes = n.begun ∧ F.loadNotes + n.failures = n.queries ∧
      F.hits + n.queries = n.begun ∧ F.misses = F.missNotes + n.queries := by
  have hAsked := h.asked
  have hReturned := h.returned
  have hBegun := h.begun
  exact ⟨h.reported, by omega, by omega, h.missed⟩

variable {x : Scene C S B} {c d : Concern} {s : ServiceId} {others : Stage → Nat}

/-- A lookup that finds its fact at its first look is reported as a hit, and returns. -/
theorem hit (h : Balanced (x.figures c) n others) {fact : d.Fact}
    (hLive : x.live? d s = some fact) :
    Balanced (((x.look d s).2.note (.hit d)).figures c) (if d = c then n.start true else n)
      others := by
  rw [Scene.figures_note, Scene.figures_look_of_live _ _ _ _ hLive]
  by_cases hd : d = c
  · subst d
    obtain ⟨hReported, hMissed, hAsked, hReturned, hBegun⟩ := h
    constructor <;> simp [Tally.start] <;> omega
  · simpa [hd] using h

/-- A lookup that does not find its fact is reported as a miss, and waits for its gate. -/
theorem miss (h : Balanced (x.figures c) n others) (hLive : x.live? d s = none) :
    Balanced (((x.look d s).2.note (.miss d)).figures c) (if d = c then n.start false else n)
      (withOwn (Stage.of c d .waiting) others) := by
  rw [Scene.figures_note, Scene.figures_look_of_not_live _ _ _ _ hLive]
  by_cases hd : d = c
  · subst d
    obtain ⟨hReported, hMissed, hAsked, hReturned, hBegun⟩ := h
    constructor <;> simp [Tally.start] <;> omega
  · simpa [hd, Stage.of_ne hd] using h

/-- A lookup that finds its fact behind the gate is a hit of the cache only, and returns. -/
theorem foundBehindGate (h : Balanced (x.figures c) n (withOwn (Stage.of c d .waiting) others))
    {fact : d.Fact} (hLive : x.live? d s = some fact) :
    Balanced ((x.look d s).2.figures c) (if d = c then n.finish else n) others := by
  rw [Scene.figures_look_of_live _ _ _ _ hLive]
  by_cases hd : d = c
  · subst d
    obtain ⟨hReported, hMissed, hAsked, hReturned, hBegun⟩ := h
    simp only [Stage.of_self, withOwn_some, reduceCtorEq, if_true, if_false]
      at hAsked hReturned hBegun
    constructor <;> simp [Tally.finish] <;> omega
  · simpa [hd, Stage.of_ne hd] using h

/-- A lookup that finds nothing behind the gate either puts its question. -/
theorem missedBehindGate (h : Balanced (x.figures c) n (withOwn (Stage.of c d .waiting) others))
    (hLive : x.live? d s = none) :
    Balanced ((x.look d s).2.figures c) (if d = c then n.ask else n)
      (withOwn (Stage.of c d .asking) others) := by
  rw [Scene.figures_look_of_not_live _ _ _ _ hLive]
  by_cases hd : d = c
  · subst d
    obtain ⟨hReported, hMissed, hAsked, hReturned, hBegun⟩ := h
    simp only [Stage.of_self, withOwn_some, reduceCtorEq, if_true, if_false]
      at hAsked hReturned hBegun
    constructor <;> simp [Tally.ask] <;> omega
  · simpa [hd, Stage.of_ne hd] using h

/-- The question of a lookup is answered. -/
theorem answered {α : Type} (h : Balanced F n (withOwn (Stage.of c d .asking) others))
    (outcome : Outcome α) :
    Balanced F (if d = c then n.hear outcome else n)
      (withOwn (Stage.of c d (.after outcome)) others) := by
  by_cases hd : d = c
  · subst d
    obtain ⟨hReported, hMissed, hAsked, hReturned, hBegun⟩ := h
    simp only [Stage.of_self, withOwn_some, reduceCtorEq, if_true, if_false]
      at hAsked hReturned hBegun
    cases outcome <;> constructor <;> simp [Tally.hear, Stage.after] <;> omega
  · simpa [hd, Stage.of_ne hd] using h

/-- A lookup that was given the answer to its question reports the load, if it succeeded, and
returns. -/
theorem settled {outcome : Outcome d.Answer}
    (h : Balanced (x.figures c) n (withOwn (Stage.of c d (.after outcome)) others)) :
    Balanced ((Guard.settled x d s outcome).figures c) (if d = c then n.finish else n) others := by
  rw [figures_settled]
  by_cases hd : d = c
  · subst d
    obtain ⟨hReported, hMissed, hAsked, hReturned, hBegun⟩ := h
    simp only [Stage.of_self, withOwn_some] at hAsked hReturned hBegun
    cases outcome with
    | ok a =>
        simp only [Stage.after, reduceCtorEq, if_true, if_false] at hAsked hReturned hBegun
        constructor <;> simp [Tally.finish, Stage.after] <;> omega
    | error e =>
        simp only [Stage.after, reduceCtorEq, if_true, if_false] at hAsked hReturned hBegun
        constructor <;> simp [Tally.finish, Stage.after] <;> omega
  · simpa [hd, Stage.of_ne hd] using h

end Balanced

/-- A plan that looks facts up, and reports on concerns, only in lookups. -/
inductive Plan.Regular : Plan A → Prop
  | done (outcome : Outcome A) : Regular (.done outcome)
  | note {n : Note} {rest : Plan A} (hNote : n.concern? = none) (h : Regular rest) :
      Regular (.note n rest)
  | ask {bind : String} {q : Question} {s : ServiceId} {next : Outcome q.Answer → Plan A}
      (h : ∀ outcome, Regular (next outcome)) : Regular (.ask bind q s next)
  | learn {c : Concern} {s : ServiceId} {fact : c.Fact} {rest : Plan A} (h : Regular rest) :
      Regular (.learn c s fact rest)
  | count {cmd : Counter.Command} {next : Outcome cmd.Told → Plan A}
      (h : ∀ outcome, Regular (next outcome)) : Regular (.count cmd next)
  | lookup {c : Concern} {s : ServiceId} {k : Outcome (Option c.Fact) → Plan A}
      (h : ∀ outcome, Regular (k outcome)) : Regular ((Plan.lookup c s).followedBy k)

theorem Plan.Regular.followedBy {p : Plan A} {f : Outcome A → Plan D} (h : p.Regular)
    (hf : ∀ outcome, (f outcome).Regular) : (p.followedBy f).Regular := by
  induction h with
  | done outcome => exact hf outcome
  | note hNote _ ih => exact .note hNote ih
  | ask _ ih => exact .ask ih
  | learn _ ih => exact .learn ih
  | count _ ih => exact .count ih
  | lookup _ ih =>
      rw [Plan.followedBy_assoc]
      exact .lookup ih

theorem Plan.fetch_regular (s : ServiceId) (fetch : Fetch A) : (Plan.fetch s fetch).Regular := by
  induction fetch with
  | done outcome => exact .done outcome
  | ask q next ih => exact .ask ih

theorem Plan.prime_regular (joined : Bool) (s : ServiceId) : (Plan.prime joined s).Regular := by
  refine (Plan.fetch_regular s _).followedBy fun outcome => ?_
  match outcome with
  | .error e => exact .done _
  | .ok none => exact .done _
  | .ok (some snapshot) => exact .learn (.learn (.learn (.done _)))

/-- Every call looks facts up, and reports on concerns, only in lookups. -/
theorem Call.plan_regular (present : Present) (joined : Bool) (call : Call) :
    (call.plan present joined).Regular :=
  Call.plan_of_parts (P := fun p => p.Regular) (fun outcome => .done outcome)
    (fun _ _ hNote h => .note hNote h) (fun _ _ h => .count h) (fun _ _ h hf => h.followedBy hf)
    (fun c s => Plan.followedBy_done (Plan.lookup c s) ▸ .lookup fun outcome => .done outcome)
    (fun _ => .ask fun outcome => .done outcome) present call
    fun s _ => Plan.prime_regular joined s

/-- A call under way that looks facts up only in lookups: it is between lookups, or waits for the
gate of one, or has asked behind a gate, or has been given the answer to that. -/
inductive Task.Regular : Task C A → Prop
  | free {plan : Plan A} (h : plan.Regular) : Regular { phase := .ready plan }
  | asking {connection : C} {q : Question} {s : ServiceId} {next : Outcome q.Answer → Plan A}
      (h : ∀ outcome, (next outcome).Regular) :
      Regular { phase := .asking connection q s next }
  | queued {d : Concern} {s : ServiceId} {lock : LockId} {k : Outcome (Option d.Fact) → Plan A}
      (h : ∀ outcome, (k outcome).Regular) :
      Regular { phase := .queued ⟨(d, s), lock⟩ ((Plan.behindGate d s).followedBy k) }
  | loading {connection : C} {d : Concern} {s : ServiceId} {lock : LockId}
      {k : Outcome (Option d.Fact) → Plan A} (h : ∀ outcome, (k outcome).Regular) :
      Regular {
        phase := .asking connection (.fact d) s fun outcome => (Plan.settle d s outcome).followedBy k
        holds := some ⟨(d, s), lock⟩ }
  | loaded {d : Concern} {s : ServiceId} {lock : LockId} {k : Outcome (Option d.Fact) → Plan A}
      (outcome : Outcome d.Answer) (h : ∀ outcome, (k outcome).Regular) :
      Regular {
        phase := .ready ((Plan.settle d s outcome).followedBy k)
        holds := some ⟨(d, s), lock⟩ }
  | finished (outcome : Outcome A) : Regular { phase := .finished outcome }
  | dropped : Regular { phase := .dropped }

/-- A call that can go on and holds no gate is between its lookups. -/
theorem Task.stage?_ready (c : Concern) (plan : Plan A) :
    Task.stage? c ({ phase := .ready plan } : Task C A) = none := by
  cases plan <;> rfl

theorem Task.stage?_loaded (c : Concern) {d : Concern} (s : ServiceId) (lock : LockId)
    (k : Outcome (Option d.Fact) → Plan A) (outcome : Outcome d.Answer) :
    Task.stage? c ({
        phase := .ready ((Plan.settle d s outcome).followedBy k)
        holds := some ⟨(d, s), lock⟩ } : Task C A) = Stage.of c d (.after outcome) := by
  cases outcome <;> rfl

/-- A call goes on from a plan until it waits or ends, and its lookups add up with those of others.
-/
def AddsUp (g : Guard C S B) (c : Concern) (id : TaskId) (p : Plan A)
    (holds : Option (Pass GateKey)) (f : Floor C S B) (n : Tally) (others : Stage → Nat) : Prop :=
  Balanced ((g.proceed id p holds f).2.scene.figures c) (g.tally c id p holds f n)
      (withOwn ((g.proceed id p holds f).1.stage? c) others) ∧
    (g.proceed id p holds f).1.Regular

/-- A call adds up if it does so from where it goes on. -/
theorem AddsUp.after {g : Guard C S B} {c : Concern} {id : TaskId} {p q : Plan A}
    {holds holds' : Option (Pass GateKey)} {f f' : Floor C S B} {n n' : Tally}
    {others : Stage → Nat} (h : g.AddsUp c id q holds' f' n' others)
    (hProceed : g.proceed id p holds f = g.proceed id q holds' f')
    (hTally : g.tally c id p holds f n = g.tally c id q holds' f' n') :
    g.AddsUp c id p holds f n others := by
  unfold AddsUp
  rw [hProceed, hTally]
  exact h

section

variable {g : Guard C S B} {c d : Concern} {k : Outcome (Option d.Fact) → Plan A}
  {others : Stage → Nat}

/-- Behind the gate a lookup returns with what it finds, or asks. -/
theorem addsUp_behindGate (id : TaskId) (s : ServiceId) (lock : LockId)
    (hPlan : ∀ outcome, (k outcome).Regular)
    (hNext : ∀ outcome f n, Balanced (f.scene.figures c) n others →
      g.AddsUp c id (k outcome) none f n others)
    {f : Floor C S B} {n : Tally}
    (h : Balanced (f.scene.figures c) n (withOwn (Stage.of c d .waiting) others)) :
    g.AddsUp c id ((Plan.behindGate d s).followedBy k) (some ⟨(d, s), lock⟩) f n others := by
  cases hLive : f.scene.live? d s with
  | some fact =>
      have hFound := h.foundBehindGate hLive
      refine (hNext (.ok (some fact)) (Floor.release { f with scene := (f.scene.look d s).2 }
        (some ⟨(d, s), lock⟩)) _ (by simpa using hFound)).after ?_ ?_
      · simp only [Plan.behindGate, Plan.followedBy, proceed, Scene.look_fst, hLive]
      · simp only [Plan.behindGate, Plan.followedBy, tally, Scene.look_fst, hLive]
        simp
  | none =>
      unfold AddsUp
      simp only [Plan.behindGate, Plan.followedBy, proceed, tally, Scene.look_fst, hLive,
        runOnBind_replica]
      have hMissed := h.missedBehindGate hLive
      refine ⟨?_, .loading hPlan⟩
      simp only [holdsGateOf, Option.any_some, decide_eq_true_eq, Option.isNone_some, Bool.and_false,
        Bool.false_eq_true, if_false]
      exact hMissed

/-- A call that looks facts up only in lookups adds up while it goes on. -/
theorem addsUp_of_regular (id : TaskId) {p : Plan A} (hPlan : p.Regular) (f : Floor C S B)
    (n : Tally) (h : Balanced (f.scene.figures c) n others) :
    g.AddsUp c id p none f n others := by
  induction hPlan generalizing f n with
  | done outcome => exact ⟨h, .finished outcome⟩
  | @note m rest hNote _ ih =>
      refine (ih { f with scene := f.scene.note m } n ?_).after rfl rfl
      rwa [Scene.figures_note_of_none _ _ hNote]
  | @ask bind q s next hNext ih =>
      cases hBind : g.binds.runOnBind bind Except.ok with
      | error e =>
          refine (ih (.error e) f n h).after ?_ ?_
          · simp only [proceed, hBind]
          · simp only [tally, hBind]
      | ok connection =>
          unfold AddsUp
          simp only [proceed, tally, hBind]
          exact ⟨h, .asking hNext⟩
  | @learn d s fact rest _ ih =>
      refine (ih { f with scene := f.scene.learn d s fact } n ?_).after rfl rfl
      rwa [Scene.figures_learn]
  | @count cmd next _ ih =>
      exact (ih _ { f with scene := (f.scene.count g.counters cmd).2 } n h).after rfl rfl
  | @lookup d s k hNext ih =>
      cases hLive : f.scene.live? d s with
      | some fact =>
          refine (ih (.ok (some fact)) { f with scene := (f.scene.look d s).2.note (.hit d) } _
            (h.hit hLive)).after ?_ ?_
          · simp only [Plan.lookup, Plan.followedBy, proceed, Scene.look_fst, hLive]
          · simp only [Plan.lookup, Plan.followedBy, tally, Scene.look_fst, hLive]
            simp
      | none =>
          have hMissed := h.miss hLive
          by_cases hHeld : (f.gates.join (d, s) id).2.isHeldBy (f.gates.join (d, s) id).1 id
          · refine (addsUp_behindGate id s (f.gates.join (d, s) id).1 hNext ih (f := { f with
              scene := (f.scene.look d s).2.note (.miss d)
              gates := (f.gates.join (d, s) id).2 }) hMissed).after ?_ ?_
            · simp only [Plan.lookup, Plan.followedBy, proceed, Scene.look_fst, hLive, if_pos hHeld]
            · simp only [Plan.lookup, Plan.followedBy, tally, Scene.look_fst, hLive, if_pos hHeld]
              simp
          · unfold AddsUp
            simp only [Plan.lookup, Plan.followedBy, proceed, tally, Scene.look_fst, hLive, hHeld]
            simp only [Option.isNone_none, Bool.and_true, decide_eq_true_eq, Option.isSome_none]
            exact ⟨hMissed, .queued hNext⟩

/-- A call that was given the answer to its question settles it and goes on. -/
theorem addsUp_settle (id : TaskId) (s : ServiceId) (lock : LockId) (outcome : Outcome d.Answer)
    (hPlan : ∀ outcome, (k outcome).Regular) (f : Floor C S B) (n : Tally)
    (h : Balanced (f.scene.figures c) n (withOwn (Stage.of c d (.after outcome)) others)) :
    g.AddsUp c id ((Plan.settle d s outcome).followedBy k) (some ⟨(d, s), lock⟩) f n others := by
  have hSettled : Balanced ((settled f.scene d s outcome).figures c)
    (if d = c then n.finish else n) others := h.settled
  have hProceed := proceed_settle g id ⟨(d, s), lock⟩ outcome k f rfl
  refine (addsUp_of_regular id (hPlan (outcome.map d.fact?)) _ (if d = c then n.finish else n)
    ?_).after hProceed ?_
  · rwa [Floor.scene_release]
  · cases outcome with
    | error e => rfl
    | ok a =>
        simp only [Plan.settle, Plan.followedBy, tally, settled, Except.map]
        cases d.fact? a <;> rfl

end

namespace Task.Regular

variable {g : Guard C S B} {c : Concern} {id : TaskId} {t : Task C A} {f : Floor C S B} {n : Tally}
  {others : Stage → Nat}

/-- What a call counts in a turn adds up with what others have counted. -/
theorem turn (hTask : t.Regular)
    (h : Balanced (f.scene.figures c) n (withOwn (t.stage? c) others)) :
    Balanced ((g.turn id t f).2.scene.figures c) (g.tallyTurn c id t f n)
        (withOwn ((g.turn id t f).1.stage? c) others) ∧
      (g.turn id t f).1.Regular := by
  cases hTask with
  | @free plan hPlan =>
      rw [stage?_ready, withOwn_none] at h
      exact addsUp_of_regular id hPlan f n h
  | asking hPlan => exact ⟨h, .asking hPlan⟩
  | @queued d s lock k hPlan =>
      simp only [Guard.turn, tallyTurn]
      split
      · let awake : Floor C S B := { f with woken := f.woken.filter (· ≠ id) }
        exact addsUp_behindGate id s lock hPlan (fun outcome => addsUp_of_regular id (hPlan outcome))
          (f := awake) h
      · exact ⟨h, .queued hPlan⟩
  | loading hPlan => exact ⟨h, .loading hPlan⟩
  | @loaded d s lock k outcome hPlan =>
      rw [stage?_loaded] at h
      exact addsUp_settle id s lock outcome hPlan f n h
  | finished outcome => exact ⟨h, .finished outcome⟩
  | dropped => exact ⟨h, .dropped⟩

/-- What is counted with the answer to a call adds up. -/
theorem answer (hTask : t.Regular)
    (h : Balanced (f.scene.figures c) n (withOwn (t.stage? c) others)) :
    Balanced ((g.answer t f).2.scene.figures c) (g.tallyAnswer c t f n)
        (withOwn ((g.answer t f).1.stage? c) others) ∧
      (g.answer t f).1.Regular := by
  cases hTask with
  | free hPlan => exact ⟨h, .free hPlan⟩
  | @asking connection q s next hPlan =>
      refine ⟨?_, .free (hPlan _)⟩
      simp only [Guard.answer, stage?_ready]
      rw [Scene.figures_ask]
      exact h
  | queued hPlan => exact ⟨h, .queued hPlan⟩
  | @loading connection d s lock k hPlan =>
      let outcome : Outcome d.Answer := (f.scene.ask g.authority connection (.fact d) s).1
      have hAnswered := h.answered outcome
      rw [← stage?_loaded c s lock k outcome] at hAnswered
      refine ⟨?_, .loaded outcome hPlan⟩
      simp only [Guard.answer, tallyAnswer, holdsGateOf, Option.any_some, decide_eq_true_eq]
      rw [Scene.figures_ask]
      exact hAnswered
  | loaded outcome hPlan => exact ⟨h, .loaded outcome hPlan⟩
  | finished outcome => exact ⟨h, .finished outcome⟩
  | dropped => exact ⟨h, .dropped⟩

/-- A call that is dropped counts no more. -/
theorem drop (hTask : t.Regular)
    (h : Balanced (f.scene.figures c) n (withOwn (t.stage? c) others)) :
    Balanced ((Guard.drop id t f).2.scene.figures c) n
        (withOwn ((Guard.drop id t f).1.stage? c) others) ∧
      (Guard.drop id t f).1.Regular := by
  rw [scene_drop]
  cases hTask with
  | finished outcome => exact ⟨h, .finished outcome⟩
  | _ => exact ⟨h.mono fun stage => Nat.le_add_right _ _, .dropped⟩

end Task.Regular

/-- How many lookups of a concern stand at each stage, among those of some calls. -/
def owed (c : Concern) (tasks : List (Task C A)) (stage : Stage) : Nat :=
  tasks.countP fun t => t.stage? c = some stage

theorem owed_cons (c : Concern) (t : Task C A) (tasks : List (Task C A)) :
    owed c (t :: tasks) = withOwn (t.stage? c) (owed c tasks) := by
  funext stage
  rw [owed, List.countP_cons, withOwn]
  simp only [decide_eq_true_eq, owed]

theorem owed_perm (c : Concern) {tasks tasks' : List (Task C A)} (h : tasks.Perm tasks') :
    owed c tasks = owed c tasks' :=
  funext fun _ => h.countP_eq _

namespace Machine

/-- All calls under way look facts up only in lookups, and those of a concern add up. -/
structure AddsUp (c : Concern) (m : Machine C S B A) (n : Tally) : Prop where
  regular : ∀ t ∈ m.tasks, t.Regular
  balanced : Balanced (m.floor.scene.figures c) n (owed c m.tasks)

namespace AddsUp

variable {g : Guard C S B} {c : Concern} {m : Machine C S B A} {n : Tally}

/-- A change of one call adds up if it does so with the lookups of all others. -/
theorem update (h : m.AddsUp c n) {id : TaskId} {t : Task C A} (ht : m.tasks[id]? = some t)
    (act : Task C A → Floor C S B → Task C A × Floor C S B) {n' : Tally}
    (hAct : ∀ others, Balanced (m.floor.scene.figures c) n (withOwn (t.stage? c) others) →
      Balanced ((act t m.floor).2.scene.figures c) n'
          (withOwn ((act t m.floor).1.stage? c) others) ∧
        (act t m.floor).1.Regular) :
    (m.update id act).AddsUp c n' := by
  -- The lookups of the other calls stand where they stood.
  obtain ⟨hLength, hTask⟩ := List.getElem?_eq_some_iff.1 ht
  have hBefore : owed c m.tasks = withOwn (t.stage? c) (owed c (m.tasks.eraseIdx id)) := by
    rw [← owed_cons, ← hTask]
    exact owed_perm c (List.getElem_cons_eraseIdx_perm hLength).symm
  have hAfter : owed c (m.update id act).tasks =
      withOwn ((act t m.floor).1.stage? c) (owed c (m.tasks.eraseIdx id)) := by
    rw [← owed_cons, tasks_update ht]
    exact owed_perm c (List.set_perm_cons_eraseIdx hLength _)
  obtain ⟨hBalanced, hRegular⟩ := hAct _ (hBefore ▸ h.balanced)
  constructor
  case regular =>
    intro u hu
    rw [tasks_update ht] at hu
    rcases List.mem_or_eq_of_mem_set hu with hOld | rfl
    · exact h.regular u hOld
    · exact hRegular
  case balanced =>
    rw [floor_update ht, hAfter]
    exact hBalanced

/-- What happens around calls changes no figures. -/
theorem onScene (h : m.AddsUp c n) (change : Scene C S B → Scene C S B)
    (hFigures : (change m.floor.scene).figures c = m.floor.scene.figures c) :
    (m.onScene change).AddsUp c n where
  regular := h.regular
  balanced := hFigures ▸ h.balanced

/-- A call that begins is in the midst of no lookup. -/
theorem begin (h : m.AddsUp c n) {plan : Plan A} (hPlan : plan.Regular) :
    AddsUp c { m with tasks := m.tasks ++ [{ phase := .ready plan }] } n where
  regular t ht := by
    rcases List.mem_append.1 ht with hOld | hNew
    · exact h.regular t hOld
    · rw [List.mem_singleton.1 hNew]
      exact .free hPlan
  balanced := by
    refine h.balanced.mono fun stage => Nat.le_of_eq ?_
    simp [owed, List.countP_append, Task.stage?_ready]

/-- Whatever happens, the lookups go on adding up. -/
theorem step (h : m.AddsUp c n) (g : Guard C S B) (event : Event S B (Plan A))
    (hStart : ∀ plan, event = .start plan → plan.Regular) :
    (m.step g event).AddsUp c (m.tallyStep g c n event) := by
  have hRegular {id : TaskId} {t : Task C A} (ht : m.tasks[id]? = some t) : t.Regular :=
    h.regular t (List.mem_of_getElem? ht)
  cases event with
  | start plan => exact h.begin (hStart plan rfl)
  | turn id =>
      simp only [Machine.step, tallyStep]
      cases ht : m.tasks[id]? with
      | none => rwa [update_of_none ht]
      | some t => exact h.update ht (g.turn id) fun others => (hRegular ht).turn
  | answer id =>
      simp only [Machine.step, tallyStep]
      cases ht : m.tasks[id]? with
      | none => rwa [update_of_none ht]
      | some t => exact h.update ht g.answer fun others => (hRegular ht).answer
  | drop id =>
      simp only [Machine.step, tallyStep]
      cases ht : m.tasks[id]? with
      | none => rwa [update_of_none ht]
      | some t => exact h.update ht (Guard.drop id) fun others => (hRegular ht).drop
  | invalidate s => exact h.onScene (·.invalidate s) (Scene.figures_invalidate _ _ _)
  | clear => exact h.onScene (·.clear) (Scene.figures_clear _ _)
  | advance span => exact h.onScene (·.advance span) rfl
  | changeStores change => exact h.onScene (fun x => { x with stores := change x.stores }) rfl
  | changeCounts change => exact h.onScene (fun x => { x with counts := change x.counts }) rfl

theorem run (h : m.AddsUp c n) (g : Guard C S B) (events : List (Event S B (Plan A)))
    (hStart : ∀ plan, .start plan ∈ events → plan.Regular) :
    (m.run g events).AddsUp c (m.tally g c n events) := by
  induction events generalizing m n with
  | nil => exact h
  | cons event events ih =>
      have hFirst : ∀ plan, event = .start plan → plan.Regular := by
        rintro plan rfl
        exact hStart plan List.mem_cons_self
      exact ih (h.step g event hFirst) fun plan hMem => hStart plan (List.mem_cons_of_mem _ hMem)

end AddsUp

end Machine

/-- At any moment when every lookup of a concern that was begun has returned, its figures add up. -/
theorem lookups_add_up (g : Guard C S B) (hMetrics : g.metrics.isEnabled)
    (settings : CachesSettings) (clock : Cache.Clock) (stores : S) (counts : B)
    (events : List (Event S B (Present × Call))) (c : Concern) (loadMs : Nat) :
    let start : Machine C S B Reply :=
      { floor := { scene := opening settings clock stores counts } }
    let planned := events.map (Event.planned g.joined)
    let x := (start.run g planned).floor.scene
    let made := start.tally g c {} planned
    let sent n := sent g.metrics loadMs n x.deeds
    let figures := (x.memory.cache c).stats
    made.begun = made.returned →
      sent (.hit c) + sent (.miss c) = made.begun ∧
        sent (.load c) + made.failures = made.queries ∧
        figures.hits + made.queries = made.begun ∧
        figures.misses = sent (.miss c) + made.queries := by
  intro start planned x made sent figures hReturned
  have hStart : start.AddsUp c {} := {
    regular := nofun
    balanced := by
      have hFigures : start.floor.scene.figures c = ⟨0, 0, 0, 0, 0⟩ := by cases c <;> rfl
      rw [hFigures]
      exact .start }
  have hRun : (start.run g planned).AddsUp c made := by
    refine hStart.run g planned fun plan hMem => ?_
    obtain ⟨present, call, rfl⟩ := Event.exists_call_of_planned hMem
    exact call.plan_regular present g.joined
  have hSent (n : Note) (h : n.OnLookup) : sent n = (notes x.deeds).count n :=
    sent_eq_count hMetrics loadMs h x.deeds
  rw [hSent (.hit c) trivial, hSent (.miss c) trivial, hSent (.load c) trivial]
  exact hRun.balanced.atRest hReturned

/-- Two lookups at once of which one is served by the load of the other, a hit, a load that fails, one
that finds nothing, and a check that looks up facts of all concerns. -/
theorem lookups_add_up_mixed :
    let s : ServiceId := default
    let present : Present := { now := .midnight .epoch }
    let lookup (s : ServiceId) : Event MemoryStore Unit (Present × Call) :=
      .start (present, .isActive s)
    let events := [lookup s, lookup s, .turn 0, .turn 1, .answer 0, .turn 0, .turn 1,
      lookup s, .turn 2, .invalidate s, .changeStores fun m => { m with available := false },
      lookup s, .turn 3, .answer 3, .turn 3, .changeStores fun m => { m with available := true },
      lookup (.ofNat 1), .turn 4, .answer 4, .turn 4,
      .start (present, .authorize s "send"), .turn 5, .answer 5, .turn 5, .answer 5, .turn 5,
      .answer 5, .turn 5]
    let g := { ofMemory with metrics := { stem := some "notifications" } }
    let key : ApiKey := { id := default, secretRef := "secret/0" }
    let stores := ({ label := "replica" } : MemoryStore).upsert s
      { apiKeys := [key], permissions := [⟨"send"⟩], active := true }
    let start : Machine Unit MemoryStore Unit Reply :=
      { floor := { scene := opening {} {} stores () } }
    let planned := events.map (Event.planned g.joined)
    let x := (start.run g planned).floor.scene
    let made c := start.tally g c {} planned
    let sent n := sent g.metrics 0 n x.deeds
    made .serviceActive = ⟨6, 6, 4, 1⟩ ∧ made .apiKeys = ⟨1, 1, 1, 0⟩ ∧
      made .permissions = ⟨1, 1, 1, 0⟩ ∧
      ∀ c, sent (.hit c) + sent (.miss c) = (made c).begun ∧
        sent (.load c) + (made c).failures = (made c).queries ∧
        (x.memory.cache c).stats.hits + (made c).queries = (made c).begun ∧
        (x.memory.cache c).stats.misses = sent (.miss c) + (made c).queries := by
  intro s present lookup events g key stores start planned x made sent
  have hActive : made .serviceActive = ⟨6, 6, 4, 1⟩ := by decide +kernel
  have hKeys : made .apiKeys = ⟨1, 1, 1, 0⟩ := by decide +kernel
  have hPermissions : made .permissions = ⟨1, 1, 1, 0⟩ := by decide +kernel
  have hReturned (c : Concern) : (made c).begun = (made c).returned := by
    cases c with
    | apiKeys => rw [hKeys]
    | permissions => rw [hPermissions]
    | serviceActive => rw [hActive]
  refine ⟨hActive, hKeys, hPermissions, fun c => ?_⟩
  have hAdds := lookups_add_up g rfl {} {} stores () events c 0
  extract_lets at hAdds
  exact hAdds (hReturned c)

end Tollgate.Guard
