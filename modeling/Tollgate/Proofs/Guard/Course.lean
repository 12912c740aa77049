import Tollgate.Proofs.Guard.Scene

/-!
Courses of calls that run alone, and of whole runs in which each call ends before the next thing
happens. A course visits every stage of a call, so that what holds of all visited stages also holds
in the middle of a call.
-/

namespace Tollgate.Guard

variable {C S B A D : Type}

/-- A call that runs alone passes, from a plan and a scene, through another plan and scene. -/
inductive Reaches (g : Guard C S B) : Plan A → Scene C S B → Plan A → Scene C S B → Prop
  | refl (p : Plan A) (x : Scene C S B) : Reaches g p x p x
  | note {n : Note} {rest q : Plan A} {x y : Scene C S B}
      (later : Reaches g rest (x.note n) q y) : Reaches g (.note n rest) x q y
  | look {c : Concern} {s : ServiceId} {next : Option c.Fact → Plan A} {q : Plan A}
      {x y : Scene C S B} (later : Reaches g (next (x.look c s).1) (x.look c s).2 q y) :
      Reaches g (.look c s next) x q y
  | enter {c : Concern} {s : ServiceId} {rest q : Plan A} {x y : Scene C S B}
      (later : Reaches g rest x q y) : Reaches g (.enter c s rest) x q y
  | leave {c : Concern} {s : ServiceId} {rest q : Plan A} {x y : Scene C S B}
      (later : Reaches g rest x q y) : Reaches g (.leave c s rest) x q y
  | refused {bind : String} {k : Question} {s : ServiceId} {next : Outcome k.Answer → Plan A}
      {q : Plan A} {x y : Scene C S B} {e : Failure}
      (hBind : g.binds.runOnBind bind Except.ok = .error e)
      (later : Reaches g (next (.error e)) x q y) : Reaches g (.ask bind k s next) x q y
  | asked {bind : String} {k : Question} {s : ServiceId} {next : Outcome k.Answer → Plan A}
      {q : Plan A} {x y : Scene C S B} {connection : C}
      (hBind : g.binds.runOnBind bind Except.ok = .ok connection)
      (later : Reaches g (next (x.ask g.authority connection k s).1)
        (x.ask g.authority connection k s).2 q y) : Reaches g (.ask bind k s next) x q y
  | learn {c : Concern} {s : ServiceId} {fact : c.Fact} {rest q : Plan A} {x y : Scene C S B}
      (later : Reaches g rest (x.learn c s fact) q y) : Reaches g (.learn c s fact rest) x q y
  | count {cmd : Counter.Command} {next : Outcome cmd.Told → Plan A} {q : Plan A}
      {x y : Scene C S B}
      (later : Reaches g (next (x.count g.counters cmd).1) (x.count g.counters cmd).2 q y) :
      Reaches g (.count cmd next) x q y

/-- What a call comes to is settled at every stage that it passes through. This is what makes
`Reaches` the course of the very call that `alone` runs; `reaches_done` alone would also allow stages
that are off the way. -/
theorem Reaches.alone_eq {g : Guard C S B} {p q : Plan A} {x y : Scene C S B}
    (h : g.Reaches p x q y) : g.alone p x = g.alone q y := by
  induction h with
  | refl => rfl
  | refused hBind _ ih => simp only [alone, hBind, ih]
  | asked hBind _ ih => simp only [alone, hBind, ih]
  | note _ ih | look _ ih | enter _ ih | leave _ ih | learn _ ih | count _ ih => exact ih

/-- Every call gets to its end. -/
theorem reaches_done (g : Guard C S B) (p : Plan A) (x : Scene C S B) :
    g.Reaches p x (.done (g.alone p x).1) (g.alone p x).2 := by
  induction p generalizing x with
  | done outcome => exact .refl _ _
  | note n rest ih => exact .note (ih _)
  | look c s next ih => exact .look (ih _ _)
  | enter c s rest ih => exact .enter (ih _)
  | leave c s rest ih => exact .leave (ih _)
  | ask bind q s next ih =>
      cases hBind : g.binds.runOnBind bind Except.ok with
      | error e =>
          simp only [alone, hBind]
          exact .refused hBind (ih _ _)
      | ok connection =>
          simp only [alone, hBind]
          exact .asked hBind (ih _ _)
  | learn c s fact rest ih => exact .learn (ih _)
  | count cmd next ih => exact .count (ih _ _)

/-- One thing that happens in a run in which calls do not overlap. -/
inductive Act (S B : Type)
  | call (present : Present) (call : Call)
  | invalidate (s : ServiceId)
  | clear
  | advance (span : Nat)
  | changeStores (change : S → S)
  | changeCounts (change : B → B)

/-- Lets one thing happen. -/
def act (g : Guard C S B) (x : Scene C S B) : Act S B → Scene C S B
  | .call present call => (g.alone (call.plan present g.joined) x).2
  | .invalidate s => x.invalidate s
  | .clear => x.clear
  | .advance span => x.advance span
  | .changeStores change => { x with stores := change x.stores }
  | .changeCounts change => { x with counts := change x.counts }

/-- Lets things happen one after another. -/
def acts (g : Guard C S B) (x : Scene C S B) (run : List (Act S B)) : Scene C S B :=
  run.foldl g.act x

/-- A scene before anything has happened. -/
def opening (settings : CachesSettings) (clock : Cache.Clock) (stores : S) (counts : B) :
    Scene C S B where
  memory := .ofSettings settings
  clock := clock
  stores := stores
  counts := counts

end Tollgate.Guard
