import Tollgate.Cache.Gate
import Tollgate.Guard.Scene

/-!
Several calls of a guard under way at once. A call runs until it has to wait, for a gate or for an
answer, and goes on when it is given a turn. Between turns stores change, time passes, facts are
forgotten and calls are dropped, in any order.

A question is answered at one moment, somewhere between the turn that puts it and the turn that goes
on with it.
-/

namespace Tollgate.Guard

/-- A call under way is known by its number. -/
abbrev TaskId := Nat

/-- A gate belongs to a concern and a service. -/
abbrev GateKey := Concern × ServiceId

/-- Where a call stands: it can go on; it waits for a gate, or has been handed it since; it waits for
an answer; it has ended; or it was dropped. -/
inductive Phase (C A : Type)
  | ready (plan : Plan A)
  | queued (pass : Pass GateKey) (rest : Plan A)
  | asking (connection : C) (q : Question) (s : ServiceId) (next : Outcome q.Answer → Plan A)
  | finished (outcome : Outcome A)
  | dropped

/-- A call under way, with the gate it holds. -/
structure Task (C A : Type) where
  phase : Phase C A
  holds : Option (Pass GateKey) := none

/-- What calls under way act on: the scene, the gates, and the calls that were handed a gate and have
not had a turn since, in that order. -/
structure Floor (C S B : Type) where
  scene : Scene C S B
  gates : Gates GateKey TaskId := {}
  woken : List TaskId := []

namespace Floor

variable {C S B : Type}

/-- The calls woken once a lock may have been handed on. -/
def wake (f : Floor C S B) (l : LockId) : Floor C S B :=
  { f with woken := f.woken ++ (f.gates.holder? l).toList }

/-- A call lets go of the gate that it holds, if it holds one. -/
def release (f : Floor C S B) : Option (Pass GateKey) → Floor C S B
  | none => f
  | some pass => Floor.wake { f with gates := f.gates.release pass.key pass.lock } pass.lock

/-- A call that has not gone through a gate gives up. -/
def abandon (f : Floor C S B) (l : LockId) (id : TaskId) : Floor C S B :=
  let wasHolder := f.gates.isHeldBy l id
  let f := { f with gates := f.gates.abandon l id, woken := f.woken.filter (· ≠ id) }
  if wasHolder then f.wake l else f

end Floor

variable {C S B A : Type}

/-- Lets a call go on from a plan until it ends or has to wait. -/
def proceed (g : Guard C S B) (id : TaskId) :
    Plan A → Option (Pass GateKey) → Floor C S B → Task C A × Floor C S B
  | .done outcome, holds, f => ({ phase := .finished outcome, holds }, f)
  | .note n rest, holds, f => g.proceed id rest holds { f with scene := f.scene.note n }
  | .look c s next, holds, f =>
    let (fact, scene) := f.scene.look c s
    g.proceed id (next fact) holds { f with scene := scene }
  | .enter c s rest, holds, f =>
    let (lock, gates) := f.gates.join (c, s) id
    let f := { f with gates := gates }
    if gates.isHeldBy lock id then g.proceed id rest (some ⟨(c, s), lock⟩) f
    else ({ phase := .queued ⟨(c, s), lock⟩ rest, holds }, f)
  | .leave _ _ rest, holds, f => g.proceed id rest none (f.release holds)
  | .ask bind q s next, holds, f =>
    match g.binds.runOnBind bind .ok with
    | .error e => g.proceed id (next (.error e)) holds f
    | .ok connection => ({ phase := .asking connection q s next, holds }, f)
  | .learn c s fact rest, holds, f =>
    g.proceed id rest holds { f with scene := f.scene.learn c s fact }
  | .count cmd next, holds, f =>
    let (outcome, scene) := f.scene.count g.counters cmd
    g.proceed id (next outcome) holds { f with scene := scene }

/-- A turn of a call: it goes on if it can. -/
def turn (g : Guard C S B) (id : TaskId) (t : Task C A) (f : Floor C S B) :
    Task C A × Floor C S B :=
  match t.phase with
  | .ready plan => g.proceed id plan t.holds f
  | .queued pass rest =>
    if f.gates.isHeldBy pass.lock id then
      g.proceed id rest (some pass) { f with woken := f.woken.filter (· ≠ id) }
    else (t, f)
  | .asking .. | .finished _ | .dropped => (t, f)

/-- The answer to the question that a call waits for. -/
def answer (g : Guard C S B) (t : Task C A) (f : Floor C S B) : Task C A × Floor C S B :=
  match t.phase with
  | .asking connection q s next =>
    let (outcome, scene) := f.scene.ask g.authority connection q s
    ({ t with phase := .ready (next outcome) }, { f with scene := scene })
  | _ => (t, f)

/-- A call is dropped: it leaves the queue it waits in and lets go of the gate it holds. -/
def drop (id : TaskId) (t : Task C A) (f : Floor C S B) : Task C A × Floor C S B :=
  match t.phase with
  | .finished _ | .dropped => (t, f)
  | .queued pass _ => ({ phase := .dropped }, f.abandon pass.lock id)
  | .ready _ | .asking .. => ({ phase := .dropped }, f.release t.holds)

/-- Calls under way, by number, and what they act on. -/
structure Machine (C S B A : Type) where
  floor : Floor C S B
  tasks : List (Task C A) := []

/-- What may happen next. What a call starts with is of a type `P`. -/
inductive Event (S B P : Type)
  | start (plan : P)
  | turn (id : TaskId)
  | answer (id : TaskId)
  | drop (id : TaskId)
  | invalidate (s : ServiceId)
  | clear
  | advance (span : Nat)
  | changeStores (change : S → S)
  | changeCounts (change : B → B)

namespace Machine

/-- Changes one call and what it acts on. -/
def update (m : Machine C S B A) (id : TaskId)
    (act : Task C A → Floor C S B → Task C A × Floor C S B) : Machine C S B A :=
  match m.tasks[id]? with
  | none => m
  | some t =>
    let (t, floor) := act t m.floor
    { floor, tasks := m.tasks.set id t }

/-- Changes the scene. -/
def onScene (m : Machine C S B A) (change : Scene C S B → Scene C S B) : Machine C S B A :=
  { m with floor := { m.floor with scene := change m.floor.scene } }

/-- Lets one thing happen. -/
def step (g : Guard C S B) (m : Machine C S B A) : Event S B (Plan A) → Machine C S B A
  | .start plan => { m with tasks := m.tasks ++ [{ phase := .ready plan }] }
  | .turn id => m.update id (g.turn id)
  | .answer id => m.update id g.answer
  | .drop id => m.update id (Guard.drop id)
  | .invalidate s => m.onScene (·.invalidate s)
  | .clear => m.onScene (·.clear)
  | .advance span => m.onScene (·.advance span)
  | .changeStores change => m.onScene fun x => { x with stores := change x.stores }
  | .changeCounts change => m.onScene fun x => { x with counts := change x.counts }

/-- Lets things happen one after another. -/
def run (g : Guard C S B) (m : Machine C S B A) (events : List (Event S B (Plan A))) :
    Machine C S B A :=
  events.foldl (step g) m

end Machine

end Tollgate.Guard
