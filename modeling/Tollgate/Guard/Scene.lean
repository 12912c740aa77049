import Tollgate.Guard.Memory
import Tollgate.Guard.Plan
import Tollgate.Metrics.Sink

/-!
A guard, what its calls act on, and how a plan runs when no other call is under way: gates are free
then, and a question is answered at once.
-/

namespace Tollgate

/-- A guard over connections `C`, which answer from states `S`, and a counter store with states `B`.
There is a connection to read from. -/
structure Guard (C S B : Type) where
  binds : Binds C
  authority : C → Authority S
  joined : Bool := true
  counters : Counter.Client B
  metrics : Metrics.Sink := .disabled
  hasReplica : binds.contains replicaBind

namespace Guard

/-- A guard over these connections, unless there is none to read from. -/
def new? {C S B : Type} (binds : Binds C) (authority : C → Authority S) (joined : Bool)
    (counters : Counter.Client B) (metrics : Metrics.Sink) : Outcome (Guard C S B) :=
  if h : binds.contains replicaBind then
    .ok { binds, authority, joined, counters, metrics, hasReplica := h }
  else .error (.unknownBind replicaBind)

/-- Something that happened: a report, a question with its outcome at a time of the caches' clock,
or the forgetting of one service or of all. -/
inductive Deed (C : Type)
  | noted (n : Note)
  | asked (connection : C) (q : Question) (s : ServiceId) (time : Nat) (outcome : Outcome q.Answer)
  | forgot (s : Option ServiceId)

/-- What calls act on: the memory of the guard with its clock, the stores, the counters, and the
deeds so far, the newest first. -/
structure Scene (C S B : Type) where
  memory : Memory
  clock : Cache.Clock := {}
  stores : S
  counts : B
  deeds : List (Deed C) := []

namespace Scene

variable {C S B : Type}

/-- Reports. -/
def note (x : Scene C S B) (n : Note) : Scene C S B :=
  { x with deeds := .noted n :: x.deeds }

/-- Looks a fact up. -/
def look (x : Scene C S B) (c : Concern) (s : ServiceId) : Option c.Fact × Scene C S B :=
  let (fact, memory) := x.memory.look c s x.clock.now
  (fact, { x with memory := memory })

/-- Remembers a fact. -/
def learn (x : Scene C S B) (c : Concern) (s : ServiceId) (fact : c.Fact) : Scene C S B :=
  { x with memory := x.memory.learn c s fact x.clock.now }

/-- Puts a question to a connection. -/
def ask (x : Scene C S B) (authority : C → Authority S) (connection : C) (q : Question)
    (s : ServiceId) : Outcome q.Answer × Scene C S B :=
  let (outcome, stores) := authority connection q s x.stores
  (outcome, { x with
    stores := stores
    deeds := .asked connection q s x.clock.now outcome :: x.deeds })

/-- Gives a command to the counter store. -/
def count (x : Scene C S B) (counters : Counter.Client B) (cmd : Counter.Command) :
    Outcome cmd.Told × Scene C S B :=
  let (outcome, counts) := counters.run cmd x.counts
  (outcome, { x with counts := counts })

/-- Forgets all about a service. -/
def invalidate (x : Scene C S B) (s : ServiceId) : Scene C S B :=
  { x with
    memory := x.memory.invalidate s x.clock.now
    deeds := .forgot (some s) :: x.deeds }

/-- Forgets all. -/
def clear (x : Scene C S B) : Scene C S B :=
  { x with memory := x.memory.clear, deeds := .forgot none :: x.deeds }

/-- Moves the clock of the caches. -/
def advance (x : Scene C S B) (span : Nat) : Scene C S B :=
  { x with clock := x.clock.advance span }

/-- Reports the size of every cache. -/
def reportSizes (x : Scene C S B) : Scene C S B :=
  Concern.all.foldl (fun y c => y.note (.size c (x.memory.cache c).size)) x

end Scene

variable {C S B A : Type}

/-- Runs a plan alone. -/
def alone (g : Guard C S B) : Plan A → Scene C S B → Outcome A × Scene C S B
  | .done outcome, x => (outcome, x)
  | .note n rest, x => g.alone rest (x.note n)
  | .look c s next, x =>
    let (fact, x) := x.look c s
    g.alone (next fact) x
  | .enter _ _ rest, x => g.alone rest x
  | .leave _ _ rest, x => g.alone rest x
  | .ask bind q s next, x =>
    match g.binds.runOnBind bind .ok with
    | .error e => g.alone (next (.error e)) x
    | .ok connection =>
      let (outcome, x) := x.ask g.authority connection q s
      g.alone (next outcome) x
  | .learn c s fact rest, x => g.alone rest (x.learn c s fact)
  | .count cmd next, x =>
    let (outcome, x) := x.count g.counters cmd
    g.alone (next outcome) x

end Guard

end Tollgate
