import Tollgate.Guard.Machine
import Tollgate.Wait

/-!
Calls that start together and take turns on one thread. Turns go first come, first served; a question
is answered once its delay has passed, and time passes only when every call waits. A question
without delay is answered within the turn that puts it.
-/

namespace Tollgate.Guard

/-- Calls under way with the order of their turns: those that can go on, those that wait for an
answer with the time at which it comes, and the time. -/
structure Schedule (C S B A : Type) where
  machine : Machine C S B A
  ready : List TaskId
  sleeping : List (Nat × TaskId) := []
  now : Nat := 0

namespace Schedule

variable {C S B A : Type}

/-- The connection whose answer a call waits for. -/
def waitsFor? (x : Schedule C S B A) (id : TaskId) : Option C :=
  match x.machine.tasks[id]? with
  | none => none
  | some t =>
    match t.phase with
    | .asking connection _ _ _ => some connection
    | _ => none

/-- Gives a call a turn. Whoever is handed a gate meanwhile gets its turn after all that can go on
already. -/
def turn (g : Guard C S B) (delayMs : C → S → Nat) (x : Schedule C S B A) (id : TaskId) :
    Schedule C S B A :=
  let m := (x.machine.step g (.answer id)).step g (.turn id)
  let woken := m.floor.woken
  let x := { x with
    machine := { m with floor := { m.floor with woken := [] } }
    ready := x.ready ++ woken }
  match x.waitsFor? id with
  | none => x
  | some connection =>
    let delay := delayMs connection m.floor.scene.stores
    if delay = 0 then { x with ready := id :: x.ready }
    else { x with sleeping := x.sleeping ++ [(x.now + waitMs delay, id)] }

/-- The time of the next answer that is due. -/
def nextDue? (x : Schedule C S B A) : Option Nat :=
  (x.sleeping.map (·.1)).min?

/-- Gives turns until every call has ended, at most so many times. -/
def run (g : Guard C S B) (delayMs : C → S → Nat) :
    Nat → Schedule C S B A → Schedule C S B A
  | 0, x => x
  | fuel + 1, x =>
    match x.ready with
    | id :: rest => run g delayMs fuel (turn g delayMs { x with ready := rest } id)
    | [] =>
      match x.nextDue? with
      | none => x
      | some due =>
        run g delayMs fuel { x with
          now := due
          ready := (x.sleeping.filter (·.1 ≤ due)).map (·.2)
          sleeping := x.sleeping.filter (due < ·.1) }

/-- The outcome of a call that has ended. -/
def outcome? (t : Task C A) : Option (Outcome A) :=
  match t.phase with
  | .finished outcome => some outcome
  | _ => none

/-- The turns that calls can need. Each puts at most three questions and takes at most three gates,
and time passes at most once a question. -/
def enoughTurns (calls : Nat) : Nat :=
  16 * calls

end Schedule

variable {C S B A : Type}

/-- Runs calls that start together, each until it ends. -/
def together (g : Guard C S B) (delayMs : C → S → Nat) (plans : List (Plan A))
    (scene : Scene C S B) : List (Option (Outcome A)) × Scene C S B :=
  let start : Schedule C S B A := {
    machine := { floor := { scene }, tasks := plans.map fun plan => { phase := .ready plan } }
    ready := List.range plans.length }
  let final := start.run g delayMs (Schedule.enoughTurns plans.length)
  (final.machine.tasks.map Schedule.outcome?, final.machine.floor.scene)

end Tollgate.Guard
