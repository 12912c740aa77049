import Tollgate.Routing.Binds

/-!
Binds built by registering one connection after another. What a name leads to is told by the
registrations alone: the last one under that name decides.
-/

namespace Tollgate.Binds

variable {C : Type}

/-- A connection added to binds: under a name, or as the one to read from. -/
inductive Registration (C : Type)
  | named (name : String) (connection : C)
  | replica (connection : C)

/-- The name that a registration is under, and its connection. -/
def Registration.entry : Registration C → String × C
  | named name connection => (name, connection)
  | replica connection => (replicaBind, connection)

/-- Adds the connection of a registration. -/
def register (b : Binds C) : Registration C → Binds C
  | .named name connection => b.withBind name connection
  | .replica connection => b.withReplica connection

/-- The binds of a default connection and what is registered after it. -/
def built (primary : C) (registrations : List (Registration C)) : Binds C :=
  registrations.foldl register (new primary)

/-- The connection registered last under a name. The default one is registered first. -/
def lastRegistered? (primary : C) (registrations : List (Registration C)) (name : String) :
    Option C :=
  let entries := (primaryBind, primary) :: registrations.map Registration.entry
  ((entries.filter (·.1 = name)).getLast?).map (·.2)

theorem get?_register (b : Binds C) (r : Registration C) (name : String) :
    (b.register r).connections.get? name =
      if r.entry.1 = name then some r.entry.2 else b.connections.get? name := by
  cases r <;> simp only [register, withReplica, withBind, Registration.entry, Table.get?_put,
    eq_comm]

/-- Registrations decide by the last one under the name, and leave alone what they do not name. -/
theorem get?_foldl_register (b : Binds C) (registrations : List (Registration C)) (name : String) :
    (registrations.foldl register b).connections.get? name =
      ((((registrations.map Registration.entry).filter (·.1 = name)).getLast?).map (·.2)).or
        (b.connections.get? name) := by
  induction registrations generalizing b with
  | nil => rfl
  | cons r registrations ih =>
      rw [List.foldl_cons, ih, get?_register, List.map_cons, List.filter_cons]
      by_cases hName : r.entry.1 = name
      · simp only [hName, if_true, decide_true, List.getLast?_cons]
        cases (((registrations.map Registration.entry).filter (·.1 = name)).getLast?) <;> rfl
      · simp only [hName, if_false, decide_false, Bool.false_eq_true]

theorem get?_built (primary : C) (registrations : List (Registration C)) (name : String) :
    (built primary registrations).connections.get? name =
      lastRegistered? primary registrations name := by
  rw [built, get?_foldl_register, lastRegistered?, List.filter_cons]
  by_cases hName : primaryBind = name
  · simp only [hName, decide_true, if_true, List.getLast?_cons, new, Table.get?_put]
    cases (((registrations.map Registration.entry).filter (·.1 = name)).getLast?) <;> rfl
  · have hNone : (new primary).connections.get? name = none := by
      rw [new, Table.get?_put, if_neg (Ne.symm hName)]
      rfl
    simp only [hName, decide_false, Bool.false_eq_true, if_false, hNone, Option.or_none]

theorem get_built (primary : C) (registrations : List (Registration C)) (name : String) :
    (built primary registrations).get name =
      (lastRegistered? primary registrations name).elim (.error (.unknownBind name)) .ok := by
  rw [get, get?_built]
  cases lastRegistered? primary registrations name <;> rfl

/-- There is always a default connection. -/
theorem exists_lastRegistered?_primary (primary : C) (registrations : List (Registration C)) :
    ∃ connection, lastRegistered? primary registrations primaryBind = some connection := by
  rw [← get?_built]
  exact Option.isSome_iff_exists.1 (built primary registrations).hasPrimary

end Tollgate.Binds
