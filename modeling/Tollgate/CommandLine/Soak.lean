import Tollgate.CommandLine.Arguments
import Tollgate.Guard.Call
import Tollgate.Guard.Pace
import Tollgate.Guard.Report
import Tollgate.Store.Pair

/-!
Soaks: a guard over stores in memory authorizes requests for services in turn, and counts each that
it grants. The figures tell what the caches kept from the replica.
-/

namespace Tollgate.CommandLine

open Guard

/-- The connections of a soak. -/
def soakBinds : Binds Side :=
  (Binds.new .primary).withReplica .replica

/-- The guard of a soak. -/
def soakGuard (s : Settings) : Guard Side StorePair Counter.Ledger where
  binds := soakBinds
  authority := StorePair.fetch
  counters := {
    backend := some .memory
    policy := s.counter.policy
    timeoutMs := s.counter.timeoutMs.toNat }
  metrics := .ofSettings s.metrics
  hasReplica := by decide

/-- The identifiers that a soak makes up: of its services, and of the key of each. -/
structure SoakIds where
  service : Nat → ServiceId
  key : Nat → Uuid

/-- Services and keys that are numbered. -/
def SoakIds.numbered : SoakIds where
  service := Uuid.ofNat
  key := Uuid.ofNat

/-- What the replica holds of every service: one key without expiry, and two permissions. -/
def soakSnapshot (key : Uuid) : Snapshot where
  apiKeys := [{ id := key, secretRef := "secret/bench" }]
  permissions := [⟨Permission.email⟩, ⟨Permission.sms⟩]
  active := true

/-- A replica that holds so many services. -/
def soakReplica (ids : SoakIds) (services : Nat) : MemoryStore :=
  (List.range services).foldl (fun m i => m.upsert (ids.service i) (soakSnapshot (ids.key i)))
    { label := "replica" }

/-- A request of a soak: an authorization, and if it is granted, the count of one more send, which
only the largest count there is would limit. -/
def soakRequest (present : Present) (s : ServiceId) : Plan Int :=
  (Plan.authorize present.now s Permission.sms).andThen fun _ =>
    Plan.checkLimit present.today s Decimal.int64Max

/-- A soak under way: how many requests were made, how many of them denied, and the metrics sent so
far, the newest first. -/
structure Soak where
  guard : Guard Side StorePair Counter.Ledger
  ids : SoakIds
  services : Nat
  scene : Scene Side StorePair Counter.Ledger
  requests : Nat := 0
  denied : Nat := 0
  sent : List String := []

namespace Soak

/-- A soak before its first request. There is at least one service. -/
def start (s : Settings) (size : SoakSize) (ids : SoakIds) : Soak where
  guard := soakGuard s
  ids := ids
  services := max size.services 1
  scene := {
    memory := .ofSettings s.caches
    stores := { replica := { store := soakReplica ids (max size.services 1) } }
    counts := {} }

/-- Sends the metrics of what was done. -/
def report (x : Soak) (loadMs : Nat) : Soak :=
  { x with
    scene := { x.scene with deeds := [] }
    sent := (lines x.guard.metrics loadMs x.scene.deeds).reverse ++ x.sent }

/-- Makes the next request, its steps at the times that the clock shows for them. -/
def step (present : Present) (time : Nat → Nat) (loadMs : Nat) (x : Soak) : Soak :=
  let s := x.ids.service (x.requests % x.services)
  let (outcome, _, scene) := x.guard.paced time (soakRequest present s) 0 x.scene
  Soak.report
    { x with
      scene := scene
      requests := x.requests + 1
      denied := x.denied + if outcome.isOk then 0 else 1 } loadMs

/-- Makes requests one after another, each at its own instant, and its steps at the times that the
clock shows for them. -/
def run (present : Nat → Present) (time : Nat → Nat → Nat) : Nat → Soak → Soak
  | 0, x => x
  | n + 1, x => run present time n (x.step (present x.requests) (time x.requests) 0)

/-- Reports the sizes of the caches. -/
def reportSizes (x : Soak) : Soak :=
  Soak.report { x with scene := x.scene.reportSizes } 0

end Soak

end Tollgate.CommandLine
