import Tollgate.Store.Basic
import Tollgate.Table

/-!
A store in memory. It counts the questions it gets, and can be made unavailable. In front of it may
stand a stage that delays questions and makes some of them fail.
-/

namespace Tollgate

/-- A store in memory, with the label that its failures show. -/
structure MemoryStore where
  label : String
  services : Table ServiceId Snapshot := {}
  queries : Nat := 0
  available : Bool := true

namespace MemoryStore

/-- Inserts or replaces a service. -/
def upsert (m : MemoryStore) (s : ServiceId) (snapshot : Snapshot) : MemoryStore :=
  { m with services := m.services.put s snapshot }

/-- Changes the facts about a known service, and tells whether it is known. -/
def modify (m : MemoryStore) (s : ServiceId) (change : Snapshot → Snapshot) :
    Bool × MemoryStore :=
  match m.services.get? s with
  | none => (false, m)
  | some snapshot => (true, m.upsert s (change snapshot))

/-- Sets the active flag of a known service. -/
def setActive (m : MemoryStore) (s : ServiceId) (active : Bool) : Bool × MemoryStore :=
  m.modify s fun snapshot => { snapshot with active }

/-- Replaces the permissions of a known service. -/
def setPermissions (m : MemoryStore) (s : ServiceId) (permissions : List Permission) :
    Bool × MemoryStore :=
  m.modify s fun snapshot => { snapshot with permissions }

/-- Lets the first key of that identifier expire at an instant, if there is one. -/
def expireFirst? (id : Uuid) (expiry : Timestamp) : List ApiKey → Option (List ApiKey)
  | [] => none
  | k :: ks =>
    if k.id = id then some (k.expiringAt expiry :: ks)
    else (expireFirst? id expiry ks).map (k :: ·)

/-- Revokes a key of a service as of an instant, and tells whether there was such a key. -/
def revokeKey (m : MemoryStore) (s : ServiceId) (id : Uuid) (expiry : Timestamp) :
    Bool × MemoryStore :=
  match m.services.get? s with
  | none => (false, m)
  | some snapshot =>
    match expireFirst? id expiry snapshot.apiKeys with
    | none => (false, m)
    | some apiKeys => (true, m.upsert s { snapshot with apiKeys })

/-- Answers a question, if the store is available. The question counts in any case. -/
def fetch : Authority MemoryStore := fun q s m =>
  let m := { m with queries := m.queries + 1 }
  if m.available then (.ok (q.answerOf (m.services.get? s)), m)
  else (.error (.loadFailed s!"store '{m.label}' is unavailable"), m)

end MemoryStore

/-- A store behind a stage: each question waits for `delayMs`, and takes the next of the faults that
are planned, if any is left. A question that meets a failure there does not reach the store. -/
structure StagedStore where
  store : MemoryStore
  faults : List (Option Failure) := []
  delayMs : Nat := 0

namespace StagedStore

/-- Answers a question that has waited. -/
def fetch : Authority StagedStore := fun q s m =>
  let rest := { m with faults := m.faults.tail }
  match m.faults.head?.join with
  | some f => (.error f, rest)
  | none =>
    let (outcome, store) := m.store.fetch q s
    (outcome, { rest with store := store })

end StagedStore

/-- A change of a staged store from outside. -/
inductive StoreChange
  | upsert (s : ServiceId) (snapshot : Snapshot)
  | setActive (s : ServiceId) (active : Bool)
  | setPermissions (s : ServiceId) (permissions : List Permission)
  | revokeKey (s : ServiceId) (id : Uuid) (expiry : Timestamp)
  | setAvailable (available : Bool)
  | setDelay (delayMs : Nat)
  | inject (faults : List (Option Failure))

/-- Changes a staged store, and tells whether the service or key was known where that matters. -/
def StagedStore.change (m : StagedStore) : StoreChange → Option Bool × StagedStore
  | .upsert s snapshot => (none, { m with store := m.store.upsert s snapshot })
  | .setActive s active => known (m.store.setActive s active)
  | .setPermissions s permissions => known (m.store.setPermissions s permissions)
  | .revokeKey s id expiry => known (m.store.revokeKey s id expiry)
  | .setAvailable available => (none, { m with store := { m.store with available } })
  | .setDelay delayMs => (none, { m with delayMs })
  | .inject faults => (none, { m with faults := m.faults ++ faults })
where
  /-- The answer and the store of a change that may not apply. -/
  known (p : Bool × MemoryStore) : Option Bool × StagedStore :=
    (some p.1, { m with store := p.2 })

end Tollgate
