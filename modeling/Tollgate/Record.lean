import Tollgate.Calendar.Timestamp
import Tollgate.Uuid

/-!
The facts about a service that decide what it may do: its API keys, its permissions and whether it
is active; and the three concerns under which they are looked up.
-/

namespace Tollgate

/-- An API key: where its secret is kept, and the instant from which it no longer lives, if any. -/
structure ApiKey where
  id : Uuid
  secretRef : String
  expiry : Option Timestamp := none
deriving DecidableEq

/-- Whether the key lives at an instant: its expiry lies strictly after it. -/
def ApiKey.isLiveAt (k : ApiKey) (now : Timestamp) : Bool :=
  match k.expiry with
  | none => true
  | some t => t.isAfter now

theorem ApiKey.isLiveAt_iff (k : ApiKey) (now : Timestamp) :
    k.isLiveAt now = true ↔ ∀ t, k.expiry = some t → now.rank < t.rank := by
  unfold isLiveAt
  cases h : k.expiry with
  | none => simp
  | some t => simp [Timestamp.isAfter]

/-- The key with another expiry. -/
def ApiKey.expiringAt (k : ApiKey) (expiry : Timestamp) : ApiKey :=
  { k with expiry := some expiry }

/-- A permission, known by its name. -/
structure Permission where
  name : String
deriving DecidableEq, Repr

/-- Whether the permission is the one of that name, letter by letter. -/
def Permission.grants (p : Permission) (name : String) : Bool :=
  p.name == name

theorem Permission.grants_iff (p : Permission) (name : String) :
    p.grants name = true ↔ p.name = name :=
  beq_iff_eq

namespace Permission

def email : String := "email"
def sms : String := "sms"
def letter : String := "letter"
def internationalSms : String := "international_sms"
def inboundSms : String := "inbound_sms"
def uploadDocument : String := "upload_document"

/-- The permissions in the order of their names, each once. -/
def sortedUnique (ps : List Permission) : List Permission :=
  dedup (ps.mergeSort fun p q => p.name ≤ q.name)
where
  /-- Of equal neighbours only the last stays. -/
  dedup : List Permission → List Permission
    | [] => []
    | p :: rest => if rest.head? = some p then dedup rest else p :: dedup rest

end Permission

/-- All facts about one service. -/
structure Snapshot where
  apiKeys : List ApiKey := []
  permissions : List Permission := []
  active : Bool := false
deriving DecidableEq

/-- The keys that live at an instant, in their order. -/
def Snapshot.liveKeysAt (s : Snapshot) (now : Timestamp) : List ApiKey :=
  s.apiKeys.filter (·.isLiveAt now)

/-- Whether one of the permissions has that name. -/
def Snapshot.hasPermission (s : Snapshot) (name : String) : Bool :=
  s.permissions.any (·.grants name)

/-- What is looked up, and remembered, on its own. -/
inductive Concern
  | apiKeys
  | permissions
  | serviceActive
deriving DecidableEq, Repr

namespace Concern

/-- Every concern, in the order of reports. -/
def all : List Concern := [apiKeys, permissions, serviceActive]

/-- The name under which a concern is reported. -/
def name : Concern → String
  | apiKeys => "api-keys"
  | permissions => "permissions"
  | serviceActive => "service-active"

/-- What is known of a service in a concern. -/
def Fact : Concern → Type
  | apiKeys => List ApiKey
  | permissions => List Permission
  | serviceActive => Bool

/-- What a store answers about a service. Only the active flag tells an unknown service from a known
one: an unknown service has no keys and no permissions. -/
def Answer : Concern → Type
  | apiKeys => List ApiKey
  | permissions => List Permission
  | serviceActive => Option Bool

/-- The fact in an answer, if the answer holds one. -/
def fact? : (c : Concern) → c.Answer → Option c.Fact
  | apiKeys, ks => some ks
  | permissions, ps => some ps
  | serviceActive, a => a

/-- The answer that tells a fact. -/
def answer : (c : Concern) → c.Fact → c.Answer
  | apiKeys, ks => ks
  | permissions, ps => ps
  | serviceActive, a => some a

/-- What a snapshot says in a concern. -/
def factOf : (c : Concern) → Snapshot → c.Fact
  | apiKeys, s => s.apiKeys
  | permissions, s => s.permissions
  | serviceActive, s => s.active

/-- What a store that holds this snapshot of a service, or none, answers. -/
def answerOf : (c : Concern) → Option Snapshot → c.Answer
  | apiKeys, s => (s.map (·.apiKeys)).getD []
  | permissions, s => (s.map (·.permissions)).getD []
  | serviceActive, s => s.map (·.active)

end Concern

end Tollgate
