import Tollgate.Calendar.Reader
import Tollgate.Counter.Key
import Tollgate.Json.Fields
import Tollgate.Record

/-!
The facts about a service, and the keys of counters, as JSON documents. A key without expiry is
written without the field, and reads so when the field is null or missing.
-/

namespace Tollgate

open Json (Value)

namespace Uuid

def toJson (u : Uuid) : Value :=
  .text u.text

def ofJson? (v : Value) : Option Uuid :=
  v.string?.bind ofText?

end Uuid

namespace Timestamp

def toJson (t : Timestamp) : Value :=
  .text t.text

def ofJson? (v : Value) : Option Timestamp :=
  v.string?.bind ofText?

end Timestamp

namespace ApiKey

def toJson (k : ApiKey) : Value :=
  let expiry := match k.expiry with
    | none => []
    | some t => [("expiry_date", t.toJson)]
  .ofFields (("id", k.id.toJson) :: ("secret_ref", .text k.secretRef) :: expiry)

/-- Reads an expiry; null says that there is none. -/
def expiryOfJson? : Value → Option (Option Timestamp)
  | .null => some none
  | v => (Timestamp.ofJson? v).map some

def ofJson? (v : Value) : Option ApiKey := do
  let f ← v.fields? ["id", "secret_ref", "expiry_date"]
  return {
    id := ← f.required "id" Uuid.ofJson?
    secretRef := ← f.required "secret_ref" Value.string?
    expiry := ← f.defaulted "expiry_date" none expiryOfJson? }

end ApiKey

namespace Permission

def toJson (p : Permission) : Value :=
  .text p.name

def ofJson? (v : Value) : Option Permission :=
  v.string?.map Permission.mk

end Permission

namespace Snapshot

def toJson (s : Snapshot) : Value :=
  .ofFields [
    ("api_keys", .array (s.apiKeys.map ApiKey.toJson)),
    ("permissions", .array (s.permissions.map Permission.toJson)),
    ("active", .bool s.active)]

def ofJson? (v : Value) : Option Snapshot := do
  let f ← v.fields? ["api_keys", "permissions", "active"]
  return {
    apiKeys := ← f.required "api_keys" (Value.list? ApiKey.ofJson?)
    permissions := ← f.required "permissions" (Value.list? Permission.ofJson?)
    active := ← f.required "active" Value.bool? }

end Snapshot

namespace Concern

/-- A fact as a document. -/
def factToJson : (c : Concern) → c.Fact → Value
  | apiKeys, ks => .array (ks.map ApiKey.toJson)
  | permissions, ps => .array (ps.map Permission.toJson)
  | serviceActive, b => .bool b

/-- Reads a fact of a concern. -/
def factOfJson? : (c : Concern) → Value → Option c.Fact
  | apiKeys, v => v.list? ApiKey.ofJson?
  | permissions, v => v.list? Permission.ofJson?
  | serviceActive, v => v.bool?

end Concern

namespace CounterKind

def toJson (k : CounterKind) : Value :=
  .text k.name

def ofJson? (v : Value) : Option CounterKind :=
  v.name?.bind ofName?

end CounterKind

namespace CounterKey

def toJson (k : CounterKey) : Value :=
  .ofFields [
    ("service_id", k.service.toJson),
    ("date", .text k.date.text),
    ("kind", k.kind.toJson)]

def ofJson? (v : Value) : Option CounterKey := do
  let f ← v.fields? ["service_id", "date", "kind"]
  return {
    service := ← f.required "service_id" Uuid.ofJson?
    date := ← f.required "date" fun v => v.string?.bind Date.ofText?
    kind := ← f.required "kind" CounterKind.ofJson? }

end CounterKey

end Tollgate
