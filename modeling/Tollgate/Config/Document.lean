import Tollgate.Config.Basic
import Tollgate.Json.Fields

/-!
Settings as JSON documents. Of the settings of a guard every part may be left out, and of those of
the counter store the failure policy; what is left out reads as its default.
-/

namespace Tollgate

open Json (Value)

namespace FailurePolicy

def toJson (p : FailurePolicy) : Value :=
  .text p.name

def ofJson? (v : Value) : Option FailurePolicy :=
  v.name?.bind ofName?

end FailurePolicy

namespace CacheSettings

def toJson (s : CacheSettings) : Value :=
  .ofFields [("ttl_seconds", .natural s.ttlSeconds.toNat), ("capacity", .natural s.capacity.toNat)]

def ofJson? (v : Value) : Option CacheSettings := do
  let f ← v.fields? ["ttl_seconds", "capacity"]
  return {
    ttlSeconds := ← f.required "ttl_seconds" Value.uint64?
    capacity := ← f.required "capacity" Value.uint64? }

end CacheSettings

namespace CachesSettings

def toJson (s : CachesSettings) : Value :=
  .ofFields [
    ("api_keys", s.apiKeys.toJson),
    ("permissions", s.permissions.toJson),
    ("service_active", s.serviceActive.toJson)]

def ofJson? (v : Value) : Option CachesSettings := do
  let f ← v.fields? ["api_keys", "permissions", "service_active"]
  return {
    apiKeys := ← f.required "api_keys" CacheSettings.ofJson?
    permissions := ← f.required "permissions" CacheSettings.ofJson?
    serviceActive := ← f.required "service_active" CacheSettings.ofJson? }

end CachesSettings

namespace CounterSettings

def toJson (s : CounterSettings) : Value :=
  .ofFields [
    ("enabled", .bool s.enabled),
    ("host", .text s.host),
    ("port", .natural s.port.toNat),
    ("timeout_ms", .natural s.timeoutMs.toNat),
    ("failure_policy", s.policy.toJson)]

def ofJson? (v : Value) : Option CounterSettings := do
  let f ← v.fields? ["enabled", "host", "port", "timeout_ms", "failure_policy"]
  return {
    enabled := ← f.required "enabled" Value.bool?
    host := ← f.required "host" Value.string?
    port := ← f.required "port" Value.uint16?
    timeoutMs := ← f.required "timeout_ms" Value.uint64?
    policy := ← f.defaulted "failure_policy" default FailurePolicy.ofJson? }

end CounterSettings

namespace MetricsSettings

def toJson (s : MetricsSettings) : Value :=
  .ofFields [
    ("enabled", .bool s.enabled),
    ("host", .text s.host),
    ("port", .natural s.port.toNat),
    ("prefix", .text s.stem)]

def ofJson? (v : Value) : Option MetricsSettings := do
  let f ← v.fields? ["enabled", "host", "port", "prefix"]
  return {
    enabled := ← f.required "enabled" Value.bool?
    host := ← f.required "host" Value.string?
    port := ← f.required "port" Value.uint16?
    stem := ← f.required "prefix" Value.string? }

end MetricsSettings

namespace Settings

def toJson (s : Settings) : Value :=
  .ofFields [
    ("counter", s.counter.toJson),
    ("metrics", s.metrics.toJson),
    ("caches", s.caches.toJson)]

def ofJson? (v : Value) : Option Settings := do
  let f ← v.fields? ["counter", "metrics", "caches"]
  return {
    counter := ← f.defaulted "counter" {} CounterSettings.ofJson?
    metrics := ← f.defaulted "metrics" {} MetricsSettings.ofJson?
    caches := ← f.defaulted "caches" {} CachesSettings.ofJson? }

end Settings

end Tollgate
