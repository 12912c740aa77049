import Tollgate.Config.Basic

/-!
Settings from variables. Fifteen names are known; a variable that is not set leaves the default.
Hosts and the stem of the metrics are taken as they stand, all others are trimmed and parsed, and
the first in the order of the fields that does not parse decides the failure.
-/

namespace Tollgate.Environment

/-- The variables that are set. -/
abbrev Lookup := String → Option String

/-- The names of the variables that settings depend on. -/
def names : List String := [
  "REDIS_ENABLED", "REDIS_HOST", "REDIS_PORT", "REDIS_TIMEOUT_MS", "REDIS_FAILURE_POLICY",
  "STATSD_ENABLED", "STATSD_HOST", "STATSD_PORT", "STATSD_PREFIX",
  "API_KEY_CACHE_TTL_SECS", "API_KEY_CACHE_CAPACITY",
  "PERMISSION_CACHE_TTL_SECS", "PERMISSION_CACHE_CAPACITY",
  "SERVICE_ACTIVE_CACHE_TTL_SECS", "SERVICE_ACTIVE_CACHE_CAPACITY"]

/-- A way to read a trimmed text. -/
abbrev Parser (α : Type) := List Char → Except String α

/-- Reads a flag in any letter case; no text at all is off. -/
def flag : Parser Bool := fun cs =>
  let word := String.ofList (Text.lower cs)
  if word ∈ ["1", "true", "yes", "on"] then .ok true
  else if word ∈ ["0", "false", "no", "off", ""] then .ok false
  else .error s!"not a boolean: {word}"

/-- Reads a port. -/
def port : Parser UInt16 := fun cs =>
  (Decimal.readUInt16 cs).mapError (·.message)

/-- Reads a number of 64 bits. -/
def word : Parser UInt64 := fun cs =>
  (Decimal.readUInt64 cs).mapError (·.message)

/-- The value of a variable, or the default if it is not set. The failure shows the text as it was
set. -/
def valueOf {α : Type} (vars : Lookup) (name : String) (default : α) (parse : Parser α) :
    Outcome α :=
  match vars name with
  | none => .ok default
  | some raw =>
    (parse (Text.trim raw.toList)).mapError fun detail =>
      .configuration s!"{name}='{raw}': {detail}"

/-- The settings that variables give. -/
def settings (vars : Lookup) : Outcome Settings := do
  let d : Settings := {}
  let enabled ← valueOf vars "REDIS_ENABLED" d.counter.enabled flag
  let storePort ← valueOf vars "REDIS_PORT" d.counter.port port
  let timeoutMs ← valueOf vars "REDIS_TIMEOUT_MS" d.counter.timeoutMs word
  let policy ← valueOf vars "REDIS_FAILURE_POLICY" d.counter.policy FailurePolicy.ofText
  let metricsEnabled ← valueOf vars "STATSD_ENABLED" d.metrics.enabled flag
  let metricsPort ← valueOf vars "STATSD_PORT" d.metrics.port port
  let keyTtl ← valueOf vars "API_KEY_CACHE_TTL_SECS" d.caches.apiKeys.ttlSeconds word
  let keyCapacity ← valueOf vars "API_KEY_CACHE_CAPACITY" d.caches.apiKeys.capacity word
  let permissionTtl ← valueOf vars "PERMISSION_CACHE_TTL_SECS" d.caches.permissions.ttlSeconds word
  let permissionCapacity ←
    valueOf vars "PERMISSION_CACHE_CAPACITY" d.caches.permissions.capacity word
  let activeTtl ←
    valueOf vars "SERVICE_ACTIVE_CACHE_TTL_SECS" d.caches.serviceActive.ttlSeconds word
  let activeCapacity ←
    valueOf vars "SERVICE_ACTIVE_CACHE_CAPACITY" d.caches.serviceActive.capacity word
  return {
    counter := {
      enabled := enabled
      host := (vars "REDIS_HOST").getD d.counter.host
      port := storePort
      timeoutMs := timeoutMs
      policy := policy }
    metrics := {
      enabled := metricsEnabled
      host := (vars "STATSD_HOST").getD d.metrics.host
      port := metricsPort
      stem := (vars "STATSD_PREFIX").getD d.metrics.stem }
    caches := {
      apiKeys := ⟨keyTtl, keyCapacity⟩
      permissions := ⟨permissionTtl, permissionCapacity⟩
      serviceActive := ⟨activeTtl, activeCapacity⟩ } }

end Tollgate.Environment
