import Tollgate.Proofs.Json.Lexemes
import Tollgate.Proofs.Json.Structures
import Tollgate.Proofs.Record.Documents

/-!
The fields of settings, of the facts about services and of the keys of counters, as their documents
give them.
-/

namespace Tollgate

open Json (Value Layout Spaced Laid IsLaid occurrences isKnown)

def CacheSettings.layout : Layout ofJson? where
  fields := [
    { name := "ttl_seconds", part := ttlSeconds, read? := Value.uint64? },
    { name := "capacity", part := capacity, read? := Value.uint64? }]
  nodup := by decide
  reads v x := by
    cases x
    simp [ofJson?, Json.Field.find, Option.bind_eq_some_iff]
  complete v := by
    simp [ofJson?, Json.Field.find, Option.isSome_iff_exists, Option.bind_eq_some_iff]

def CachesSettings.layout : Layout ofJson? where
  fields := [
    { name := "api_keys", part := apiKeys, read? := CacheSettings.ofJson? },
    { name := "permissions", part := permissions, read? := CacheSettings.ofJson? },
    { name := "service_active", part := serviceActive, read? := CacheSettings.ofJson? }]
  nodup := by decide
  reads v x := by
    cases x
    simp [ofJson?, Json.Field.find, Option.bind_eq_some_iff]
  complete v := by
    simp [ofJson?, Json.Field.find, Option.isSome_iff_exists, Option.bind_eq_some_iff]

theorem FailurePolicy.default_eq : (default : FailurePolicy) = .failOpen := rfl

def CounterSettings.layout : Layout ofJson? where
  fields := [
    { name := "enabled", part := enabled, read? := Value.bool? },
    { name := "host", part := host, read? := Value.string? },
    { name := "port", part := port, read? := Value.uint16? },
    { name := "timeout_ms", part := timeoutMs, read? := Value.uint64? },
    { name := "failure_policy", part := policy, read? := FailurePolicy.ofJson?,
      default? := some .failOpen }]
  nodup := by decide
  reads v x := by
    cases x
    simp [ofJson?, Json.Field.find, Option.bind_eq_some_iff, -Bool.exists_bool,
      FailurePolicy.default_eq]
  complete v := by
    simp [ofJson?, Json.Field.find, Option.isSome_iff_exists, Option.bind_eq_some_iff, -Bool.exists_bool,
      FailurePolicy.default_eq]

def MetricsSettings.layout : Layout ofJson? where
  fields := [
    { name := "enabled", part := enabled, read? := Value.bool? },
    { name := "host", part := host, read? := Value.string? },
    { name := "port", part := port, read? := Value.uint16? },
    { name := "prefix", part := stem, read? := Value.string? }]
  nodup := by decide
  reads v x := by
    cases x
    simp [ofJson?, Json.Field.find, Option.bind_eq_some_iff, -Bool.exists_bool]
  complete v := by
    simp [ofJson?, Json.Field.find, Option.isSome_iff_exists, Option.bind_eq_some_iff, -Bool.exists_bool]

def Settings.layout : Layout ofJson? where
  fields := [
    { name := "counter", part := counter, read? := CounterSettings.ofJson?, default? := some {} },
    { name := "metrics", part := metrics, read? := MetricsSettings.ofJson?, default? := some {} },
    { name := "caches", part := caches, read? := CachesSettings.ofJson?, default? := some {} }]
  nodup := by decide
  reads v x := by
    cases x
    simp [ofJson?, Json.Field.find, Option.bind_eq_some_iff]
  complete v := by
    simp [ofJson?, Json.Field.find, Option.isSome_iff_exists, Option.bind_eq_some_iff]

/-- A key may leave out its expiry, or give it as null. -/
def ApiKey.layout : Layout ofJson? where
  fields := [
    { name := "id", part := id, read? := Uuid.ofJson? },
    { name := "secret_ref", part := secretRef, read? := Value.string? },
    { name := "expiry_date", part := expiry, read? := expiryOfJson?, default? := some none }]
  nodup := by decide
  reads v x := by
    cases x
    simp [ofJson?, Json.Field.find, Option.bind_eq_some_iff]
  complete v := by
    simp [ofJson?, Json.Field.find, Option.isSome_iff_exists, Option.bind_eq_some_iff]

def Snapshot.layout : Layout ofJson? where
  fields := [
    { name := "api_keys", part := apiKeys, read? := Value.list? ApiKey.ofJson? },
    { name := "permissions", part := permissions, read? := Value.list? Permission.ofJson? },
    { name := "active", part := active, read? := Value.bool? }]
  nodup := by decide
  reads v x := by
    cases x
    simp [ofJson?, Json.Field.find, Option.bind_eq_some_iff, -Bool.exists_bool]
  complete v := by
    simp [ofJson?, Json.Field.find, Option.isSome_iff_exists, Option.bind_eq_some_iff, -Bool.exists_bool]

def CounterKey.layout : Layout ofJson? where
  fields := [
    { name := "service_id", part := service, read? := Uuid.ofJson? },
    { name := "date", part := date, read? := fun v => v.string?.bind Date.ofText? },
    { name := "kind", part := kind, read? := CounterKind.ofJson? }]
  nodup := by decide
  reads v x := by
    -- There is one kind only, so that finding any is finding this one.
    obtain ⟨service, date, kind⟩ := x
    have hKind (o : Option CounterKind) : (∃ k, o = some k) ↔ o = some kind :=
      ⟨fun ⟨_, h⟩ => h, fun h => ⟨_, h⟩⟩
    simp [ofJson?, Json.Field.find, Option.bind_eq_some_iff, hKind]
  complete v := by
    simp [ofJson?, Json.Field.find, Option.isSome_iff_exists, Option.bind_eq_some_iff]

/-- The formats that are structures of fields. -/
inductive Shape
  | settings
  | counterSettings
  | metricsSettings
  | cachesSettings
  | cacheSettings
  | apiKey
  | snapshot
  | counterKey
deriving DecidableEq, Repr

namespace Shape

def format : Shape → Format
  | settings => .settings
  | counterSettings => .counterSettings
  | metricsSettings => .metricsSettings
  | cachesSettings => .cachesSettings
  | cacheSettings => .cacheSettings
  | apiKey => .apiKey
  | snapshot => .snapshot
  | counterKey => .counterKey

/-- How the documents of a format are laid out in fields. -/
def layout : (s : Shape) → Layout s.format.ofJson?
  | settings => Settings.layout
  | counterSettings => CounterSettings.layout
  | metricsSettings => MetricsSettings.layout
  | cachesSettings => CachesSettings.layout
  | cacheSettings => CacheSettings.layout
  | apiKey => ApiKey.layout
  | snapshot => Snapshot.layout
  | counterKey => CounterKey.layout

end Shape

/-- What documents of a format mean, if they mean something, depends on these fields alone.

An object means something if and only if the values under the name of each field may come there, and
then each part of its content is what the field of that part holds. The order of members does not
matter, nor do members of other names, nor how a value is put that is read as the same. An array is
the object that gives its items the names of the fields in order; it may end early, if the fields
behind its last item have defaults, but not late. A text in which a value's units are written, with
any white space around these, means what the value means: all of the above is thereby said of the
texts of objects and arrays, too. And texts of the same lexemes mean the same, whatever white space
is around these; no other texts mean anything. -/
structure Format.DependsOn (f : Format) (fields : List (Json.Field f.Content)) : Prop where
  accepted (ms : List (String × Value)) : (f.ofJson? (.ofFields ms)).isSome ↔
    ∀ fld ∈ fields, fld.Admits (occurrences fld.name ms)
  meaning (ms : List (String × Value)) (x : f.Content) : f.ofJson? (.ofFields ms) = some x ↔
    ∀ fld ∈ fields, fld.value? (occurrences fld.name ms) = some (fld.part x)
  permuted (ms ns : List (String × Value)) : ms.Perm ns →
    f.ofJson? (.ofFields ms) = f.ofJson? (.ofFields ns)
  unknown (ms : List (String × Value)) : f.ofJson? (.ofFields ms) =
    f.ofJson? (.ofFields (ms.filter fun m => isKnown fields m.1))
  alike (ms ns : List (String × Value)) :
    (∀ fld ∈ fields, ((occurrences fld.name ms).map fld.read?).Perm
      ((occurrences fld.name ns).map fld.read?)) →
    f.ofJson? (.ofFields ms) = f.ofJson? (.ofFields ns)
  nameless (ms : List (Option String × Value)) : (∃ m ∈ ms, m.1 = none) →
    f.ofJson? (.object ms) = none
  ordered (items : List Value) : f.ofJson? (.array items) =
    if items.length ≤ fields.length then
      f.ofJson? (.ofFields ((fields.map (·.name)).zip items))
    else none
  shortened (items : List Value) : (f.ofJson? (.array items)).isSome ↔
    items.length ≤ fields.length ∧ (∀ p ∈ fields.zip items, (p.1.read? p.2).isSome) ∧
      ∀ fld ∈ fields.drop items.length, fld.default?.isSome
  written (v : Value) (s : String) : Spaced v.tokens s.toList → f.ofText? s = f.ofJson? v
  spaced (ls : List (List Char)) (s t : String) : Laid ls s.toList → Laid ls t.toList →
    f.ofText? s = f.ofText? t
  laid (s : String) : (f.ofText? s).isSome → IsLaid s.toList

/-- What a document means depends only on its known fields, for each of the formats that are
structures. -/
theorem Shape.depends_on_fields (s : Shape) : s.format.DependsOn s.layout.fields where
  accepted := s.layout.isSome_read?_ofFields_iff
  meaning := s.layout.read?_ofFields_eq_some_iff
  permuted _ _ := s.layout.read?_ofFields_perm
  unknown := s.layout.read?_ofFields_known
  alike _ _ := s.layout.read?_ofFields_congr
  nameless _ := s.layout.read?_of_nameless
  ordered := s.layout.read?_array
  shortened := s.layout.isSome_read?_array_iff
  written v t hText := by
    rw [Format.ofText?, Value.ofText?_of_spaced hText, Option.bind_some]
  spaced ls t u hText hOther := by
    rw [Format.ofText?, Format.ofText?, Value.ofText?_of_laid hText hOther]
  laid t hSome := by
    obtain ⟨x, hContent⟩ := Option.isSome_iff_exists.1 hSome
    obtain ⟨v, hValue, -⟩ := Option.bind_eq_some_iff.1 hContent
    exact Value.isLaid_of_ofText? hValue

/-- Members in another order, one that is not known and comes twice, and white space. -/
example : (Format.cacheSettings.ofText?
    "\x7b \"capacity\": 2, \"note\": [], \"note\": null,\t\"ttl_seconds\": 1 \x7d") = some ⟨1, 2⟩ := by
  decide +kernel

end Tollgate
