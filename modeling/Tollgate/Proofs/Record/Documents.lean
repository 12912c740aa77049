import Tollgate.CommandLine.Commands
import Tollgate.Config.Document
import Tollgate.Proofs.Calendar.Reading
import Tollgate.Proofs.Json.Fields
import Tollgate.Record.Document

/-!
Settings, the facts about services and the keys of counters are read back from the documents that
they are written as, in the compact form and in the one that the program prints in lines. Their
instants and dates have to lie in the years 0 to 9999.
-/

namespace Tollgate

open Json (Value Restores)

/-- Whether a date is of a year that is written in four digits. -/
def Date.IsPlain (d : Date) : Prop :=
  0 ≤ d.year ∧ d.year ≤ 9999

/-- Whether a key has no expiry or one in a year of four digits. -/
def ApiKey.IsPlain (k : ApiKey) : Prop :=
  ∀ t ∈ k.expiry, t.date.IsPlain

theorem FailurePolicy.restores (p : FailurePolicy) : Restores toJson ofJson? p where
  isWhole := Value.isWhole_text p.name
  read?_write := by cases p <;> rfl

theorem CacheSettings.restores (s : CacheSettings) : Restores toJson ofJson? s where
  isWhole := Value.isWhole_ofFields (by simp)
  read?_write := by
    unfold ofJson? toJson
    apply Json.bind_fields?_ofFields
    · simp
    · intro f hGet
      simp [Json.Fields.required, hGet]

theorem CachesSettings.restores (s : CachesSettings) : Restores toJson ofJson? s where
  isWhole := Value.isWhole_ofFields (by simp [(CacheSettings.restores _).isWhole])
  read?_write := by
    unfold ofJson? toJson
    apply Json.bind_fields?_ofFields
    · simp
    · intro f hGet
      simp [Json.Fields.required, hGet, (CacheSettings.restores _).read?_write]

theorem CounterSettings.restores (s : CounterSettings) : Restores toJson ofJson? s where
  isWhole := Value.isWhole_ofFields (by simp [s.policy.restores.isWhole])
  read?_write := by
    unfold ofJson? toJson
    apply Json.bind_fields?_ofFields
    · simp
    · intro f hGet
      simp [Json.Fields.required, Json.Fields.defaulted, hGet, s.policy.restores.read?_write]

theorem MetricsSettings.restores (s : MetricsSettings) : Restores toJson ofJson? s where
  isWhole := Value.isWhole_ofFields (by simp)
  read?_write := by
    unfold ofJson? toJson
    apply Json.bind_fields?_ofFields
    · simp
    · intro f hGet
      simp [Json.Fields.required, hGet]

theorem Settings.restores (s : Settings) : Restores toJson ofJson? s where
  isWhole := Value.isWhole_ofFields (by
    simp [s.counter.restores.isWhole, s.metrics.restores.isWhole, s.caches.restores.isWhole])
  read?_write := by
    unfold ofJson? toJson
    apply Json.bind_fields?_ofFields
    · simp
    · intro f hGet
      simp [Json.Fields.defaulted, hGet, s.counter.restores.read?_write,
        s.metrics.restores.read?_write, s.caches.restores.read?_write]

theorem Uuid.restores (u : Uuid) : Restores toJson ofJson? u where
  isWhole := Value.isWhole_text u.text
  read?_write := by rw [ofJson?, toJson, Value.string?_text, Option.bind_some, ofText?_text]

theorem Timestamp.restores {t : Timestamp} (h : t.date.IsPlain) : Restores toJson ofJson? t where
  isWhole := Value.isWhole_text t.text
  read?_write := by rw [ofJson?, toJson, Value.string?_text, Option.bind_some, ofText?_text h]

theorem ApiKey.restores {k : ApiKey} (h : k.IsPlain) : Restores toJson ofJson? k where
  isWhole := by
    refine Value.isWhole_ofFields ?_
    cases hExpiry : k.expiry with
    | none => simp [k.id.restores.isWhole]
    | some t => simp [k.id.restores.isWhole, (Timestamp.restores (h t hExpiry)).isWhole]
  read?_write := by
    obtain ⟨id, secretRef, expiry⟩ := k
    cases expiry with
    | none =>
        unfold ofJson? toJson
        apply Json.bind_fields?_ofFields
        · simp
        · intro f hGet
          simp [Json.Fields.required, Json.Fields.defaulted, hGet, id.restores.read?_write]
    | some t =>
        have hTime := (Timestamp.restores (h t rfl)).read?_write
        have hExpiry : expiryOfJson? t.toJson = some (some t) := by
          have hRead : expiryOfJson? t.toJson = (Timestamp.ofJson? t.toJson).map some := rfl
          rw [hRead, hTime, Option.map_some]
        unfold ofJson? toJson
        apply Json.bind_fields?_ofFields
        · simp
        · intro f hGet
          simp [Json.Fields.required, Json.Fields.defaulted, hGet, id.restores.read?_write,
            hExpiry]

theorem Permission.restores (p : Permission) : Restores toJson ofJson? p where
  isWhole := Value.isWhole_text p.name
  read?_write := rfl

theorem Snapshot.restores {s : Snapshot} (h : ∀ k ∈ s.apiKeys, k.IsPlain) :
    Restores toJson ofJson? s := by
  have hKeys := Restores.list fun k hk => ApiKey.restores (h k hk)
  have hPermissions : Restores (fun ps => .array (ps.map Permission.toJson))
      (Value.list? Permission.ofJson?) s.permissions := Restores.list fun p _ => p.restores
  refine ⟨Value.isWhole_ofFields ?_, ?_⟩
  · simp [hKeys.isWhole, hPermissions.isWhole]
  · unfold ofJson? toJson
    apply Json.bind_fields?_ofFields
    · simp
    · intro f hGet
      simp [Json.Fields.required, hGet, hKeys.read?_write, hPermissions.read?_write]

theorem CounterKind.restores (k : CounterKind) : Restores toJson ofJson? k where
  isWhole := Value.isWhole_text k.name
  read?_write := by cases k; rfl

theorem CounterKey.restores {k : CounterKey} (h : k.date.IsPlain) : Restores toJson ofJson? k where
  isWhole := Value.isWhole_ofFields (by simp [k.service.restores.isWhole, k.kind.restores.isWhole])
  read?_write := by
    unfold ofJson? toJson
    apply Json.bind_fields?_ofFields
    · simp
    · intro f hGet
      simp [Json.Fields.required, hGet, k.service.restores.read?_write, Date.ofText?_text h,
        k.kind.restores.read?_write]

/-- What a document may be about. -/
inductive Format
  | settings
  | counterSettings
  | metricsSettings
  | cachesSettings
  | cacheSettings
  | failurePolicy
  | apiKey
  | permission
  | snapshot
  | counterKind
  | counterKey
deriving DecidableEq, Repr

namespace Format

/-- What a document of a format holds. -/
abbrev Content : Format → Type
  | settings => Settings
  | counterSettings => CounterSettings
  | metricsSettings => MetricsSettings
  | cachesSettings => CachesSettings
  | cacheSettings => CacheSettings
  | failurePolicy => FailurePolicy
  | apiKey => ApiKey
  | permission => Permission
  | snapshot => Snapshot
  | counterKind => CounterKind
  | counterKey => CounterKey

/-- The document of a content. -/
def toJson : (f : Format) → f.Content → Value
  | settings => Settings.toJson
  | counterSettings => CounterSettings.toJson
  | metricsSettings => MetricsSettings.toJson
  | cachesSettings => CachesSettings.toJson
  | cacheSettings => CacheSettings.toJson
  | failurePolicy => FailurePolicy.toJson
  | apiKey => ApiKey.toJson
  | permission => Permission.toJson
  | snapshot => Snapshot.toJson
  | counterKind => CounterKind.toJson
  | counterKey => CounterKey.toJson

/-- The content of a document. -/
def ofJson? : (f : Format) → Value → Option f.Content
  | settings => Settings.ofJson?
  | counterSettings => CounterSettings.ofJson?
  | metricsSettings => MetricsSettings.ofJson?
  | cachesSettings => CachesSettings.ofJson?
  | cacheSettings => CacheSettings.ofJson?
  | failurePolicy => FailurePolicy.ofJson?
  | apiKey => ApiKey.ofJson?
  | permission => Permission.ofJson?
  | snapshot => Snapshot.ofJson?
  | counterKind => CounterKind.ofJson?
  | counterKey => CounterKey.ofJson?

/-- The content of a text. -/
def ofText? (f : Format) (s : String) : Option f.Content :=
  (Value.ofText? s).bind f.ofJson?

/-- Whether all instants and dates are of years that are written in four digits. -/
def IsPlain : (f : Format) → f.Content → Prop
  | apiKey, k => k.IsPlain
  | snapshot, s => ∀ k ∈ s.apiKeys, k.IsPlain
  | counterKey, k => k.date.IsPlain
  | _, _ => True

theorem restores {f : Format} {x : f.Content} (h : f.IsPlain x) :
    Restores f.toJson f.ofJson? x := by
  cases f with
  | settings => exact Settings.restores x
  | counterSettings => exact CounterSettings.restores x
  | metricsSettings => exact MetricsSettings.restores x
  | cachesSettings => exact CachesSettings.restores x
  | cacheSettings => exact CacheSettings.restores x
  | failurePolicy => exact FailurePolicy.restores x
  | apiKey => exact ApiKey.restores h
  | permission => exact Permission.restores x
  | snapshot => exact Snapshot.restores h
  | counterKind => exact CounterKind.restores x
  | counterKey => exact CounterKey.restores h

end Format

/-- The lines that show settings are those of their document. -/
theorem CommandLine.intercalate_showSettings (s : Settings) :
    "\n".intercalate ((showSettings s).out.drop 1) = s.toJson.indented := by
  rw [← String.toList_inj, String.toList_intercalate]
  have hLines : ((showSettings s).out.drop 1).map String.toList =
      s.toJson.indented.toList.splitOn '\n' := by
    simp [showSettings, Function.comp_def]
  rw [hLines]
  exact List.intercalate_splitOn '\n'

/-- What is written is read back, from both written forms and from what the program shows; so what
was read from any text stays the same when it is written and read again. -/
theorem Format.ofText?_written (f : Format) :
    (∀ x, f.IsPlain x →
      f.ofText? (f.toJson x).compact = some x ∧ f.ofText? (f.toJson x).indented = some x) ∧
    (∀ text x, f.ofText? text = some x → f.IsPlain x →
      f.ofText? (f.toJson x).compact = f.ofText? text ∧
        f.ofText? (f.toJson x).indented = f.ofText? text) ∧
    ∀ s,
      settings.ofText? ("\n".intercalate ((CommandLine.showSettings s).out.drop 1)) = some s := by
  have hBack (x : f.Content) (h : f.IsPlain x) : f.ofText? (f.toJson x).compact = some x ∧
      f.ofText? (f.toJson x).indented = some x := (Format.restores h).ofText?
  refine ⟨hBack, fun text x hText h => ?_, fun s => ?_⟩
  · rw [hText]
    exact hBack x h
  · rw [CommandLine.intercalate_showSettings]
    exact s.restores.ofText?.2

/-- A key that expires in a leap second, with a quotation mark and a control character in where its
secret is kept. -/
theorem Format.ofText?_written_leap :
    let expiry : Timestamp := ⟨⟨2016, 12, 31, by decide⟩, 86399, 1500000000, by decide⟩
    let key : ApiKey := ⟨Uuid.ofNat 7, "\"\x01", some expiry⟩
    Format.apiKey.IsPlain key ∧ Format.apiKey.ofText? key.toJson.compact = some key ∧
      Format.apiKey.ofText? key.toJson.indented = some key := by
  intro expiry key
  have hPlain : Format.apiKey.IsPlain key := by
    intro t ht
    obtain rfl := Option.some.inj ht
    exact (by decide : (0 : Int) ≤ 2016 ∧ (2016 : Int) ≤ 9999)
  exact ⟨hPlain, (Format.ofText?_written .apiKey).1 key hPlain⟩

end Tollgate
