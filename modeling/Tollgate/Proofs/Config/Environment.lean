import Tollgate.Config.Environment
import Tollgate.Proofs.Text.Numeral

/-!
The grammar of the variables. Three are taken as they stand. The other twelve are of four kinds, and
settings come about exactly if each of them that is set denotes a value of its kind; otherwise the
first that does not, in the order of the fields, is named with the text it was set to. All settings
can be written as fifteen variables.
-/

namespace Tollgate.Environment

/-- Whether a text is one of some words in any case of its ASCII letters. -/
def Spells (words : List String) (cs : List Char) : Prop :=
  String.ofList (Text.lower cs) ∈ words

instance (words : List String) (cs : List Char) : Decidable (Spells words cs) :=
  inferInstanceAs (Decidable (_ ∈ words))

/-- The words for a flag. -/
def flagWords : Bool → List String
  | true => ["1", "true", "yes", "on"]
  | false => ["0", "false", "no", "off", ""]

/-- The words for a policy. -/
def policyWords : FailurePolicy → List String
  | .failOpen => ["open", "fail-open", "fail_open"]
  | .failClosed => ["closed", "fail-closed", "fail_closed"]

/-- A choice between two values by their words yields the value whose word it is. -/
theorem choose_eq_ok_iff {α ε : Type} (words : α → List String) (x y : α) {z : α} {w : String}
    {e : ε} (hAll : z = x ∨ z = y) (hApart : ∀ w ∈ words x, w ∉ words y)
    (hDistinct : x ≠ y) :
    (if w ∈ words x then .ok x else if w ∈ words y then .ok y else .error e : Except ε α) = .ok z ↔
      w ∈ words z := by
  split_ifs with hx hy
  · rcases hAll with rfl | rfl
    · exact ⟨fun _ => hx, fun _ => rfl⟩
    · exact ⟨fun h => absurd (Except.ok.inj h) hDistinct, fun h => absurd h (hApart w hx)⟩
  · rcases hAll with rfl | rfl
    · exact ⟨fun h => absurd (Except.ok.inj h).symm hDistinct, fun h => absurd h hx⟩
    · exact ⟨fun _ => hy, fun _ => rfl⟩
  · rcases hAll with rfl | rfl
    · exact ⟨nofun, fun h => absurd h hx⟩
    · exact ⟨nofun, fun h => absurd h hy⟩

theorem flag_eq_ok_iff {cs : List Char} {b : Bool} :
    flag cs = .ok b ↔ Spells (flagWords b) cs :=
  choose_eq_ok_iff flagWords true false (by cases b <;> simp) (by decide) (by decide)

theorem policy_eq_ok_iff {cs : List Char} {p : FailurePolicy} :
    FailurePolicy.ofText cs = .ok p ↔ Spells (policyWords p) (Text.trim cs) :=
  choose_eq_ok_iff policyWords .failOpen .failClosed (by cases p <;> simp) (by decide) (by decide)

/-- What a parsed variable is. -/
inductive Kind
  | flag
  | port
  | word
  | policy
deriving DecidableEq, Repr

namespace Kind

/-- The values of a kind. -/
abbrev Value : Kind → Type
  | flag => Bool
  | port => UInt16
  | word => UInt64
  | policy => FailurePolicy

/-- The values that a trimmed text denotes. The type of the value bounds the numbers. -/
def Denotes : (k : Kind) → List Char → k.Value → Prop
  | flag, cs, b => Spells (flagWords b) cs
  | port, cs, n => Decimal.Numeral cs n.toNat
  | word, cs, n => Decimal.Numeral cs n.toNat
  | policy, cs, p => Spells (policyWords p) cs

/-- How a variable of a kind is parsed. -/
def parse : (k : Kind) → Parser k.Value
  | flag => Environment.flag
  | port => Environment.port
  | word => Environment.word
  | policy => FailurePolicy.ofText

/-- The plainest text of a value. -/
def text : (k : Kind) → k.Value → String
  | flag, b => if b then "true" else "false"
  | port, n => Decimal.text n.toNat
  | word, n => Decimal.text n.toNat
  | policy, p => p.name

theorem mapError_eq_ok_iff {α ε δ : Type} {x : Except ε α} {f : ε → δ} {a : α} :
    x.mapError f = .ok a ↔ x = .ok a := by
  cases x <;> simp [Except.mapError]

/-- A trimmed text is parsed exactly if it denotes something, and as what it denotes. -/
theorem parse_eq_ok_iff (k : Kind) (cs : List Char) {v : k.Value} :
    k.parse (Text.trim cs) = .ok v ↔ k.Denotes (Text.trim cs) v := by
  cases k with
  | flag => exact flag_eq_ok_iff
  | port => exact mapError_eq_ok_iff.trans Decimal.readUInt16_eq_ok_iff
  | word => exact mapError_eq_ok_iff.trans Decimal.readUInt64_eq_ok_iff
  | policy =>
      -- the reader of policies trims once more
      refine policy_eq_ok_iff.trans ?_
      rw [Text.trim_trim]
      rfl

theorem denotes_text (k : Kind) (v : k.Value) :
    k.Denotes (Text.trim (k.text v).toList) v := by
  have hNumeral (n : Nat) : Decimal.Numeral (Text.trim (Decimal.text n).toList) n := by
    rw [Decimal.text, String.toList_ofList, Decimal.trim_digits]
    exact Decimal.numeral_digits n
  cases k with
  | flag =>
      cases v with
      | true => exact (by decide : Spells (flagWords true) (Text.trim "true".toList))
      | false => exact (by decide : Spells (flagWords false) (Text.trim "false".toList))
  | port => exact hNumeral v.toNat
  | word => exact hNumeral v.toNat
  | policy =>
      cases v with
      | failOpen => exact (by decide : Spells (policyWords .failOpen) (Text.trim "open".toList))
      | failClosed =>
          exact (by decide : Spells (policyWords .failClosed) (Text.trim "closed".toList))

end Kind

/-- A variable that is parsed, and the field it sets. -/
structure Parsed where
  name : String
  kind : Kind
  value : Settings → kind.Value

/-- The twelve variables that are parsed, in the order of the fields. -/
def parsed : List Parsed := [
  ⟨"REDIS_ENABLED", .flag, fun s => s.counter.enabled⟩,
  ⟨"REDIS_PORT", .port, fun s => s.counter.port⟩,
  ⟨"REDIS_TIMEOUT_MS", .word, fun s => s.counter.timeoutMs⟩,
  ⟨"REDIS_FAILURE_POLICY", .policy, fun s => s.counter.policy⟩,
  ⟨"STATSD_ENABLED", .flag, fun s => s.metrics.enabled⟩,
  ⟨"STATSD_PORT", .port, fun s => s.metrics.port⟩,
  ⟨"API_KEY_CACHE_TTL_SECS", .word, fun s => s.caches.apiKeys.ttlSeconds⟩,
  ⟨"API_KEY_CACHE_CAPACITY", .word, fun s => s.caches.apiKeys.capacity⟩,
  ⟨"PERMISSION_CACHE_TTL_SECS", .word, fun s => s.caches.permissions.ttlSeconds⟩,
  ⟨"PERMISSION_CACHE_CAPACITY", .word, fun s => s.caches.permissions.capacity⟩,
  ⟨"SERVICE_ACTIVE_CACHE_TTL_SECS", .word, fun s => s.caches.serviceActive.ttlSeconds⟩,
  ⟨"SERVICE_ACTIVE_CACHE_CAPACITY", .word, fun s => s.caches.serviceActive.capacity⟩]

/-- A variable that is taken as it stands, and the field it sets. -/
structure Verbatim where
  name : String
  value : Settings → String

/-- The three variables that are taken as they stand. -/
def verbatim : List Verbatim := [
  ⟨"REDIS_HOST", fun s => s.counter.host⟩,
  ⟨"STATSD_HOST", fun s => s.metrics.host⟩,
  ⟨"STATSD_PREFIX", fun s => s.metrics.stem⟩]

namespace Parsed

variable (x : Parsed) (vars : Lookup)

/-- A variable is valid if it is not set or its trimmed text denotes something. -/
def Valid : Prop :=
  ∀ raw, vars x.name = some raw → ∃ v, x.kind.Denotes (Text.trim raw.toList) v

/-- The field of some settings is what the variable denotes, or the default if it is not set. -/
def Sets (s : Settings) : Prop :=
  match vars x.name with
  | none => x.value s = x.value {}
  | some raw => x.kind.Denotes (Text.trim raw.toList) (x.value s)

/-- The outcome of parsing a variable. -/
def read : Outcome x.kind.Value :=
  valueOf vars x.name (x.value {}) x.kind.parse

variable {x vars}

theorem read_eq_ok_iff {s : Settings} : x.read vars = .ok (x.value s) ↔ x.Sets vars s := by
  unfold read valueOf Sets
  cases vars x.name with
  | none => exact ⟨fun h => (Except.ok.inj h).symm, fun h => congrArg Except.ok h.symm⟩
  | some raw => exact Kind.mapError_eq_ok_iff.trans (x.kind.parse_eq_ok_iff raw.toList)

theorem exists_read_eq_ok_iff : (∃ v, x.read vars = .ok v) ↔ x.Valid vars := by
  unfold read valueOf Valid
  cases vars x.name with
  | none => exact ⟨fun _ => nofun, fun _ => ⟨_, rfl⟩⟩
  | some raw =>
      simp only [Kind.mapError_eq_ok_iff, Kind.parse_eq_ok_iff, Option.some.injEq]
      exact ⟨fun h _ hRaw => hRaw ▸ h, fun h => h raw rfl⟩

/-- A variable that does not denote anything is reported with the text it was set to. -/
theorem of_read_eq_error {e : Failure} (h : x.read vars = .error e) :
    ∃ raw detail : String, vars x.name = some raw ∧
      e = .configuration s!"{x.name}='{raw}': {detail}" := by
  unfold read valueOf at h
  cases hRaw : vars x.name with
  | none => rw [hRaw] at h; cases h
  | some raw =>
      simp only [hRaw] at h
      cases hParse : x.kind.parse (Text.trim raw.toList) with
      | ok v => rw [hParse] at h; cases h
      | error detail =>
          rw [hParse] at h
          exact ⟨raw, detail, rfl, (Except.error.inj h).symm⟩

end Parsed

/-- The failure of an outcome. -/
def fault? {α : Type} : Outcome α → Option Failure
  | .error e => some e
  | .ok _ => none

theorem fault?_eq_none_iff {α : Type} {x : Outcome α} : fault? x = none ↔ ∃ a, x = .ok a := by
  cases x <;> simp [fault?]

theorem fault?_eq_some_iff {α : Type} {x : Outcome α} {e : Failure} :
    fault? x = some e ↔ x = .error e := by
  cases x <;> simp [fault?]

/-- The first step decides if it fails, and else the rest. -/
theorem fault?_bind {α β : Type} {x : Outcome α} {k : α → Outcome β} {r : Option Failure}
    (h : ∀ a, fault? (k a) = r) : fault? (x >>= k) = (fault? x).or r := by
  cases x with
  | error e => rfl
  | ok a => exact h a

theorem findSome?_cons_or {α β : Type} (f : α → Option β) (a : α) (as : List α) :
    (a :: as).findSome? f = (f a).or (as.findSome? f) := by
  rw [List.findSome?_cons]
  cases f a <;> rfl

/-- The first parsed variable that is not valid decides the failure. -/
theorem fault?_settings (vars : Lookup) :
    fault? (settings vars) = parsed.findSome? fun x => fault? (x.read vars) := by
  simp only [parsed, findSome?_cons_or]
  iterate 12 refine fault?_bind fun _ => ?_
  rfl

theorem bind_eq_ok_iff {α β : Type} {x : Outcome α} {k : α → Outcome β} {b : β} :
    x >>= k = .ok b ↔ ∃ a, x = .ok a ∧ k a = .ok b := by
  cases x with
  | error e => exact ⟨nofun, fun ⟨_, h, _⟩ => nomatch h⟩
  | ok a => exact ⟨fun h => ⟨a, rfl, h⟩, fun ⟨_, h, hk⟩ => Except.ok.inj h ▸ hk⟩

/-- Settings come about exactly if they have what the variables denote. -/
theorem settings_eq_ok_iff {vars : Lookup} {s : Settings} :
    settings vars = .ok s ↔
      (∀ x ∈ parsed, x.Sets vars s) ∧
        ∀ x ∈ verbatim, x.value s = (vars x.name).getD (x.value {}) := by
  simp only [← Parsed.read_eq_ok_iff, parsed, verbatim, List.forall_mem_cons]
  constructor
  · intro h
    obtain ⟨_, hStoreOn, h⟩ := bind_eq_ok_iff.1 h
    obtain ⟨_, hStorePort, h⟩ := bind_eq_ok_iff.1 h
    obtain ⟨_, hTimeout, h⟩ := bind_eq_ok_iff.1 h
    obtain ⟨_, hPolicy, h⟩ := bind_eq_ok_iff.1 h
    obtain ⟨_, hMetricsOn, h⟩ := bind_eq_ok_iff.1 h
    obtain ⟨_, hMetricsPort, h⟩ := bind_eq_ok_iff.1 h
    obtain ⟨_, hKeyTtl, h⟩ := bind_eq_ok_iff.1 h
    obtain ⟨_, hKeyCapacity, h⟩ := bind_eq_ok_iff.1 h
    obtain ⟨_, hPermissionTtl, h⟩ := bind_eq_ok_iff.1 h
    obtain ⟨_, hPermissionCapacity, h⟩ := bind_eq_ok_iff.1 h
    obtain ⟨_, hActiveTtl, h⟩ := bind_eq_ok_iff.1 h
    obtain ⟨_, hActiveCapacity, h⟩ := bind_eq_ok_iff.1 h
    obtain rfl := Except.ok.inj h
    exact ⟨⟨hStoreOn, hStorePort, hTimeout, hPolicy, hMetricsOn, hMetricsPort, hKeyTtl,
      hKeyCapacity, hPermissionTtl, hPermissionCapacity, hActiveTtl, hActiveCapacity,
      List.forall_mem_nil _⟩, rfl, rfl, rfl, List.forall_mem_nil _⟩
  · rintro ⟨⟨hStoreOn, hStorePort, hTimeout, hPolicy, hMetricsOn, hMetricsPort, hKeyTtl,
      hKeyCapacity, hPermissionTtl, hPermissionCapacity, hActiveTtl, hActiveCapacity, -⟩,
      hStoreHost, hMetricsHost, hStem, -⟩
    refine bind_eq_ok_iff.2 ⟨_, hStoreOn, bind_eq_ok_iff.2 ⟨_, hStorePort, ?_⟩⟩
    refine bind_eq_ok_iff.2 ⟨_, hTimeout, bind_eq_ok_iff.2 ⟨_, hPolicy, ?_⟩⟩
    refine bind_eq_ok_iff.2 ⟨_, hMetricsOn, bind_eq_ok_iff.2 ⟨_, hMetricsPort, ?_⟩⟩
    refine bind_eq_ok_iff.2 ⟨_, hKeyTtl, bind_eq_ok_iff.2 ⟨_, hKeyCapacity, ?_⟩⟩
    refine bind_eq_ok_iff.2 ⟨_, hPermissionTtl, bind_eq_ok_iff.2 ⟨_, hPermissionCapacity, ?_⟩⟩
    refine bind_eq_ok_iff.2 ⟨_, hActiveTtl, bind_eq_ok_iff.2 ⟨_, hActiveCapacity, ?_⟩⟩
    rw [← hStoreHost, ← hMetricsHost, ← hStem]
    rfl

/-- Settings come about exactly if all parsed variables are valid. -/
theorem exists_settings_eq_ok_iff (vars : Lookup) :
    (∃ s, settings vars = .ok s) ↔ ∀ x ∈ parsed, x.Valid vars := by
  simp only [← Parsed.exists_read_eq_ok_iff, ← fault?_eq_none_iff, fault?_settings,
    List.findSome?_eq_none_iff]

/-- If they do not, then the first that is not valid is named. -/
theorem first_of_settings_eq_error {vars : Lookup} {e : Failure}
    (h : settings vars = .error e) :
    ∃ before x after, parsed = before ++ x :: after ∧ (∀ y ∈ before, y.Valid vars) ∧
      ¬x.Valid vars ∧ ∃ raw detail : String, vars x.name = some raw ∧
        e = .configuration s!"{x.name}='{raw}': {detail}" := by
  have hFault := fault?_eq_some_iff.2 h
  rw [fault?_settings] at hFault
  obtain ⟨before, x, after, hParsed, hx, hBefore⟩ := List.findSome?_eq_some_iff.1 hFault
  have hRead := fault?_eq_some_iff.1 hx
  refine ⟨before, x, after, hParsed, fun y hy => ?_, fun hValid => ?_,
    Parsed.of_read_eq_error hRead⟩
  · exact Parsed.exists_read_eq_ok_iff.1 (fault?_eq_none_iff.1 (hBefore y hy))
  · obtain ⟨v, hv⟩ := Parsed.exists_read_eq_ok_iff.2 hValid
    rw [hRead] at hv
    cases hv

/-- Only the known variables count. -/
theorem settings_congr {vars others : Lookup} (h : ∀ name ∈ names, others name = vars name) :
    settings others = settings vars := by
  simp only [names, List.forall_mem_cons] at h
  obtain ⟨h₁, h₂, h₃, h₄, h₅, h₆, h₇, h₈, h₉, h₁₀, h₁₁, h₁₂, h₁₃, h₁₄, h₁₅, -⟩ := h
  simp only [settings, valueOf, h₁, h₂, h₃, h₄, h₅, h₆, h₇, h₈, h₉, h₁₀, h₁₁, h₁₂, h₁₃, h₁₄, h₁₅]

/-- The variables that settings are written as: strings as they stand, numbers in decimal, flags
and the policy by their plain names. -/
def written (s : Settings) : List (String × String) := [
  ("REDIS_ENABLED", Kind.flag.text s.counter.enabled),
  ("REDIS_HOST", s.counter.host),
  ("REDIS_PORT", Kind.port.text s.counter.port),
  ("REDIS_TIMEOUT_MS", Kind.word.text s.counter.timeoutMs),
  ("REDIS_FAILURE_POLICY", Kind.policy.text s.counter.policy),
  ("STATSD_ENABLED", Kind.flag.text s.metrics.enabled),
  ("STATSD_HOST", s.metrics.host),
  ("STATSD_PORT", Kind.port.text s.metrics.port),
  ("STATSD_PREFIX", s.metrics.stem),
  ("API_KEY_CACHE_TTL_SECS", Kind.word.text s.caches.apiKeys.ttlSeconds),
  ("API_KEY_CACHE_CAPACITY", Kind.word.text s.caches.apiKeys.capacity),
  ("PERMISSION_CACHE_TTL_SECS", Kind.word.text s.caches.permissions.ttlSeconds),
  ("PERMISSION_CACHE_CAPACITY", Kind.word.text s.caches.permissions.capacity),
  ("SERVICE_ACTIVE_CACHE_TTL_SECS", Kind.word.text s.caches.serviceActive.ttlSeconds),
  ("SERVICE_ACTIVE_CACHE_CAPACITY", Kind.word.text s.caches.serviceActive.capacity)]

/-- Variables from their names and texts. -/
def Lookup.ofList (pairs : List (String × String)) : Lookup :=
  fun name => pairs.lookup name

theorem lookup_written_parsed (s : Settings) {x : Parsed} (hx : x ∈ parsed) :
    Lookup.ofList (written s) x.name = some (x.kind.text (x.value s)) := by
  revert x
  simp only [parsed, List.forall_mem_cons]
  exact ⟨rfl, rfl, rfl, rfl, rfl, rfl, rfl, rfl, rfl, rfl, rfl, rfl, List.forall_mem_nil _⟩

theorem lookup_written_verbatim (s : Settings) {x : Verbatim} (hx : x ∈ verbatim) :
    Lookup.ofList (written s) x.name = some (x.value s) := by
  revert x
  simp only [verbatim, List.forall_mem_cons]
  exact ⟨rfl, rfl, rfl, List.forall_mem_nil _⟩

/-- Settings that are written as variables are read back. -/
theorem settings_written (s : Settings) : settings (Lookup.ofList (written s)) = .ok s := by
  refine settings_eq_ok_iff.2 ⟨fun x hx => ?_, fun x hx => ?_⟩
  · unfold Parsed.Sets
    rw [lookup_written_parsed s hx]
    exact x.kind.denotes_text (x.value s)
  · rw [lookup_written_verbatim s hx]
    rfl

/-- Settings come about from variables exactly by the grammar. -/
theorem settings_by_grammar (vars : Lookup) :
    ((∃ s, settings vars = .ok s) ↔ ∀ x ∈ parsed, x.Valid vars) ∧
    (∀ s, settings vars = .ok s ↔
      (∀ x ∈ parsed, x.Sets vars s) ∧
        ∀ x ∈ verbatim, x.value s = (vars x.name).getD (x.value {})) ∧
    (∀ e, settings vars = .error e →
      ∃ before x after, parsed = before ++ x :: after ∧ (∀ y ∈ before, y.Valid vars) ∧
        ¬x.Valid vars ∧ ∃ raw detail : String, vars x.name = some raw ∧
          e = .configuration s!"{x.name}='{raw}': {detail}") ∧
    (∀ others : Lookup, (∀ name ∈ names, others name = vars name) →
      settings others = settings vars) ∧
    ∀ s, (written s).map Prod.fst = names ∧ settings (Lookup.ofList (written s)) = .ok s :=
  ⟨exists_settings_eq_ok_iff vars, fun _ => settings_eq_ok_iff,
    fun _ => first_of_settings_eq_error, fun _ => settings_congr,
    fun s => ⟨rfl, settings_written s⟩⟩

/-- A port past sixteen bits is reported, and not the flag behind it. -/
theorem settings_by_grammar_port :
    let vars := Lookup.ofList [("STATSD_ENABLED", "maybe"), ("REDIS_PORT", " +65536 ")]
    settings vars = .error (.configuration
        "REDIS_PORT=' +65536 ': number too large to fit in target type") ∧
      ∃ before x after, parsed = before ++ x :: after ∧ (∀ y ∈ before, y.Valid vars) ∧
        ¬x.Valid vars ∧ ∃ raw detail : String, vars x.name = some raw ∧
          Failure.configuration "REDIS_PORT=' +65536 ': number too large to fit in target type" =
            .configuration s!"{x.name}='{raw}': {detail}" :=
  have hError : settings (Lookup.ofList [("STATSD_ENABLED", "maybe"), ("REDIS_PORT", " +65536 ")]) =
      .error (.configuration
        "REDIS_PORT=' +65536 ': number too large to fit in target type") := rfl
  ⟨hError, (settings_by_grammar _).2.2.1 _ hError⟩

end Tollgate.Environment
