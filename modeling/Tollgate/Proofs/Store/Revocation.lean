import Mathlib.Data.List.Forall2
import Mathlib.Tactic.SplitIfs
import Tollgate.Store.Memory

/-!
What the revocation of a key takes away, and what it does not. It gives the first key of an
identifier a new expiry, whatever expiry that key had, and lets all else be. So it takes access away
for good where identifiers are not repeated and no earlier expiry is put off.
-/

namespace Tollgate

namespace ApiKey

/-- Whatever its expiry was, a key that is given another lives just before that. -/
theorem isLiveAt_expiringAt (k : ApiKey) (expiry t : Timestamp) :
    (k.expiringAt expiry).isLiveAt t = true ↔ t.rank < expiry.rank := by
  rw [isLiveAt_iff]
  constructor
  · exact fun h => h expiry rfl
  · rintro h other hOther
    cases hOther
    exact h

/-- A key lives at no instant from a given one on exactly if it has expired by then. -/
theorem forall_not_isLiveAt_iff (k : ApiKey) (start : Timestamp) :
    (∀ t : Timestamp, start.rank ≤ t.rank → k.isLiveAt t = false) ↔
      ∃ old, k.expiry = some old ∧ old.rank ≤ start.rank := by
  constructor
  · intro h
    have hNow : ¬k.isLiveAt start = true := by simp [h start (Int.le_refl _)]
    simp only [isLiveAt_iff, not_forall, Int.not_lt] at hNow
    obtain ⟨old, hOld, hBefore⟩ := hNow
    exact ⟨old, hOld, hBefore⟩
  · rintro ⟨old, hOld, hBefore⟩ t hStart
    rw [Bool.eq_false_iff, Ne, isLiveAt_iff]
    intro h
    have hAfter := h old hOld
    omega

/-- A new expiry gives a key no instant to live at exactly if it does not put an old one off. -/
theorem forall_isLiveAt_of_expiringAt_iff (k : ApiKey) (expiry : Timestamp) :
    (∀ t, (k.expiringAt expiry).isLiveAt t = true → k.isLiveAt t = true) ↔
      ∀ old, k.expiry = some old → expiry.rank ≤ old.rank := by
  constructor
  · intro h old hOld
    by_contra hLater
    have hAlive := h old ((k.isLiveAt_expiringAt expiry old).2 (Int.not_le.1 hLater))
    exact Int.lt_irrefl _ ((k.isLiveAt_iff old).1 hAlive old hOld)
  · intro h t hAlive
    rw [isLiveAt_expiringAt] at hAlive
    rw [isLiveAt_iff]
    intro old hOld
    exact Int.lt_of_lt_of_le hAlive (h old hOld)

end ApiKey

namespace MemoryStore

/-- The API keys of a service; one that is unknown has none. -/
def keysOf (m : MemoryStore) (s : ServiceId) : List ApiKey :=
  ((m.services.get? s).map (·.apiKeys)).getD []

/-- No key of that identifier lives at an instant or at any later one. -/
def Ended (m : MemoryStore) (s : ServiceId) (id : Uuid) (start : Timestamp) : Prop :=
  ∀ k ∈ m.keysOf s, k.id = id → ∀ t : Timestamp, start.rank ≤ t.rank → k.isLiveAt t = false

/-- Every service has as many keys as before, and each lives only when it lived before. -/
def OnlyTakesAway (m m' : MemoryStore) : Prop :=
  ∀ s, List.Forall₂ (fun k k' => ∀ t, k'.isLiveAt t = true → k.isLiveAt t = true)
    (m.keysOf s) (m'.keysOf s)

/-- The first key of an identifier among the keys of a service. -/
structure FirstKey (m : MemoryStore) (s : ServiceId) (id : Uuid) where
  before : List ApiKey
  key : ApiKey
  after : List ApiKey
  keysOf_eq : m.keysOf s = before ++ key :: after
  id_eq : key.id = id
  first : ∀ k ∈ before, k.id ≠ id

/-- The first key of an identifier has another expiry, and all else is as it was: the other keys of
the service, its permissions and its active flag, all other services, and the store around them. -/
structure FirstKey.Expires {m : MemoryStore} {s : ServiceId} {id : Uuid} (f : m.FirstKey s id)
    (expiry : Timestamp) (m' : MemoryStore) : Prop where
  service : ∃ snapshot, m.services.get? s = some snapshot ∧
    m'.services.get? s =
      some { snapshot with apiKeys := f.before ++ f.key.expiringAt expiry :: f.after }
  others : ∀ r, r ≠ s → m'.services.get? r = m.services.get? r
  around : m' = { m with services := m'.services }

/-- Of the keys of that identifier the first one is found, if there is any. -/
theorem expireFirst?_cases (id : Uuid) (expiry : Timestamp) (ks : List ApiKey) :
    (expireFirst? id expiry ks = none ∧ ∀ k ∈ ks, k.id ≠ id) ∨
      ∃ before k after, ks = before ++ k :: after ∧ k.id = id ∧ (∀ l ∈ before, l.id ≠ id) ∧
        expireFirst? id expiry ks = some (before ++ k.expiringAt expiry :: after) := by
  induction ks with
  | nil => exact Or.inl ⟨rfl, by simp⟩
  | cons k ks ih =>
      simp only [expireFirst?]
      split_ifs with hId
      · exact Or.inr ⟨[], k, ks, rfl, hId, by simp, rfl⟩
      · rcases ih with ⟨hNone, hOthers⟩ | ⟨before, l, after, rfl, hl, hFirst, hSome⟩
        · rw [hNone]
          exact Or.inl ⟨rfl, List.forall_mem_cons.2 ⟨hId, hOthers⟩⟩
        · rw [hSome]
          exact Or.inr ⟨k :: before, l, after, rfl, hl, List.forall_mem_cons.2 ⟨hId, hFirst⟩, rfl⟩

/-- A revocation finds no key and does nothing, or lets the first key of the identifier expire. -/
theorem revokeKey_cases (m : MemoryStore) (s : ServiceId) (id : Uuid) (expiry : Timestamp) :
    (m.revokeKey s id expiry = (false, m) ∧ ∀ k ∈ m.keysOf s, k.id ≠ id) ∨
      (m.revokeKey s id expiry).1 = true ∧
        ∃ f : m.FirstKey s id, f.Expires expiry (m.revokeKey s id expiry).2 := by
  cases hService : m.services.get? s with
  | none =>
      refine Or.inl ⟨by simp only [revokeKey, hService], ?_⟩
      simp [keysOf, hService]
  | some snapshot =>
      have hKeys : m.keysOf s = snapshot.apiKeys := by simp [keysOf, hService]
      rcases expireFirst?_cases id expiry snapshot.apiKeys with
        ⟨hNone, hOthers⟩ | ⟨before, k, after, hSplit, hId, hFirst, hSome⟩
      · exact Or.inl ⟨by simp only [revokeKey, hService, hNone], hKeys ▸ hOthers⟩
      · have hRevoked : m.revokeKey s id expiry =
            (true, m.upsert s
              { snapshot with apiKeys := before ++ k.expiringAt expiry :: after }) := by
          simp only [revokeKey, hService, hSome]
        rw [hRevoked]
        refine Or.inr ⟨rfl, ⟨before, k, after, hKeys.trans hSplit, hId, hFirst⟩, ?_⟩
        exact {
          service := ⟨snapshot, hService, by simp [upsert, Table.get?_put]⟩
          others := fun r hr => by simp [upsert, Table.get?_put, hr]
          around := rfl }

namespace FirstKey.Expires

variable {m m' : MemoryStore} {s : ServiceId} {id : Uuid} {f : m.FirstKey s id}
  {expiry : Timestamp}

theorem keysOf_service (h : f.Expires expiry m') :
    m'.keysOf s = f.before ++ f.key.expiringAt expiry :: f.after := by
  obtain ⟨snapshot, _, hAfter⟩ := h.service
  simp [keysOf, hAfter]

theorem keysOf_of_ne (h : f.Expires expiry m') {r : ServiceId} (hr : r ≠ s) :
    m'.keysOf r = m.keysOf r := by
  rw [keysOf, keysOf, h.others r hr]

/-- The keys of that identifier have come to their end exactly if those behind the first had
expired by then. -/
theorem ended_iff (h : f.Expires expiry m') :
    m'.Ended s id expiry ↔
      ∀ k ∈ f.after, k.id = id → ∃ old, k.expiry = some old ∧ old.rank ≤ expiry.rank := by
  simp only [Ended, ApiKey.forall_not_isLiveAt_iff, h.keysOf_service, List.forall_mem_append,
    List.forall_mem_cons]
  constructor
  · exact fun hAll => hAll.2.2
  · intro hAfter
    refine ⟨fun k hk hId => absurd hId (f.first k hk), fun _ => ?_, hAfter⟩
    exact ⟨expiry, rfl, Int.le_refl _⟩

/-- Nothing lives that did not live before exactly if no old expiry is put off. -/
theorem onlyTakesAway_iff (h : f.Expires expiry m') :
    m.OnlyTakesAway m' ↔ ∀ old, f.key.expiry = some old → expiry.rank ≤ old.rank := by
  rw [← ApiKey.forall_isLiveAt_of_expiringAt_iff]
  have hSame (ks : List ApiKey) : List.Forall₂
      (fun k k' : ApiKey => ∀ t, k'.isLiveAt t = true → k.isLiveAt t = true) ks ks :=
    List.forall₂_same.2 fun _ _ _ hAlive => hAlive
  constructor
  · intro hAll
    have hService := hAll s
    rw [f.keysOf_eq, h.keysOf_service] at hService
    have hRest := List.forall₂_drop f.before.length hService
    rw [List.drop_left, List.drop_left] at hRest
    exact (List.forall₂_cons.1 hRest).1
  · intro hKey r
    by_cases hr : r = s
    · subst hr
      rw [f.keysOf_eq, h.keysOf_service]
      exact List.rel_append (hSame _) (.cons hKey (hSame _))
    · rw [h.keysOf_of_ne hr]
      exact hSame _

end FirstKey.Expires

/-- What a revocation does. Where it finds no key there was none of that identifier, and nothing
changes. Otherwise the first key of that identifier lives at just the instants before the new
expiry, and all else is as it was. All keys of that identifier have come to their end by then unless
one behind the first lives on; and no key is given an instant to live at unless the first one had
expired earlier than it does now. -/
theorem revokes_first_key (m : MemoryStore) (s : ServiceId) (id : Uuid) (expiry : Timestamp) :
    ((m.revokeKey s id expiry).1 = false →
      (m.revokeKey s id expiry).2 = m ∧ ∀ k ∈ m.keysOf s, k.id ≠ id) ∧
    ((m.revokeKey s id expiry).1 = true →
      ∃ f : m.FirstKey s id, f.Expires expiry (m.revokeKey s id expiry).2 ∧
        (∀ t, (f.key.expiringAt expiry).isLiveAt t = true ↔ t.rank < expiry.rank) ∧
        ((m.revokeKey s id expiry).2.Ended s id expiry ↔
          ∀ k ∈ f.after, k.id = id → ∃ old, k.expiry = some old ∧ old.rank ≤ expiry.rank) ∧
        (m.OnlyTakesAway (m.revokeKey s id expiry).2 ↔
          ∀ old, f.key.expiry = some old → expiry.rank ≤ old.rank)) := by
  rcases revokeKey_cases m s id expiry with ⟨hNone, hOthers⟩ | ⟨hFound, f, hExpires⟩
  · rw [hNone]
    exact ⟨fun _ => ⟨rfl, hOthers⟩, nofun⟩
  · refine ⟨fun hNone => ?_, fun _ => ?_⟩
    · rw [hFound] at hNone
      cases hNone
    · exact ⟨f, hExpires, f.key.isLiveAt_expiringAt expiry, hExpires.ended_iff,
        hExpires.onlyTakesAway_iff⟩

/-- A key that expired at the start of 2001 is revoked as of the start of 2002, and lives for
another year; the second key of the same identifier lives on for ever. -/
theorem revoked_key_lives_again :
    let s : ServiceId := default
    let id : Uuid := default
    let start (year : Int) (h : IsDay year 1 1) : Timestamp := .midnight ⟨year, 1, 1, h⟩
    let store : MemoryStore := { label := "primary" }
    let m := store.upsert s {
      apiKeys := [{ id, secretRef := "secret/0", expiry := some (start 2001 (by decide)) },
        { id, secretRef := "secret/1" }]
      active := true }
    let expiry := start 2002 (by decide)
    (m.revokeKey s id expiry).1 = true ∧ ¬(m.revokeKey s id expiry).2.Ended s id expiry ∧
      ¬m.OnlyTakesAway (m.revokeKey s id expiry).2 := by
  intro s id start store m expiry
  refine ⟨by decide +kernel, fun hEnded => ?_, fun hTaken => ?_⟩
  · have hSecond : ({ id, secretRef := "secret/1" } : ApiKey) ∈
        (m.revokeKey s id expiry).2.keysOf s := by
      decide +kernel
    have hOver := hEnded _ hSecond rfl expiry (Int.le_refl _)
    cases hOver
  · have hFirst := List.Forall₂.get (hTaken s) (i := 0) (by decide +kernel) (by decide +kernel)
      (start 2001 (by decide)) (by decide +kernel)
    revert hFirst
    decide +kernel

end MemoryStore

end Tollgate
