import Mathlib.Data.List.Nodup
import Tollgate.Cache.Script

/-!
What single operations of a cache do to its entries. A lookup changes no live value, and only `put`
brings an entry in. An entry stored under a time to live is expired exactly when that time has
passed, also where the end of the time lies past the last instant of a clock.
-/

namespace Tollgate

variable {K V : Type}

theorem Cache.Clock.now_le_lastInstant (c : Clock) : c.now ≤ lastInstant := by
  unfold now
  split
  · exact Nat.zero_le _
  · exact Nat.min_le_right _ _

/-- Clocks do not run backwards. -/
theorem Cache.Clock.now_le_now_advance (c : Clock) (span : Nat) :
    c.now ≤ (c.advance span).now := by
  unfold now advance
  split
  · exact Nat.le_refl _
  · simp only
    omega

namespace Cache

/-- Exactness of expiry. No clock shows an instant at which a sum that it cannot represent would
matter. -/
theorem isExpired_instantAfter (v : V) (stored ttl : Nat) {now : Nat} (hNow : now ≤ lastInstant) :
    Entry.isExpired ⟨v, stored, instantAfter? stored ttl⟩ now = decide (stored + ttl ≤ now) := by
  unfold Entry.isExpired instantAfter?
  split_ifs with h
  · rfl
  · simp only
    symm
    rw [decide_eq_false_iff_not]
    omega

/-- An entry that expires when the time to live of its cache has passed since it was stored. -/
def Entry.Timed (ttl : Nat) (e : Entry V) : Prop :=
  e.expiresAt = instantAfter? e.insertedAt ttl

theorem Entry.Timed.isExpired_iff {ttl : Nat} {e : Entry V} (h : e.Timed ttl) {now : Nat}
    (hNow : now ≤ lastInstant) : e.isExpired now = true ↔ e.insertedAt + ttl ≤ now := by
  obtain ⟨v, stored, expiresAt⟩ := e
  have hExpires : expiresAt = instantAfter? stored ttl := h
  subst hExpires
  rw [isExpired_instantAfter v stored ttl hNow, decide_eq_true_iff]

/-- The entry that `put` stores. -/
def entryAt (ttl : Nat) (v : V) (now : Nat) : Entry V where
  value := v
  insertedAt := now
  expiresAt := instantAfter? now ttl

theorem entryAt_timed (ttl : Nat) (v : V) (now : Nat) : (entryAt ttl v now).Timed ttl :=
  rfl

/-- The keys of the entries, in their order. -/
def keys (c : Cache K V) : List K :=
  c.entries.map Prod.fst

variable [DecidableEq K]

theorem mem_others {c : Cache K V} {k : K} {p : K × Entry V} :
    p ∈ c.others k ↔ p ∈ c.entries ∧ p.1 ≠ k := by
  simp [others]

theorem mem_of_peek? {c : Cache K V} {k : K} {e : Entry V} (h : c.peek? k = some e) :
    (k, e) ∈ c.entries := by
  obtain ⟨p, hFind, hEntry⟩ := Option.map_eq_some_iff.1 h
  have hKey : p.1 = k := by simpa using List.find?_some hFind
  have hMem := List.mem_of_find?_eq_some hFind
  rwa [← hKey, ← hEntry]

/-- No key is stored twice by putting an entry in front of entries of other keys. -/
theorem nodup_front {c : Cache K V} (hKeys : c.keys.Nodup) {k : K} {e : Entry V}
    {kept : List (K × Entry V)} (hKept : kept.Sublist (c.others k)) :
    (((k, e) :: kept).map Prod.fst).Nodup := by
  refine List.nodup_cons.2 ⟨fun hMem => ?_,
    hKeys.sublist ((hKept.trans List.filter_sublist).map Prod.fst)⟩
  obtain ⟨p, hp, hKey⟩ := List.mem_map.1 hMem
  exact (mem_others.1 (hKept.subset hp)).2 hKey

theorem peek?_eq_none_iff {c : Cache K V} {k : K} :
    c.peek? k = none ↔ ∀ p ∈ c.entries, p.1 ≠ k := by
  simp [peek?]

theorem peek?_of_mem {c : Cache K V} (hKeys : c.keys.Nodup) {k : K} {e : Entry V}
    (h : (k, e) ∈ c.entries) : c.peek? k = some e := by
  cases hEntry : c.peek? k with
  | none => exact absurd rfl (peek?_eq_none_iff.1 hEntry (k, e) h)
  | some e' =>
      have hPair := List.inj_on_of_nodup_map hKeys (mem_of_peek? hEntry) h rfl
      simpa using hPair

/-- The order of the fields aside, an entry is found among the others unless it is the one of the
key itself. -/
theorem find?_others (c : Cache K V) (k j : K) :
    ((c.others k).find? fun p => p.1 = j).map (·.2) = if j = k then none else c.peek? j := by
  simp only [others, peek?, List.find?_filter]
  split
  · next h => simp [h]
  · next h =>
      congr 2
      funext p
      by_cases hp : p.1 = j <;> simp [hp, h]

/-- The live value under a key. -/
def live? (c : Cache K V) (k : K) (now : Nat) : Option V :=
  ((c.peek? k).filter fun e => !e.isExpired now).map (·.value)

theorem live?_eq_some_iff {c : Cache K V} {k : K} {now : Nat} {v : V} :
    c.live? k now = some v ↔ ∃ e, c.peek? k = some e ∧ e.isExpired now = false ∧ e.value = v := by
  cases h : c.peek? k with
  | none => simp [live?, h]
  | some e => cases hExpired : e.isExpired now <;> simp [live?, h, hExpired, Option.filter]

/-- A lookup yields the live value. -/
theorem get_fst (c : Cache K V) (k : K) (now : Nat) : (c.get k now).1 = c.live? k now := by
  unfold get live?
  cases c.peek? k with
  | none => rfl
  | some e => cases hExpired : e.isExpired now <;> simp [hExpired, Option.filter]

theorem live?_of_new {c : Cache K V} {k : K} (h : c.peek? k = none) (now : Nat) :
    c.live? k now = none := by
  rw [live?, h]
  rfl

/-- To look a new key up counts as a miss and does nothing else. -/
theorem get_of_new {c : Cache K V} {k : K} (h : c.peek? k = none) (now : Nat) :
    c.get k now = (none, { c with misses := c.misses + 1 }) := by
  simp only [get, h]

theorem contains_eq_isSome (c : Cache K V) (k : K) (now : Nat) :
    c.contains k now = (c.live? k now).isSome := by
  unfold contains live?
  cases c.peek? k with
  | none => rfl
  | some e => cases hExpired : e.isExpired now <;> simp [hExpired, Option.filter]

/-- Whatever a lookup finds, the live values at its instant stay the same. -/
theorem live?_get (c : Cache K V) (k j : K) (now : Nat) :
    (c.get k now).2.live? j now = c.live? j now := by
  unfold get
  cases hEntry : c.peek? k with
  | none => rfl
  | some e =>
      simp only
      split_ifs with hExpired
      · simp only [live?, peek?, find?_others]
        by_cases hKey : j = k
        · subst j
          have hEntry' := hEntry
          unfold peek? at hEntry'
          simp [hEntry', Option.filter, hExpired]
        · simp [hKey]
      · simp only [live?, peek?, List.find?_cons]
        by_cases hKey : k = j
        · subst j
          have hEntry' := hEntry
          unfold peek? at hEntry'
          simp [hEntry']
        · have hOthers := find?_others c k j
          rw [if_neg (Ne.symm hKey)] at hOthers
          simp [hKey, hOthers, peek?]

theorem mem_entries_get {c : Cache K V} {k : K} {now : Nat} {p : K × Entry V}
    (h : p ∈ (c.get k now).2.entries) : p ∈ c.entries := by
  unfold get at h
  cases hEntry : c.peek? k with
  | none => simpa [hEntry] using h
  | some e =>
      simp only [hEntry] at h
      split_ifs at h
      · exact (mem_others.1 h).1
      · rcases List.mem_cons.1 h with rfl | h
        · exact mem_of_peek? hEntry
        · exact (mem_others.1 h).1

/-- A lookup that finds no live value leaves none under the key. -/
theorem not_mem_entries_get {c : Cache K V} {k : K} {now : Nat} (h : c.live? k now = none)
    (e : Entry V) : (k, e) ∉ (c.get k now).2.entries := by
  rw [← get_fst] at h
  unfold get at h ⊢
  cases hEntry : c.peek? k with
  | none => exact fun hMem => peek?_eq_none_iff.1 hEntry _ hMem rfl
  | some e' =>
      simp only [hEntry] at h ⊢
      split_ifs at h ⊢ with hExpired
      exact fun hMem => (mem_others.1 hMem).2 rfl

theorem mem_entries_remove {c : Cache K V} {k : K} {now : Nat} {p : K × Entry V} :
    p ∈ (c.remove k now).2.entries ↔ p ∈ c.entries ∧ p.1 ≠ k :=
  mem_others

/-- The cache from which `put` pushes: without its expired entries if the key is new and there is no
room for it. -/
def madeRoom (c : Cache K V) (k : K) (now : Nat) : Cache K V :=
  if (c.peek? k).isNone ∧ c.capacity ≤ c.size then c.purge now else c

theorem put_eq_push (c : Cache K V) (k : K) (v : V) (now : Nat) :
    c.put k v now = (c.madeRoom k now).push k (entryAt c.ttl v now) := by
  unfold put madeRoom
  split <;> rfl

theorem madeRoom_sublist (c : Cache K V) (k : K) (now : Nat) :
    (c.madeRoom k now).entries.Sublist c.entries := by
  unfold madeRoom
  split
  · exact List.filter_sublist
  · exact List.Sublist.refl _

/-- The entries of other keys that `put` keeps: all if there is room, and else all but the last. -/
theorem put_kept (c : Cache K V) (k : K) (v : V) (now : Nat) :
    (c.put k v now).entries = (k, entryAt c.ttl v now) ::
      if ((c.madeRoom k now).others k).length < c.capacity then (c.madeRoom k now).others k
      else ((c.madeRoom k now).others k).dropLast := by
  have hCapacity : (c.madeRoom k now).capacity = c.capacity := by
    unfold madeRoom
    split <;> rfl
  rw [put_eq_push, push]
  simp only [hCapacity]
  split <;> rfl

/-- After a `put` its entry stands in front, and behind it nothing but older entries of other keys,
in their order. -/
theorem put_entries (c : Cache K V) (k : K) (v : V) (now : Nat) :
    ∃ kept : List (K × Entry V), (c.put k v now).entries = (k, entryAt c.ttl v now) :: kept ∧
      kept.Sublist (c.others k) := by
  have hOthers : ((c.madeRoom k now).others k).Sublist (c.others k) :=
    (c.madeRoom_sublist k now).filter _
  refine ⟨_, put_kept c k v now, ?_⟩
  split
  · exact hOthers
  · exact (List.dropLast_sublist _).trans hOthers

theorem mem_entries_put {c : Cache K V} {k : K} {v : V} {now : Nat} {p : K × Entry V}
    (h : p ∈ (c.put k v now).entries) :
    p = (k, entryAt c.ttl v now) ∨ p ∈ c.entries ∧ p.1 ≠ k := by
  obtain ⟨kept, hEntries, hKept⟩ := put_entries c k v now
  rw [hEntries] at h
  rcases List.mem_cons.1 h with rfl | h
  · exact Or.inl rfl
  · exact Or.inr (mem_others.1 (hKept.subset h))

@[simp]
theorem ttl_get (c : Cache K V) (k : K) (now : Nat) : (c.get k now).2.ttl = c.ttl := by
  unfold get
  split
  · rfl
  · split <;> rfl

@[simp]
theorem ttl_put (c : Cache K V) (k : K) (v : V) (now : Nat) : (c.put k v now).ttl = c.ttl := by
  unfold put push
  simp only
  split <;> split <;> rfl

theorem capacity_put (c : Cache K V) (k : K) (v : V) (now : Nat) :
    (c.put k v now).capacity = c.capacity := by
  unfold put push
  simp only
  split <;> split <;> rfl

theorem hits_put (c : Cache K V) (k : K) (v : V) (now : Nat) : (c.put k v now).hits = c.hits := by
  unfold put push
  simp only
  split <;> split <;> rfl

theorem misses_put (c : Cache K V) (k : K) (v : V) (now : Nat) :
    (c.put k v now).misses = c.misses := by
  unfold put push
  simp only
  split <;> split <;> rfl

theorem capacity_get (c : Cache K V) (k : K) (now : Nat) :
    (c.get k now).2.capacity = c.capacity := by
  unfold get
  split
  · rfl
  · split <;> rfl

theorem evictions_get (c : Cache K V) (k : K) (now : Nat) :
    (c.get k now).2.evictions = c.evictions := by
  unfold get
  split
  · rfl
  · split <;> rfl

theorem hits_get (c : Cache K V) (k : K) (now : Nat) :
    (c.get k now).2.hits = c.hits + if (c.get k now).1.isSome then 1 else 0 := by
  unfold get
  split
  · rfl
  · split <;> rfl

theorem misses_get (c : Cache K V) (k : K) (now : Nat) :
    (c.get k now).2.misses = c.misses + if (c.get k now).1.isSome then 0 else 1 := by
  unfold get
  split
  · rfl
  · split <;> rfl

end Cache

end Tollgate
