import Tollgate.Proofs.Cache.Entries

/-!
What lives in a cache, in the order of use. Entries that have expired and are still stored make no
difference to what lives: they give way before any live entry does, so that a cache pushes out its
least recently used entry only where all that it holds is alive.
-/

namespace Tollgate.Cache

variable {K V : Type}

/-- The entries that live, the most recently used first. -/
def living (c : Cache K V) (now : Nat) : List (K × Entry V) :=
  c.entries.filter fun p => !p.2.isExpired now

theorem mem_living {c : Cache K V} {now : Nat} {p : K × Entry V} :
    p ∈ c.living now ↔ p ∈ c.entries ∧ p.2.isExpired now = false := by
  simp [living]

theorem isExpired_mono {e : Entry V} {now later : Nat} (h : now ≤ later)
    (hExpired : e.isExpired now = true) : e.isExpired later = true := by
  unfold Entry.isExpired at hExpired ⊢
  cases hEnd : e.expiresAt with
  | none => simp [hEnd] at hExpired
  | some t =>
      simp only [hEnd, decide_eq_true_eq] at hExpired ⊢
      exact Nat.le_trans hExpired h

/-- As time passes, entries only drop out. -/
theorem living_later (c : Cache K V) {now later : Nat} (h : now ≤ later) :
    c.living later = (c.living now).filter fun p => !p.2.isExpired later := by
  unfold living
  rw [List.filter_filter]
  refine List.filter_congr fun p _ => ?_
  cases hExpired : p.2.isExpired now with
  | false => simp
  | true => simp [isExpired_mono h hExpired]

theorem living_purge (c : Cache K V) (now : Nat) : (c.purge now).living now = c.living now := by
  unfold living purge
  simp only [List.filter_filter, Bool.and_self]

theorem living_clear (c : Cache K V) (now : Nat) : c.clear.living now = [] :=
  rfl

/-- What is kept of entries when one more is put in front of them: all if there is room for it, and
else all but the last. -/
def trimmed {α : Type} (capacity : Nat) (entries : List α) : List α :=
  if entries.length < capacity then entries else entries.dropLast

/-- No key is stored twice, and there is room for all that is stored. -/
structure Proper (c : Cache K V) : Prop where
  nodup : c.keys.Nodup
  size_le : c.size ≤ c.capacity
  pos : 0 < c.capacity

namespace Proper

theorem empty (ttl capacity : Nat) : (Cache.empty ttl capacity : Cache K V).Proper where
  nodup := List.nodup_nil
  size_le := Nat.zero_le _
  pos := Nat.lt_of_lt_of_le Nat.one_pos (Nat.le_max_right capacity 1)

theorem of_sublist {c : Cache K V} (h : c.Proper) {c' : Cache K V}
    (hCapacity : c'.capacity = c.capacity) (hSub : c'.entries.Sublist c.entries) : c'.Proper where
  nodup := h.nodup.sublist (hSub.map Prod.fst)
  size_le := hCapacity ▸ Nat.le_trans hSub.length_le h.size_le
  pos := hCapacity ▸ h.pos

theorem clear {c : Cache K V} (h : c.Proper) : c.clear.Proper :=
  h.of_sublist rfl (List.nil_sublist _)

theorem purge {c : Cache K V} (h : c.Proper) (now : Nat) : (c.purge now).Proper :=
  h.of_sublist rfl List.filter_sublist

end Proper

variable [DecidableEq K]

/-- The live entries of all other keys. -/
def livingOthers (c : Cache K V) (k : K) (now : Nat) : List (K × Entry V) :=
  (c.living now).filter fun p => p.1 ≠ k

theorem filter_others (c : Cache K V) (k : K) (now : Nat) :
    (c.others k).filter (fun p => !p.2.isExpired now) = c.livingOthers k now := by
  unfold others livingOthers living
  simp only [List.filter_filter, Bool.and_comm]

theorem living_remove (c : Cache K V) (k : K) (now : Nat) :
    (c.remove k now).2.living now = c.livingOthers k now :=
  filter_others c k now

/-- Whether it purges or not, `put` leaves what lives as it is before it puts its entry in front. -/
theorem livingOthers_madeRoom (c : Cache K V) (k : K) (now : Nat) :
    (c.madeRoom k now).livingOthers k now = c.livingOthers k now := by
  unfold madeRoom livingOthers
  split
  · rw [living_purge]
  · rfl

namespace Proper

variable {c : Cache K V}

/-- An entry may be put in front of others if there is room for it. -/
theorem front (h : c.Proper) {c' : Cache K V} {k : K} {e : Entry V} {kept : List (K × Entry V)}
    (hCapacity : c'.capacity = c.capacity) (hEntries : c'.entries = (k, e) :: kept)
    (hKept : kept.Sublist (c.others k)) (hRoom : kept.length < c.capacity) : c'.Proper where
  nodup := by
    rw [keys, hEntries]
    exact nodup_front h.nodup hKept
  size_le := by
    rw [size, hEntries, hCapacity]
    exact hRoom
  pos := hCapacity ▸ h.pos

theorem length_others_lt (h : c.Proper) {k : K} {e : Entry V} (hEntry : c.peek? k = some e) :
    (c.others k).length < c.capacity := by
  have hLess : (c.others k).length < c.entries.length :=
    List.length_filter_lt_length_iff_exists.2 ⟨(k, e), mem_of_peek? hEntry, by simp⟩
  exact Nat.lt_of_lt_of_le hLess h.size_le

theorem get (h : c.Proper) (k : K) (now : Nat) : (c.get k now).2.Proper := by
  unfold Cache.get
  cases hEntry : c.peek? k with
  | none => exact h.of_sublist rfl (List.Sublist.refl _)
  | some e =>
      simp only
      split_ifs
      · exact h.of_sublist rfl List.filter_sublist
      · exact h.front rfl rfl (List.Sublist.refl _) (h.length_others_lt hEntry)

theorem remove (h : c.Proper) (k : K) (now : Nat) : (c.remove k now).2.Proper :=
  h.of_sublist rfl List.filter_sublist

theorem put (h : c.Proper) (k : K) (v : V) (now : Nat) : (c.put k v now).Proper := by
  have hOthers : ((c.madeRoom k now).others k).Sublist (c.others k) :=
    (c.madeRoom_sublist k now).filter _
  have hLength : ((c.madeRoom k now).others k).length ≤ c.capacity :=
    Nat.le_trans hOthers.length_le (Nat.le_trans (List.length_filter_le _ _) h.size_le)
  have hPos := h.pos
  refine h.front (capacity_put c k v now) (put_kept c k v now) ?_ ?_
  · split
    · exact hOthers
    · exact (List.dropLast_sublist _).trans hOthers
  · split
    · assumption
    · rw [List.length_dropLast]
      omega

theorem live?_eq_some_iff (h : c.Proper) {k : K} {now : Nat} {v : V} :
    c.live? k now = some v ↔ ∃ e, (k, e) ∈ c.living now ∧ e.value = v := by
  rw [Cache.live?_eq_some_iff]
  constructor
  · rintro ⟨e, hEntry, hAlive, hValue⟩
    exact ⟨e, mem_living.2 ⟨mem_of_peek? hEntry, hAlive⟩, hValue⟩
  · rintro ⟨e, hMem, hValue⟩
    obtain ⟨hMem, hAlive⟩ := mem_living.1 hMem
    exact ⟨e, peek?_of_mem h.nodup hMem, hAlive, hValue⟩

/-- A hit brings its entry to the front of all that lives. -/
theorem living_get_of_mem (h : c.Proper) {k : K} {now : Nat} {e : Entry V}
    (hMem : (k, e) ∈ c.living now) :
    (c.get k now).2.living now = (k, e) :: c.livingOthers k now := by
  obtain ⟨hMem, hAlive⟩ := mem_living.1 hMem
  rw [← filter_others]
  simp [Cache.get, living, peek?_of_mem h.nodup hMem, hAlive]

/-- A miss leaves all that lives as it is. -/
theorem living_get_of_none (h : c.Proper) {k : K} {now : Nat}
    (hMiss : (c.get k now).1 = none) : (c.get k now).2.living now = c.living now := by
  unfold Cache.get at hMiss ⊢
  cases hEntry : c.peek? k with
  | none => rfl
  | some e =>
      simp only [hEntry] at hMiss ⊢
      split_ifs at hMiss ⊢ with hExpired
      -- The one entry of the key has expired.
      unfold living others
      rw [List.filter_filter]
      refine List.filter_congr fun p hp => ?_
      by_cases hKey : p.1 = k
      · have hSame : c.peek? k = some p.2 := peek?_of_mem h.nodup (hKey ▸ hp)
        rw [hEntry] at hSame
        cases hSame
        simp [hExpired]
      · simp [hKey]

theorem livingOthers_of_get_eq_none (h : c.Proper) {k : K} {now : Nat}
    (hMiss : (c.get k now).1 = none) : c.livingOthers k now = c.living now := by
  refine List.filter_eq_self.2 fun p hp => decide_eq_true fun hKey => ?_
  have hLive : c.live? k now = some p.2.value :=
    h.live?_eq_some_iff.2 ⟨p.2, hKey ▸ hp, rfl⟩
  rw [get_fst, hLive] at hMiss
  cases hMiss

theorem exists_mem_living_of_get (h : c.Proper) {k : K} {now : Nat} {v : V}
    (hHit : (c.get k now).1 = some v) : ∃ e, (k, e) ∈ c.living now := by
  rw [get_fst, h.live?_eq_some_iff] at hHit
  obtain ⟨e, hMem, _⟩ := hHit
  exact ⟨e, hMem⟩

/-- Where there is no room for a new key, all that is stored under other keys lives. -/
theorem others_madeRoom_of_full (h : c.Proper) {k : K} {now : Nat}
    (hFull : c.capacity ≤ ((c.madeRoom k now).others k).length) :
    (c.madeRoom k now).others k = c.livingOthers k now := by
  have hOthers : ((c.madeRoom k now).others k).Sublist (c.others k) :=
    (c.madeRoom_sublist k now).filter _
  have hLength : c.capacity ≤ (c.others k).length := Nat.le_trans hFull hOthers.length_le
  have hNew : c.peek? k = none := by
    cases hEntry : c.peek? k with
    | none => rfl
    | some e => exact absurd (h.length_others_lt hEntry) (Nat.not_lt.2 hLength)
  have hPurge : c.madeRoom k now = c.purge now :=
    if_pos ⟨by simp [hNew], Nat.le_trans hLength (List.length_filter_le _ _)⟩
  rw [hPurge]
  rfl

/-- There is room for a key exactly where fewer live entries of other keys stand than the cache
holds. -/
theorem length_madeRoom_lt_iff (h : c.Proper) (k : K) (now : Nat) :
    ((c.madeRoom k now).others k).length < c.capacity ↔
      (c.livingOthers k now).length < c.capacity := by
  constructor
  · intro hRoom
    rw [← livingOthers_madeRoom, ← filter_others]
    exact Nat.lt_of_le_of_lt (List.length_filter_le _ _) hRoom
  · intro hLess
    by_contra hRoom
    rw [h.others_madeRoom_of_full (Nat.not_lt.1 hRoom)] at hRoom
    exact hRoom hLess

/-- What lives after a `put`: its entry, unless that is expired at once, and what is kept of the
live entries of other keys. -/
theorem living_put (h : c.Proper) (k : K) (v : V) (now : Nat) :
    (c.put k v now).living now =
      ([(k, entryAt c.ttl v now)].filter fun p => !p.2.isExpired now) ++
        trimmed c.capacity (c.livingOthers k now) := by
  rw [living, put_kept, ← List.singleton_append, List.filter_append]
  congr 1
  unfold trimmed
  by_cases hRoom : ((c.madeRoom k now).others k).length < c.capacity
  · rw [if_pos hRoom, if_pos ((h.length_madeRoom_lt_iff k now).1 hRoom), filter_others,
      livingOthers_madeRoom]
  · rw [if_neg hRoom, if_neg (hRoom ∘ (h.length_madeRoom_lt_iff k now).2),
      h.others_madeRoom_of_full (Nat.not_lt.1 hRoom)]
    refine List.filter_eq_self.2 fun p hp => ?_
    have hMem := List.mem_of_mem_filter (List.dropLast_subset _ hp)
    rw [(mem_living.1 hMem).2]
    rfl

/-- A `put` pushes an entry out exactly where as many live entries of other keys stand as the cache
holds. -/
theorem evictions_put (h : c.Proper) (k : K) (v : V) (now : Nat) :
    (c.put k v now).evictions = c.evictions +
      if (c.livingOthers k now).length < c.capacity then 0 else 1 := by
  have hCapacity : (c.madeRoom k now).capacity = c.capacity := by
    unfold madeRoom
    split <;> rfl
  have hEvictions : (c.madeRoom k now).evictions = c.evictions := by
    unfold madeRoom
    split <;> rfl
  rw [put_eq_push, push]
  simp only [← h.length_madeRoom_lt_iff k now, hCapacity]
  split <;> simp [hEvictions]

end Proper

end Tollgate.Cache
