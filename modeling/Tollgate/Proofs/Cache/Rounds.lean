import Mathlib.Data.Set.Defs
import Tollgate.Proofs.Cache.Eviction

/-!
A cache whose keys are asked for in turn, round after round, and stored where they are missed, all in
less time than an entry lives. If there is room for all keys, each is missed in the first round only.
Otherwise each key is pushed out before its turn comes again, so that nothing is ever found.
-/

namespace Tollgate.Cache

variable {K V : Type}

/-- Instants that a clock can show, any two of them less than a time to live apart. -/
def Brief (ttl : Nat) (times : Set Nat) : Prop :=
  ∀ t ∈ times, t ≤ lastInstant ∧ ∀ u ∈ times, u < t + ttl

/-- What is stored at one of these instants lives at all of them. -/
theorem Brief.isExpired_entryAt {ttl : Nat} {times : Set Nat} (h : Brief ttl times) (v : V)
    {t u : Nat} (ht : t ∈ times) (hu : u ∈ times) : (entryAt ttl v t).isExpired u = false := by
  have hLess := (h t ht).2 u hu
  rw [entryAt, isExpired_instantAfter v t ttl (h u hu).1, decide_eq_false_iff_not]
  omega

/-- The keys asked for by the first requests of so many keys in turn, the latest first. -/
def lastAsked (key : Nat → K) (count : Nat) : Nat → List K
  | 0 => []
  | n + 1 => key (n % count) :: lastAsked key count n

section LastAsked

variable {key : Nat → K} {count : Nat}

theorem length_lastAsked (n : Nat) : (lastAsked key count n).length = n := by
  induction n with
  | zero => rfl
  | succ n ih => rw [lastAsked, List.length_cons, ih]

theorem mem_take_lastAsked {k : K} {n w : Nat} :
    k ∈ (lastAsked key count n).take w ↔ ∃ j < n, n ≤ j + w ∧ key (j % count) = k := by
  induction n generalizing w with
  | zero => simp [lastAsked]
  | succ n ih =>
      cases w with
      | zero =>
          simp only [List.take_zero, List.not_mem_nil, false_iff, not_exists, not_and]
          intro j hj hw
          omega
      | succ w =>
          rw [lastAsked, List.take_succ_cons, List.mem_cons, ih]
          constructor
          · rintro (rfl | ⟨j, hj, hw, hKey⟩)
            · exact ⟨n, by omega, by omega, rfl⟩
            · exact ⟨j, by omega, by omega, hKey⟩
          · rintro ⟨j, hj, hw, hKey⟩
            by_cases hLast : j = n
            · exact Or.inl (hLast ▸ hKey.symm)
            · exact Or.inr ⟨j, by omega, by omega, hKey⟩

/-- Within less than a round no key has its turn twice. -/
theorem mod_ne_mod_of_lt {j n count : Nat} (hLess : j < n) (hRound : n < j + count) :
    j % count ≠ n % count := by
  intro hSame
  have hDvd : count ∣ n - j :=
    Nat.dvd_of_mod_eq_zero (Nat.sub_mod_eq_zero_of_mod_eq hSame.symm)
  have := Nat.le_of_dvd (by omega) hDvd
  omega

variable (hKey : ∀ i < count, ∀ j < count, key i = key j → i = j)
include hKey

/-- The key whose turn it is was not asked for in less than a round, nor ever in the first round. -/
theorem not_mem_take_lastAsked {n w : Nat} (hCount : 0 < count) (hWidth : w ≤ count)
    (hNew : w < count ∨ n < count) :
    key (n % count) ∉ (lastAsked key count n).take w := by
  rw [mem_take_lastAsked]
  rintro ⟨j, hj, hw, hSame⟩
  have hTurn := hKey _ (Nat.mod_lt j hCount) _ (Nat.mod_lt n hCount) hSame
  exact mod_ne_mod_of_lt hj (by omega) hTurn

theorem nodup_take_lastAsked (n : Nat) {w : Nat} (hWidth : w ≤ count) :
    ((lastAsked key count n).take w).Nodup := by
  induction n generalizing w with
  | zero => simp [lastAsked]
  | succ n ih =>
      cases w with
      | zero => simp
      | succ w =>
          rw [lastAsked, List.take_succ_cons, List.nodup_cons]
          exact ⟨not_mem_take_lastAsked hKey (by omega) (by omega) (by omega), ih (by omega)⟩

omit hKey in
/-- After a round the key whose turn it is was asked for a round ago. -/
theorem take_lastAsked_round {n : Nat} (hCount : 0 < count) (hRound : count ≤ n) :
    (lastAsked key count n).take count =
      (lastAsked key count n).take (count - 1) ++ [key (n % count)] := by
  have hAt {n d : Nat} (hd : d < n) :
      (lastAsked key count n)[d]? = some (key ((n - 1 - d) % count)) := by
    induction n generalizing d with
    | zero => omega
    | succ n ih =>
        cases d with
        | zero => simp [lastAsked]
        | succ d =>
            rw [lastAsked, List.getElem?_cons_succ, ih (by omega)]
            congr 3
            omega
  have hTake := List.take_add_one (l := lastAsked key count n) (i := count - 1)
  have hTurn : (n - 1 - (count - 1)) % count = n % count := by
    rw [show n - 1 - (count - 1) = n - count by omega, ← Nat.mod_eq_sub_mod hRound]
  rw [hAt (by omega), hTurn, Nat.sub_add_cancel hCount] at hTake
  exact hTake

end LastAsked

/-- How many of the first requests for so many keys in turn are loads. -/
def loadsInTurn (count capacity n : Nat) : Nat :=
  if count ≤ capacity then min n count else n

theorem loadsInTurn_le (count capacity n : Nat) : loadsInTurn count capacity n ≤ n := by
  rw [loadsInTurn]
  split <;> omega

/-- A cache after so many requests for so many keys in turn: it holds the keys asked for last, as
many as there are or as there is room for, in this order. Each load missed its key twice. -/
structure InTurn (times : Set Nat) (key : Nat → K) (value : K → V) (count ttl capacity n : Nat)
    (c : Cache K V) : Prop where
  ttl_eq : c.ttl = ttl
  capacity_eq : c.capacity = capacity
  keys_eq : c.keys = (lastAsked key count n).take (min count capacity)
  value_eq : ∀ p ∈ c.entries, p.2.value = value p.1
  lives : ∀ p ∈ c.entries, ∀ t ∈ times, p.2.isExpired t = false
  hits : c.hits = n - loadsInTurn count capacity n
  misses : c.misses = 2 * loadsInTurn count capacity n
  evictions : c.evictions = loadsInTurn count capacity n - capacity
  expirations : c.expirations = 0

namespace InTurn

variable {times : Set Nat} {key : Nat → K} {value : K → V} {count ttl capacity n : Nat}
  {c : Cache K V}

theorem empty (times : Set Nat) (key : Nat → K) (value : K → V) (count ttl capacity : Nat) :
    InTurn times key value count ttl (max capacity 1) 0 (Cache.empty ttl capacity) where
  ttl_eq := rfl
  capacity_eq := rfl
  keys_eq := List.take_nil.symm
  value_eq _ hp := by cases hp
  lives _ hp := by cases hp
  hits := by simp [Cache.empty]
  misses := by simp [Cache.empty, loadsInTurn]
  evictions := by simp [Cache.empty, loadsInTurn]
  expirations := rfl

/-- How many entries there are. -/
theorem size_eq (h : InTurn times key value count ttl capacity n c) :
    c.size = min (loadsInTurn count capacity n) capacity := by
  have hLength : c.size = c.keys.length := (List.length_map _).symm
  rw [hLength, h.keys_eq, List.length_take, length_lastAsked, loadsInTurn]
  split <;> omega

/-- The figures that the cache reports. -/
theorem stats_eq (h : InTurn times key value count ttl capacity n c) :
    c.stats = {
      hits := n - loadsInTurn count capacity n
      misses := 2 * loadsInTurn count capacity n
      evictions := loadsInTurn count capacity n - capacity
      expirations := 0
      size := min (loadsInTurn count capacity n) capacity
      capacity := capacity } := by
  rw [stats, h.hits, h.misses, h.evictions, h.expirations, h.size_eq, h.capacity_eq]

theorem proper (h : InTurn times key value count ttl capacity n c)
    (hKey : ∀ i < count, ∀ j < count, key i = key j → i = j) (hCapacity : 0 < capacity) :
    c.Proper where
  nodup := by
    rw [h.keys_eq]
    exact nodup_take_lastAsked hKey n (Nat.min_le_left _ _)
  size_le := by
    rw [h.size_eq, h.capacity_eq]
    exact Nat.min_le_right _ _
  pos := h.capacity_eq ▸ hCapacity

end InTurn

variable [DecidableEq K]

theorem map_fst_others (c : Cache K V) (k : K) :
    (c.others k).map Prod.fst = c.keys.filter (· ≠ k) := by
  rw [others, keys, List.filter_map]
  rfl

/-- What a `put` does does not depend on the misses. -/
theorem put_withMisses (c : Cache K V) (misses : Nat) (k : K) (v : V) (now : Nat) :
    Cache.put { c with misses } k v now = { c.put k v now with misses } := by
  have hRoom : Cache.madeRoom { c with misses } k now = { c.madeRoom k now with misses } := by
    by_cases hFull : (c.peek? k).isNone ∧ c.capacity ≤ c.size
    · exact (if_pos hFull).trans (by rw [madeRoom, if_pos hFull]; rfl)
    · exact (if_neg hFull).trans (by rw [madeRoom, if_neg hFull])
  rw [put_eq_push, put_eq_push, hRoom]
  generalize c.madeRoom k now = d
  by_cases hFits : (d.others k).length < d.capacity
  · rw [push_of_room hFits]
    exact push_of_room hFits
  · rw [push_of_no_room (Nat.not_lt.1 hFits)]
    exact push_of_no_room (Nat.not_lt.1 hFits)

/-- A load is one more. -/
theorem loadsInTurn_succ_of_new {count capacity n : Nat} (hNew : count ≤ capacity → n < count) :
    loadsInTurn count capacity (n + 1) = loadsInTurn count capacity n + 1 := by
  simp only [loadsInTurn]
  split <;> omega

/-- What is found is no load. -/
theorem loadsInTurn_succ_of_stored {count capacity n : Nat}
    (hStored : ¬(count ≤ capacity → n < count)) :
    loadsInTurn count capacity (n + 1) = loadsInTurn count capacity n := by
  simp only [loadsInTurn]
  split <;> omega

namespace InTurn

variable {times : Set Nat} {key : Nat → K} {value : K → V} {count ttl capacity n : Nat}
  {c : Cache K V} (hKey : ∀ i < count, ∀ j < count, key i = key j → i = j)

include hKey in
/-- The key whose turn it is is new in the first round, and ever if there is no room for all keys. -/
theorem peek?_eq_none_iff (h : InTurn times key value count ttl capacity n c)
    (hCount : 0 < count) :
    c.peek? (key (n % count)) = none ↔ (count ≤ capacity → n < count) := by
  have hMem : c.peek? (key (n % count)) = none ↔ key (n % count) ∉ c.keys := by
    rw [Cache.peek?_eq_none_iff, keys, List.mem_map, not_exists]
    exact forall_congr' fun p => not_and.symm
  rw [hMem, h.keys_eq]
  constructor
  · intro hNew hRoom
    by_contra hRound
    apply hNew
    rw [Nat.min_eq_left hRoom, take_lastAsked_round hCount (Nat.not_lt.1 hRound)]
    exact List.mem_append_right _ List.mem_cons_self
  · intro hFirst
    apply not_mem_take_lastAsked hKey hCount (Nat.min_le_left _ _)
    by_cases hRoom : count ≤ capacity
    · exact Or.inr (hFirst hRoom)
    · exact Or.inl (by omega)

include hKey in
theorem exists_stored (h : InTurn times key value count ttl capacity n c) (hCount : 0 < count)
    (hStored : ¬(count ≤ capacity → n < count)) : ∃ e, c.peek? (key (n % count)) = some e := by
  rw [← Option.ne_none_iff_exists', ne_eq, h.peek?_eq_none_iff hKey hCount]
  exact hStored

include hKey in
/-- A key that is stored is found at all times. -/
theorem live?_eq (h : InTurn times key value count ttl capacity n c) (hCount : 0 < count)
    (hStored : ¬(count ≤ capacity → n < count)) {t : Nat} (ht : t ∈ times) :
    c.live? (key (n % count)) t = some (value (key (n % count))) := by
  obtain ⟨e, hEntry⟩ := h.exists_stored hKey hCount hStored
  have hMem := mem_of_peek? hEntry
  exact live?_eq_some_iff.2 ⟨e, hEntry, h.lives _ hMem t ht, h.value_eq _ hMem⟩

include hKey in
/-- A request for a key that is stored makes it the latest again. -/
theorem found (h : InTurn times key value count ttl capacity n c) (hCount : 0 < count)
    (hStored : ¬(count ≤ capacity → n < count)) {t : Nat} (ht : t ∈ times) :
    InTurn times key value count ttl capacity (n + 1) (c.get (key (n % count)) t).2 := by
  obtain ⟨hRoom, hRound⟩ : count ≤ capacity ∧ count ≤ n := by omega
  obtain ⟨e, hEntry⟩ := h.exists_stored hKey hCount hStored
  have hMem := mem_of_peek? hEntry
  have hGet : (c.get (key (n % count)) t).2 = { c with
      entries := (key (n % count), e) :: c.others (key (n % count))
      hits := c.hits + 1 } := by
    simp [get, hEntry, h.lives _ hMem t ht]
  -- The key was the last but for the others, which keep their order.
  have hOthers : c.keys.filter (· ≠ key (n % count)) =
      (lastAsked key count n).take (count - 1) := by
    have hNotMem : key (n % count) ∉ (lastAsked key count n).take (count - 1) :=
      not_mem_take_lastAsked hKey hCount (by omega) (Or.inl (by omega))
    rw [h.keys_eq, Nat.min_eq_left hRoom, take_lastAsked_round hCount hRound,
      List.filter_append, List.filter_eq_self.2]
    · simp
    · intro k hk
      exact decide_eq_true (ne_of_mem_of_not_mem hk hNotMem)
  have hSub : ∀ p ∈ (key (n % count), e) :: c.others (key (n % count)), p ∈ c.entries := by
    intro p hp
    rcases List.mem_cons.1 hp with rfl | hp
    · exact hMem
    · exact (mem_others.1 hp).1
  have hLoads := loadsInTurn_succ_of_stored hStored
  have hFewer := loadsInTurn_le count capacity n
  rw [hGet]
  constructor
  case ttl_eq => exact h.ttl_eq
  case capacity_eq => exact h.capacity_eq
  case keys_eq =>
    have hKeys := map_fst_others c (key (n % count))
    obtain ⟨w, rfl⟩ : ∃ w, count = w + 1 := ⟨count - 1, by omega⟩
    rw [keys, List.map_cons, hKeys, hOthers, Nat.min_eq_left hRoom, lastAsked, List.take_succ_cons,
      Nat.add_sub_cancel]
  case value_eq => exact fun p hp => h.value_eq p (hSub p hp)
  case lives => exact fun p hp => h.lives p (hSub p hp)
  case hits =>
    show c.hits + 1 = _
    rw [h.hits, hLoads]
    omega
  case misses => rw [hLoads]; exact h.misses
  case evictions => rw [hLoads]; exact h.evictions
  case expirations => exact h.expirations

include hKey in
/-- To store a new key keeps the others that were asked for last. -/
theorem exists_kept (h : InTurn times key value count ttl capacity n c) (hCount : 0 < count)
    (hCapacity : 0 < capacity) (hNew : count ≤ capacity → n < count) (v : V) {t : Nat}
    (ht : t ∈ times) :
    ∃ kept : List (K × Entry V), kept.Sublist c.entries ∧
      kept.map Prod.fst = (lastAsked key count n).take (min count capacity - 1) ∧
      c.put (key (n % count)) v t = { c with
        entries := (key (n % count), entryAt ttl v t) :: kept
        evictions := loadsInTurn count capacity (n + 1) - capacity } := by
  have hNone := (h.peek?_eq_none_iff hKey hCount).2 hNew
  have hLoads := loadsInTurn_succ_of_new hNew
  have hSize := h.size_eq
  have hEvictions := h.evictions
  have hKeys : c.entries.map Prod.fst = _ := h.keys_eq
  by_cases hRoom : c.size < c.capacity
  · -- Not all keys that the cache has room for were asked for.
    refine ⟨c.entries, List.Sublist.refl _, ?_, ?_⟩
    · have hFew : n ≤ min count capacity - 1 := by
        rw [hSize, h.capacity_eq, loadsInTurn] at hRoom
        split at hRoom <;> omega
      rw [hKeys, List.take_of_length_le (by rw [length_lastAsked]; omega),
        List.take_of_length_le (by rw [length_lastAsked]; exact hFew)]
    · rw [(h.proper hKey hCapacity).put_of_spared v (Or.inr hRoom), others_of_new hNone, h.ttl_eq]
      congr 1
      rw [h.capacity_eq] at hRoom
      omega
  · have hFull : c.size = c.capacity :=
      Nat.le_antisymm (h.proper hKey hCapacity).size_le (Nat.not_lt.1 hRoom)
    refine ⟨c.entries.dropLast, List.dropLast_sublist _, ?_, ?_⟩
    · rw [List.map_dropLast, hKeys, List.dropLast_eq_take, List.take_take, List.length_take,
        length_lastAsked]
      congr 1
      rw [hSize, h.capacity_eq, loadsInTurn] at hFull
      split at hFull <;> omega
    · rw [put_of_living v hNone hFull fun p hp => by simp [h.lives p hp t ht], h.ttl_eq]
      congr 1
      rw [h.capacity_eq] at hFull
      omega

include hKey in
/-- A request for a new key misses it twice and stores it, if there is no room for it then in place
of the key that was asked for the longest ago. -/
theorem loaded (h : InTurn times key value count ttl capacity n c) (hBrief : Brief ttl times)
    (hCount : 0 < count) (hCapacity : 0 < capacity) (hNew : count ≤ capacity → n < count)
    (first second : Nat) {t : Nat} (ht : t ∈ times) :
    InTurn times key value count ttl capacity (n + 1)
      (((c.get (key (n % count)) first).2.get (key (n % count)) second).2.put (key (n % count))
        (value (key (n % count))) t) := by
  have hNone := (h.peek?_eq_none_iff hKey hCount).2 hNew
  have hMissed : ((c.get (key (n % count)) first).2.get (key (n % count)) second).2 =
      { c with misses := c.misses + 2 } := by
    rw [get_of_new hNone]
    exact congrArg Prod.snd (get_of_new (c := { c with misses := c.misses + 1 }) hNone second)
  have hLoads := loadsInTurn_succ_of_new hNew
  obtain ⟨kept, hKept, hKeys, hPut⟩ :=
    h.exists_kept hKey hCount hCapacity hNew (value (key (n % count))) ht
  have hFewer := loadsInTurn_le count capacity n
  rw [hMissed, put_withMisses, hPut]
  constructor
  case ttl_eq => exact h.ttl_eq
  case capacity_eq => exact h.capacity_eq
  case keys_eq =>
    obtain ⟨w, hWidth⟩ : ∃ w, min count capacity = w + 1 := ⟨min count capacity - 1, by omega⟩
    rw [keys, List.map_cons, hKeys, hWidth, lastAsked, List.take_succ_cons, Nat.add_sub_cancel]
  case value_eq =>
    intro p hp
    rcases List.mem_cons.1 hp with rfl | hp
    · rfl
    · exact h.value_eq p (hKept.subset hp)
  case lives =>
    intro p hp u hu
    rcases List.mem_cons.1 hp with rfl | hp
    · exact hBrief.isExpired_entryAt _ ht hu
    · exact h.lives p (hKept.subset hp) u hu
  case hits =>
    show c.hits = _
    rw [h.hits, hLoads]
    omega
  case misses =>
    show c.misses + 2 = _
    rw [h.misses, hLoads]
    omega
  case evictions => rfl
  case expirations => exact h.expirations

end InTurn

end Tollgate.Cache
