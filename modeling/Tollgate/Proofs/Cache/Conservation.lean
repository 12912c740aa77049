import Tollgate.Proofs.Cache.History
import Tollgate.Proofs.Cache.Living

/-!
Where the entries of a cache come from and where they go. Each entry that came in with a new key is
still stored, or it was pushed out, found expired, removed or cleared, and whatever happens to it is
counted once. In the same way each lookup counts as a hit or as a miss. The balance is kept by every
operation, and so by the runs of loaders at any depth.
-/

namespace Tollgate.Cache

variable {K V : Type}

/-- What goes into a cache and out of it on the ways that it keeps no count of, and how often it is
looked up: the values stored under keys that had none, the entries that removals took out, expired
ones included, those that were cleared, and the lookups, those of loads included. -/
structure Flow where
  entered : Nat := 0
  removed : Nat := 0
  cleared : Nat := 0
  lookups : Nat := 0
deriving DecidableEq, Repr

/-- Nothing, and no lookup. -/
instance : Zero Flow := ⟨{}⟩

/-- What goes in and out one after the other. -/
instance : Add Flow where
  add m n :=
    { entered := m.entered + n.entered
      removed := m.removed + n.removed
      cleared := m.cleared + n.cleared
      lookups := m.lookups + n.lookups }

namespace Flow

@[simp]
theorem entered_add (m n : Flow) : (m + n).entered = m.entered + n.entered := rfl

@[simp]
theorem removed_add (m n : Flow) : (m + n).removed = m.removed + n.removed := rfl

@[simp]
theorem cleared_add (m n : Flow) : (m + n).cleared = m.cleared + n.cleared := rfl

@[simp]
theorem lookups_add (m n : Flow) : (m + n).lookups = m.lookups + n.lookups := rfl

theorem zero_add (n : Flow) : 0 + n = n := by
  obtain ⟨entered, removed, cleared, lookups⟩ := n
  show Flow.mk (0 + entered) (0 + removed) (0 + cleared) (0 + lookups) = _
  simp only [Nat.zero_add]

/-- One lookup. -/
def lookup : Flow where
  lookups := 1

variable [DecidableEq K]

/-- A value goes in unless it takes the place of another. -/
def put (c : Cache K V) (k : K) : Flow where
  entered := if (c.peek? k).isSome then 0 else 1

/-- The entry of a key goes out, if there is one. -/
def remove (c : Cache K V) (k : K) : Flow where
  removed := if (c.peek? k).isSome then 1 else 0

end Flow

namespace Session

variable [DecidableEq K]

mutual

/-- What an operation makes go in and out, with all that the loader of a load does. -/
def flow : Op K V → Session K V → Flow
  | .put k _, s => .put s.cache k
  | .get _, _ => .lookup
  | .remove k, s => .remove s.cache k
  | .clear, s => { cleared := s.cache.size }
  | .contains _, _ | .age _, _ | .purge, _ | .isEmpty, _ | .info, _ | .advance _, _ => 0
  | .load k loader result, s =>
    match s.cache.get k s.clock.now with
    | (some _, _) => .lookup
    | (none, c) =>
      let s := { s with cache := c }
      let loaded := .lookup + flowAll loader s
      match result with
      | none => loaded
      | some _ => loaded + .put (run loader s).2.cache k

/-- What operations make go in and out. -/
def flowAll : List (Op K V) → Session K V → Flow
  | [], _ => 0
  | op :: ops, s => flow op s + flowAll ops (step op s).2

end

end Session

/-- All that goes into a cache is stored, or goes out on one of its ways, and every lookup is counted
once. -/
structure Balances (c d : Cache K V) (n : Flow) : Prop where
  entries : n.entered + (c.size + c.evictions + c.expirations) =
    d.size + d.evictions + d.expirations + n.removed + n.cleared
  lookups : c.hits + c.misses + n.lookups = d.hits + d.misses

namespace Balances

variable {c d e : Cache K V} {m n : Flow}

theorem refl (c : Cache K V) : Balances c c 0 where
  entries := Nat.zero_add _
  lookups := rfl

theorem trans (first : Balances c d m) (second : Balances d e n) : Balances c e (m + n) where
  entries := by
    have hFirst := first.entries
    have hSecond := second.entries
    simp only [Flow.entered_add, Flow.removed_add, Flow.cleared_add]
    omega
  lookups := by
    rw [Flow.lookups_add, ← Nat.add_assoc, first.lookups, second.lookups]

end Balances

/-- A purge counts what it drops. -/
theorem balances_purge (c : Cache K V) (now : Nat) : Balances c (c.purge now) 0 where
  entries := by
    have hLength := List.length_eq_countP_add_countP (fun p : K × Entry V => p.2.isExpired now)
      (l := c.entries)
    have hSize : (c.purge now).size = c.entries.countP fun p => !p.2.isExpired now :=
      List.countP_eq_length_filter.symm
    have hExpirations : (c.purge now).expirations =
        c.expirations + c.entries.countP fun p => p.2.isExpired now := rfl
    have hEvictions : (c.purge now).evictions = c.evictions := rfl
    have hBefore : c.size = c.entries.length := rfl
    simp only [Bool.not_eq_true, Bool.decide_eq_false] at hLength
    show 0 + _ = _ + 0 + 0
    omega
  lookups := rfl

theorem balances_clear (c : Cache K V) : Balances c c.clear { cleared := c.size } where
  entries := by
    show 0 + (c.size + c.evictions + c.expirations) = 0 + c.evictions + c.expirations + 0 + c.size
    omega
  lookups := rfl

variable [DecidableEq K]

/-- A key is stored at most once. -/
theorem Proper.count_keys {c : Cache K V} (h : c.Proper) (k : K) :
    c.keys.count k = if (c.peek? k).isSome then 1 else 0 := by
  cases hEntry : c.peek? k with
  | none =>
      refine List.count_eq_zero.2 fun hKey => ?_
      obtain ⟨p, hp, rfl⟩ := List.mem_map.1 hKey
      exact peek?_eq_none_iff.1 hEntry p hp rfl
  | some e =>
      have hKey : k ∈ c.keys := List.mem_map_of_mem (f := Prod.fst) (mem_of_peek? hEntry)
      exact List.count_eq_one_of_mem h.nodup hKey

/-- Without the entry of a key, if it is stored, there is one entry less. -/
theorem Proper.length_others {c : Cache K V} (h : c.Proper) (k : K) :
    (c.others k).length + (if (c.peek? k).isSome then 1 else 0) = c.size := by
  have hLength := List.length_eq_countP_add_countP (fun p : K × Entry V => decide (p.1 = k))
    (l := c.entries)
  have hOthers : (c.others k).length = c.entries.countP fun p => !decide (p.1 = k) := by
    rw [others, ← List.countP_eq_length_filter]
    simp only [ne_eq, decide_not]
  have hKey : c.entries.countP (fun p => decide (p.1 = k)) = c.keys.count k := by
    rw [keys, List.count, List.countP_map]
    rfl
  rw [h.count_keys] at hKey
  simp only [Bool.not_eq_true, Bool.decide_eq_false] at hLength
  rw [hOthers, ← hKey, size]
  omega

theorem Proper.balances_remove {c : Cache K V} (h : c.Proper) (k : K) (now : Nat) :
    Balances c (c.remove k now).2 (.remove c k) where
  entries := by
    have hLength := h.length_others k
    show 0 + (c.size + c.evictions + c.expirations) =
      (c.others k).length + c.evictions + c.expirations +
        (if (c.peek? k).isSome then 1 else 0) + 0
    omega
  lookups := rfl

/-- A lookup is a hit or a miss, and drops no entry but one that it finds expired. -/
theorem Proper.balances_get {c : Cache K V} (h : c.Proper) (k : K) (now : Nat) :
    Balances c (c.get k now).2 .lookup where
  entries := by
    have hLength := h.length_others k
    show 0 + (c.size + c.evictions + c.expirations) =
      (c.get k now).2.size + (c.get k now).2.evictions + (c.get k now).2.expirations + 0 + 0
    rw [evictions_get]
    unfold Cache.get
    cases hEntry : c.peek? k with
    | none =>
        show _ = c.size + c.evictions + c.expirations + 0 + 0
        omega
    | some e =>
        simp only [hEntry, Option.isSome_some, if_true] at hLength ⊢
        split_ifs
        · show _ = (c.others k).length + c.evictions + (c.expirations + 1) + 0 + 0
          omega
        · show _ = ((c.others k).length + 1) + c.evictions + c.expirations + 0 + 0
          omega
  lookups := by
    rw [hits_get, misses_get]
    show c.hits + c.misses + 1 = _
    split <;> omega

/-- An entry that is put in front goes in, and if there is no room for it, another is pushed out. -/
theorem Proper.balances_push {c : Cache K V} (h : c.Proper) (k : K) (e : Entry V) :
    Balances c (c.push k e) (.put c k) where
  entries := by
    have hLength := h.length_others k
    have hPos := h.pos
    have hEntered : (Flow.put c k).entered + (if (c.peek? k).isSome then 1 else 0) = 1 := by
      unfold Flow.put
      split <;> rfl
    show _ = (c.push k e).size + (c.push k e).evictions + (c.push k e).expirations + 0 + 0
    unfold push
    by_cases hRoom : (c.others k).length < c.capacity
    · simp only [hRoom, if_true]
      show _ = ((c.others k).length + 1) + c.evictions + c.expirations + 0 + 0
      omega
    · simp only [hRoom, if_false]
      show _ = ((c.others k).dropLast.length + 1) + (c.evictions + 1) + c.expirations + 0 + 0
      rw [List.length_dropLast]
      omega
  lookups := by
    unfold push
    simp only
    split <;> rfl

/-- To make room for a new key counts what is dropped, and does not bring the key in. -/
theorem Proper.balances_madeRoom {c : Cache K V} (h : c.Proper) (k : K) (now : Nat) :
    (c.madeRoom k now).Proper ∧ Balances c (c.madeRoom k now) 0 ∧
      Flow.put (c.madeRoom k now) k = .put c k := by
  unfold madeRoom
  split
  · next hNew =>
      refine ⟨h.purge now, balances_purge c now, ?_⟩
      have hNone : c.peek? k = none := Option.isNone_iff_eq_none.1 hNew.1
      have hStill : (c.purge now).peek? k = none :=
        peek?_eq_none_iff.2 fun p hp =>
          peek?_eq_none_iff.1 hNone p (List.mem_of_mem_filter hp)
      unfold Flow.put
      rw [hNone, hStill]
  · exact ⟨h, .refl c, rfl⟩

theorem Proper.balances_put {c : Cache K V} (h : c.Proper) (k : K) (v : V) (now : Nat) :
    Balances c (c.put k v now) (.put c k) := by
  obtain ⟨hProper, hRoom, hFlow⟩ := h.balances_madeRoom k now
  have hPush := hRoom.trans (hProper.balances_push k (entryAt c.ttl v now))
  rwa [← put_eq_push, hFlow, Flow.zero_add] at hPush

namespace Session

mutual

/-- Every operation keeps the balance, whatever a loader does in the midst of it. -/
theorem balances_step (op : Op K V) {s : Session K V} (h : s.cache.Proper) :
    (step op s).2.cache.Proper ∧ Balances s.cache (step op s).2.cache (flow op s) := by
  cases op with
  | put k v => exact ⟨h.put k v _, h.balances_put k v _⟩
  | get k => exact ⟨h.get k _, h.balances_get k _⟩
  | remove k => exact ⟨h.remove k s.clock.now, h.balances_remove k s.clock.now⟩
  | clear => exact ⟨h.clear, balances_clear _⟩
  | purge => exact ⟨h.purge _, balances_purge _ _⟩
  | contains | age | isEmpty | info | advance => exact ⟨h, .refl _⟩
  | load k loader result =>
      have hProper := h.get k s.clock.now
      have hGet := h.balances_get k s.clock.now
      simp only [step, flow]
      cases hFound : s.cache.get k s.clock.now with
      | mk v c =>
          rw [hFound] at hProper hGet
          cases v with
          | some v => exact ⟨hProper, hGet⟩
          | none =>
              obtain ⟨hLoader, hRun⟩ := balances_run loader (s := { s with cache := c }) hProper
              cases result with
              | none => exact ⟨hLoader, hGet.trans hRun⟩
              | some v =>
                  exact ⟨hLoader.put k v _, (hGet.trans hRun).trans (hLoader.balances_put k v _)⟩

theorem balances_run (ops : List (Op K V)) {s : Session K V} (h : s.cache.Proper) :
    (run ops s).2.cache.Proper ∧ Balances s.cache (run ops s).2.cache (flowAll ops s) := by
  cases ops with
  | nil => exact ⟨h, .refl _⟩
  | cons op ops =>
      obtain ⟨hProper, hStep⟩ := balances_step op h
      obtain ⟨hEnd, hRun⟩ := balances_run ops hProper
      exact ⟨hEnd, hStep.trans hRun⟩

end

end Session

/-- Conservation over every run of an empty cache. The values that went in under new keys are those
that are stored, pushed out, found expired, removed or cleared; and the lookups, those of loads
included, are the hits and the misses. -/
theorem entries_conserved (ttl capacity : Nat) (clock : Clock) (ops : List (Op K V)) :
    let start : Session K V := .opening ttl capacity clock
    let figures := (Session.run ops start).2.cache.stats
    let moved := Session.flowAll ops start
    moved.entered = figures.size + figures.evictions + figures.expirations + moved.removed +
        moved.cleared ∧
      figures.hits + figures.misses = moved.lookups := by
  intro start figures moved
  obtain ⟨_, hBalance⟩ := Session.balances_run ops (s := start) (.empty ttl capacity)
  refine ⟨?_, ?_⟩
  · exact hBalance.entries
  · exact hBalance.lookups.symm.trans (Nat.zero_add _)

-- Four values go in: one is pushed out and one found expired within the loader, one is removed after
-- its time was up, and one is still there.
example :
    let ops : List (Op Nat Nat) :=
      [.put 1 5, .put 2 5, .load 3 [.put 4 5, .advance 10, .get 4] (some 7), .remove 2]
    Session.flowAll ops (.opening 10 2 {}) = { entered := 4, removed := 1, lookups := 2 } ∧
      (Session.run ops (.opening 10 2 {})).2.cache.stats = ⟨0, 2, 1, 1, 1, 2⟩ :=
  ⟨rfl, rfl⟩

end Tollgate.Cache
