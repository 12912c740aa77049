import Mathlib.Data.List.Nodup
import Tollgate.Cache.Gate

/-!
Why one gate per key stays one gate. Everybody at a gate has a handle on the lock behind it, and a
key loses its lock only when no handle on it is left; so all who are at the gate of a key at any
time have the same lock, and nobody who came for another key has it.
-/

namespace Tollgate

variable {K T : Type}

namespace Gate

/-- Those at the gate, its holder first. -/
def members : Gate T → List T
  | free => []
  | held h ws => h :: ws

theorem holder?_eq_head? (g : Gate T) : g.holder? = g.members.head? := by
  cases g <;> rfl

theorem members_join (g : Gate T) (t : T) : (g.join t).members = g.members ++ [t] := by
  cases g <;> rfl

theorem members_pass (g : Gate T) : g.pass.members = g.members.tail := by
  cases g with
  | free => rfl
  | held h ws => cases ws <;> rfl

/-- To take the holder out of a queue is to drop its head. -/
theorem filter_ne_head [DecidableEq T] {t : T} {ws : List T} (hNodup : (t :: ws).Nodup) :
    (t :: ws).filter (· ≠ t) = ws := by
  have hWaiting : ∀ w ∈ ws, w ≠ t := fun w hw hEq => (List.nodup_cons.1 hNodup).1 (hEq ▸ hw)
  rw [List.filter_cons_of_neg (by simp)]
  exact List.filter_eq_self.2 fun w hw => decide_eq_true (hWaiting w hw)

theorem members_leave [DecidableEq T] {g : Gate T} (hNodup : g.members.Nodup) (t : T) :
    (g.leave t).members = g.members.filter (· ≠ t) := by
  cases g with
  | free => rfl
  | held h ws =>
      simp only [leave]
      split_ifs with hHolder
      · subst h
        rw [members_pass]
        exact (filter_ne_head hNodup).symm
      · rw [members, members, List.filter_cons_of_pos (by simpa using hHolder)]

end Gate

namespace Gates

/-- Those at a lock, its holder first. -/
def members (g : Gates K T) (l : LockId) : List T :=
  (g.lock l).right.members

theorem holder?_eq_head? (g : Gates K T) (l : LockId) : g.holder? l = (g.members l).head? :=
  Gate.holder?_eq_head? _

theorem lock_onLock_of_ne (g : Gates K T) {l l' : LockId} (h : l' ≠ l)
    (change : Lock T → Lock T) : (g.onLock l change).lock l' = g.lock l' := by
  unfold onLock lock
  simp only [List.getD_eq_getElem?_getD, List.getElem?_modify_ne change _ h.symm]

theorem lock_onLock {g : Gates K T} {l : LockId} (h : l < g.locks.length)
    (change : Lock T → Lock T) : (g.onLock l change).lock l = change (g.lock l) := by
  unfold onLock lock
  simp only [List.getD_eq_getElem?_getD, List.getElem?_modify_eq, List.getElem?_eq_getElem h]
  rfl

variable [DecidableEq K]

theorem lock_tidy (g : Gates K T) (k : K) (l : LockId) : (g.tidy k).lock l = g.lock l := by
  unfold tidy
  split
  · rfl
  · split <;> rfl

theorem lockOf_of_some {g : Gates K T} {k : K} {l : LockId} (h : g.table.get? k = some l) :
    g.lockOf k = (l, g) := by
  simp only [lockOf, h]

theorem lockOf_of_none {g : Gates K T} {k : K} (h : g.table.get? k = none) :
    g.lockOf k = (g.locks.length,
      { locks := g.locks ++ [{}], table := g.table.put k g.locks.length }) := by
  simp only [lockOf, h]

/-- A new lock is like the lock of a number that no lock has. -/
theorem lock_lockOf (g : Gates K T) (k : K) (l : LockId) : (g.lockOf k).2.lock l = g.lock l := by
  cases h : g.table.get? k with
  | some l' => rw [lockOf_of_some h]
  | none =>
      rw [lockOf_of_none h]
      unfold lock
      simp only [List.getD_eq_getElem?_getD, List.getElem?_append]
      split_ifs with hOld
      · rfl
      · rw [List.getElem?_eq_none (Nat.not_lt.1 hOld)]
        cases l - g.locks.length <;> rfl

theorem join_snd (g : Gates K T) (k : K) (t : T) :
    (g.join k t).2 = (g.lockOf k).2.onLock (g.lockOf k).1 fun lock =>
      { right := lock.right.join t, handles := lock.handles + 1 } :=
  rfl

/-- The key that is asked for has the lock that is joined, and others keep theirs. -/
theorem get?_join (g : Gates K T) (k : K) (t : T) (j : K) :
    (g.join k t).2.table.get? j =
      if j = k then some (g.join k t).1 else g.table.get? j := by
  change (g.lockOf k).2.table.get? j = if j = k then some (g.lockOf k).1 else g.table.get? j
  cases hTable : g.table.get? k with
  | none =>
      rw [lockOf_of_none hTable]
      exact Table.get?_put _ _ _ _
  | some l =>
      rw [lockOf_of_some hTable]
      split_ifs with hj
      · rw [hj, hTable]
      · rfl

/-- Letting go takes the lock from no key but one whose lock has no handle left. -/
theorem get?_release {g : Gates K T} {k j : K} {l l' : LockId}
    (h : (g.release k l).table.get? j = some l') :
    g.table.get? j = some l' ∧ (j = k → ((g.release k l).lock l').handles ≠ 0) := by
  rw [Gates.release, lock_tidy]
  revert h
  rw [Gates.release]
  generalize hChanged : g.onLock l _ = g'
  have hSame : g'.table = g.table := by rw [← hChanged]; rfl
  rw [← hSame]
  unfold tidy
  cases hTable : g'.table.get? k with
  | none =>
      intro h
      refine ⟨h, ?_⟩
      rintro rfl
      rw [hTable] at h
      cases h
  | some lock =>
      simp only
      split_ifs with hUnused
      · intro h
        rw [Table.get?_erase] at h
        split_ifs at h with hj
        exact ⟨h, fun hEq => absurd hEq hj⟩
      · intro h
        refine ⟨h, ?_⟩
        rintro rfl
        rw [hTable] at h
        cases h
        exact hUnused

/-- Whoever lets go of a lock takes no other lock from anybody. -/
theorem holder?_release (g : Gates K T) (k : K) {l l' : LockId} (hl : l' ≠ l) :
    (g.release k l).holder? l' = g.holder? l' := by
  rw [holder?, Gates.release, lock_tidy, lock_onLock_of_ne _ hl]
  rfl

/-- The gates are in order for those who have the places given by `places`: a key has the lock that
everybody at its gate has, those at a lock are in its queue, and its handles are theirs. -/
structure Serves (g : Gates K T) (places : T → Option (Pass K)) : Prop where
  shared : ∀ t p, places t = some p → g.table.get? p.key = some p.lock
  mem_members : ∀ l t, t ∈ g.members l ↔ ∃ k, places t = some ⟨k, l⟩
  nodup : ∀ l, (g.members l).Nodup
  handles : ∀ l, (g.lock l).handles = (g.members l).length
  injective : ∀ k k' l, g.table.get? k = some l → g.table.get? k' = some l → k = k'
  bounded : ∀ k l, g.table.get? k = some l → l < g.locks.length

namespace Serves

variable {g : Gates K T} {places : T → Option (Pass K)}

theorem empty : (({} : Gates K T)).Serves fun _ => none where
  shared _ _ h := by cases h
  mem_members l t := by simp [members, lock, Gate.members]
  nodup l := by simp [members, lock, Gate.members]
  handles l := by simp [members, lock, Gate.members]
  injective _ _ _ h := by cases h
  bounded _ _ h := by cases h

/-- Those at one gate have one lock. -/
theorem lock_eq_of_key_eq (h : g.Serves places) {t u : T} {p q : Pass K} (hp : places t = some p)
    (hq : places u = some q) (hKey : p.key = q.key) : p = q := by
  have hLock := h.shared t p hp
  rw [hKey, h.shared u q hq] at hLock
  cases p
  cases q
  cases hKey
  cases hLock
  rfl

/-- Those who have one lock are at one gate. -/
theorem key_eq_of_lock_eq (h : g.Serves places) {t u : T} {p q : Pass K} (hp : places t = some p)
    (hq : places u = some q) (hLock : p.lock = q.lock) : p = q :=
  h.lock_eq_of_key_eq hp hq
    (h.injective _ _ p.lock (h.shared t p hp) (hLock ▸ h.shared u q hq))

/-- What is done to one lock keeps the gates in order if it does to the queue of the lock what it
does to the places at it. -/
theorem onLock (h : g.Serves places) {l : LockId} (hLock : l < g.locks.length)
    {change : Lock T → Lock T} {places' : T → Option (Pass K)}
    (hShared : ∀ t p, places' t = some p → g.table.get? p.key = some p.lock)
    (hOthers : ∀ t k l', l' ≠ l → (places' t = some ⟨k, l'⟩ ↔ places t = some ⟨k, l'⟩))
    (hMembers : ∀ t, t ∈ (change (g.lock l)).right.members ↔ ∃ k, places' t = some ⟨k, l⟩)
    (hNodup : (change (g.lock l)).right.members.Nodup)
    (hHandles : (change (g.lock l)).handles = (change (g.lock l)).right.members.length) :
    (g.onLock l change).Serves places' where
  shared := hShared
  mem_members l' t := by
    by_cases hl : l' = l
    · subst l'
      rw [members, lock_onLock hLock]
      exact hMembers t
    · rw [members, lock_onLock_of_ne g hl]
      exact (h.mem_members l' t).trans (exists_congr fun k => (hOthers t k l' hl).symm)
  nodup l' := by
    by_cases hl : l' = l
    · subst l'
      rwa [members, lock_onLock hLock]
    · rw [members, lock_onLock_of_ne g hl]
      exact h.nodup l'
  handles l' := by
    by_cases hl : l' = l
    · subst l'
      rwa [members, lock_onLock hLock]
    · rw [members, lock_onLock_of_ne g hl]
      exact h.handles l'
  injective := h.injective
  bounded k l' hTable := by
    have hLength : (g.onLock l change).locks.length = g.locks.length := List.length_modify _ _ _
    rw [hLength]
    exact h.bounded k l' hTable

/-- Another table over the same locks is in order for the same places if it says the same of all
keys at whose gates anybody is. -/
theorem retable (h : g.Serves places) {g' : Gates K T} (hLock : ∀ l, g'.lock l = g.lock l)
    (hShared : ∀ t p, places t = some p → g'.table.get? p.key = some p.lock)
    (hInjective : ∀ k k' l, g'.table.get? k = some l → g'.table.get? k' = some l → k = k')
    (hBounded : ∀ k l, g'.table.get? k = some l → l < g'.locks.length) : g'.Serves places where
  shared := hShared
  mem_members l t := by
    rw [members, hLock]
    exact h.mem_members l t
  nodup l := by
    rw [members, hLock]
    exact h.nodup l
  handles l := by
    rw [members, hLock]
    exact h.handles l
  injective := hInjective
  bounded := hBounded

/-- A key without a lock gets one that no key has. -/
theorem newLock (h : g.Serves places) {k : K} (hNone : g.table.get? k = none) :
    (g.lockOf k).2.Serves places := by
  have hGet : ∀ j, (g.lockOf k).2.table.get? j =
      if j = k then some g.locks.length else g.table.get? j := by
    intro j
    rw [lockOf_of_none hNone]
    exact Table.get?_put _ _ _ _
  refine h.retable (lock_lockOf g k) ?_ ?_ ?_
  · intro t p hp
    have hShared := h.shared t p hp
    have hKey : p.key ≠ k := by
      intro hEq
      rw [hEq, hNone] at hShared
      cases hShared
    rwa [hGet, if_neg hKey]
  · intro j j' l hj hj'
    rw [hGet] at hj hj'
    -- The number of the new lock is in the old table under no key.
    split_ifs at hj hj' with hKey hKey' hKey'
    · rw [hKey, hKey']
    · cases hj
      exact absurd (h.bounded j' _ hj') (Nat.lt_irrefl _)
    · cases hj'
      exact absurd (h.bounded j _ hj) (Nat.lt_irrefl _)
    · exact h.injective j j' l hj hj'
  · intro j l hj
    rw [hGet] at hj
    rw [lockOf_of_none hNone, List.length_append, List.length_singleton]
    split_ifs at hj
    · cases hj
      exact Nat.lt_succ_self _
    · exact Nat.lt_succ_of_lt (h.bounded j l hj)

theorem lockOf (h : g.Serves places) (k : K) :
    (g.lockOf k).2.Serves places ∧ (g.lockOf k).2.table.get? k = some (g.lockOf k).1 := by
  cases hTable : g.table.get? k with
  | some l =>
      rw [lockOf_of_some hTable]
      exact ⟨h, hTable⟩
  | none =>
      refine ⟨h.newLock hTable, ?_⟩
      rw [lockOf_of_none hTable, Table.get?_put, if_pos rfl]

/-- Nobody is at the gate of a key whose lock has no handle left. -/
theorem key_ne_of_unused (h : g.Serves places) {k : K} {l : LockId}
    (hTable : g.table.get? k = some l) (hUnused : (g.lock l).handles = 0) {t : T} {p : Pass K}
    (hp : places t = some p) : p.key ≠ k := by
  intro hKey
  have hShared := h.shared t p hp
  rw [hKey, hTable] at hShared
  cases hShared
  have hMem : t ∈ g.members p.lock := (h.mem_members _ t).2 ⟨p.key, hp⟩
  rw [h.handles, List.length_eq_zero_iff] at hUnused
  rw [hUnused] at hMem
  cases hMem

/-- A key may lose its lock if no handle on the lock is left. -/
theorem tidy (h : g.Serves places) (k : K) : (g.tidy k).Serves places := by
  cases hTable : g.table.get? k with
  | none =>
      have hTidy : g.tidy k = g := by simp only [Gates.tidy, hTable]
      rwa [hTidy]
  | some l =>
      by_cases hUnused : (g.lock l).handles = 0
      · have hTidy : g.tidy k = { g with table := g.table.erase k } := by
          simp only [Gates.tidy, hTable, if_pos hUnused]
        rw [hTidy]
        refine h.retable (fun _ => rfl) ?_ ?_ ?_
        · intro t p hp
          rw [Table.get?_erase, if_neg (h.key_ne_of_unused hTable hUnused hp)]
          exact h.shared t p hp
        · intro j j' l' hj hj'
          rw [Table.get?_erase] at hj hj'
          split_ifs at hj hj'
          exact h.injective j j' l' hj hj'
        · intro j l' hj
          rw [Table.get?_erase] at hj
          split_ifs at hj
          exact h.bounded j l' hj
      · have hTidy : g.tidy k = g := by simp only [Gates.tidy, hTable, if_neg hUnused]
        rwa [hTidy]

variable [DecidableEq T]

/-- Whoever asks for a gate is put last in the queue of its lock. -/
theorem join (h : g.Serves places) (k : K) {t : T} (hPlace : places t = none) :
    (g.join k t).2.Serves (Function.update places t (some ⟨k, (g.join k t).1⟩)) := by
  obtain ⟨hOf, hTable⟩ := h.lockOf k
  have hFresh : t ∉ (g.lockOf k).2.members (g.lockOf k).1 := by
    rw [hOf.mem_members]
    rintro ⟨k', hSome⟩
    rw [hPlace] at hSome
    cases hSome
  refine hOf.onLock (hOf.bounded k _ hTable) ?_ ?_ ?_ ?_ ?_
  · intro u p hp
    by_cases hu : u = t
    · subst u
      rw [Function.update_self] at hp
      cases hp
      exact hTable
    · rw [Function.update_of_ne hu] at hp
      exact hOf.shared u p hp
  · intro u k' l' hl
    by_cases hu : u = t
    · subst u
      rw [Function.update_self, hPlace]
      refine ⟨fun hSome => ?_, nofun⟩
      cases hSome
      exact absurd rfl hl
    · rw [Function.update_of_ne hu]
  · intro u
    rw [Gate.members_join, List.mem_append, List.mem_singleton]
    by_cases hu : u = t
    · subst u
      rw [Function.update_self]
      exact ⟨fun _ => ⟨k, rfl⟩, fun _ => Or.inr rfl⟩
    · rw [Function.update_of_ne hu, ← hOf.mem_members]
      exact or_iff_left hu
  · rw [Gate.members_join, ← List.concat_eq_append]
    exact (hOf.nodup _).concat hFresh
  · rw [Gate.members_join, List.length_append, List.length_singleton]
    exact congrArg (· + 1) (hOf.handles _)

/-- Whoever has a place at a lock may leave it, in whatever way its place in the queue is given up.
-/
theorem withdraw (h : g.Serves places) {t : T} {p : Pass K} (hPlace : places t = some p)
    {change : Lock T → Lock T}
    (hMembers : (change (g.lock p.lock)).right.members = (g.members p.lock).filter (· ≠ t))
    (hHandles : (change (g.lock p.lock)).handles = (g.lock p.lock).handles - 1) :
    (g.onLock p.lock change).Serves (Function.update places t none) := by
  have hMem : t ∈ g.members p.lock := (h.mem_members p.lock t).2 ⟨p.key, hPlace⟩
  refine h.onLock (h.bounded p.key _ (h.shared t p hPlace)) ?_ ?_ ?_ ?_ ?_
  · intro u q hq
    by_cases hu : u = t
    · subst u
      rw [Function.update_self] at hq
      cases hq
    · rw [Function.update_of_ne hu] at hq
      exact h.shared u q hq
  · intro u k l hl
    by_cases hu : u = t
    · subst u
      rw [Function.update_self, hPlace]
      refine ⟨nofun, fun hSome => ?_⟩
      cases hSome
      exact absurd rfl hl
    · rw [Function.update_of_ne hu]
  · intro u
    rw [hMembers, List.mem_filter, decide_eq_true_iff]
    by_cases hu : u = t
    · subst u
      rw [Function.update_self]
      exact ⟨fun hOut => absurd rfl hOut.2, fun ⟨_, hSome⟩ => by cases hSome⟩
    · rw [Function.update_of_ne hu, ← h.mem_members]
      exact and_iff_left hu
  · rw [hMembers]
    exact (h.nodup _).filter _
  · have hErase : (g.members p.lock).erase t = (g.members p.lock).filter (· ≠ t) := by
      rw [(h.nodup _).erase_eq_filter]
      exact List.filter_congr fun u _ => by by_cases hu : u = t <;> simp [hu]
    rw [hMembers, hHandles, h.handles, ← hErase, List.length_erase_of_mem hMem]

theorem abandon (h : g.Serves places) {t : T} {p : Pass K} (hPlace : places t = some p) :
    (g.abandon p.lock t).Serves (Function.update places t none) :=
  h.withdraw hPlace (Gate.members_leave (h.nodup _) t) rfl

/-- To hand a lock on is to take its holder out of the queue. -/
theorem members_pass (h : g.Serves places) {t : T} {l : LockId} (hHolder : g.holder? l = some t) :
    (g.lock l).right.pass.members = (g.members l).filter (· ≠ t) := by
  rw [holder?_eq_head?] at hHolder
  obtain ⟨ws, hMembers⟩ := List.head?_eq_some_iff.1 hHolder
  have hNodup := h.nodup l
  rw [hMembers] at hNodup ⊢
  rw [Gate.filter_ne_head hNodup, Gate.members_pass]
  exact congrArg List.tail hMembers

theorem release (h : g.Serves places) {t : T} {p : Pass K} (hPlace : places t = some p)
    (hHolder : g.holder? p.lock = some t) :
    (g.release p.key p.lock).Serves (Function.update places t none) :=
  (h.withdraw hPlace (h.members_pass hHolder) rfl).tidy p.key

/-- Whoever gives its place up leaves all queues, of which it was in one. -/
theorem members_withdraw (h : g.Serves places) {t : T} {p : Pass K} (hPlace : places t = some p)
    {change : Lock T → Lock T}
    (hMembers : (change (g.lock p.lock)).right.members = (g.members p.lock).filter (· ≠ t))
    (l : LockId) : (g.onLock p.lock change).members l = (g.members l).filter (· ≠ t) := by
  by_cases hl : l = p.lock
  · subst l
    rw [members, lock_onLock (h.bounded p.key _ (h.shared t p hPlace)), hMembers]
  · rw [members, lock_onLock_of_ne _ hl]
    refine (List.filter_eq_self.2 fun u hu => decide_eq_true ?_).symm
    rintro rfl
    obtain ⟨k, hSome⟩ := (h.mem_members l u).1 hu
    rw [hPlace] at hSome
    cases hSome
    exact hl rfl

theorem members_abandon (h : g.Serves places) {t : T} {p : Pass K} (hPlace : places t = some p)
    (l : LockId) : (g.abandon p.lock t).members l = (g.members l).filter (· ≠ t) :=
  h.members_withdraw hPlace (Gate.members_leave (h.nodup _) t) l

theorem members_release (h : g.Serves places) {t : T} {p : Pass K} (hPlace : places t = some p)
    (hHolder : g.holder? p.lock = some t) (l : LockId) :
    (g.release p.key p.lock).members l = (g.members l).filter (· ≠ t) := by
  rw [members, Gates.release, lock_tidy]
  exact h.members_withdraw hPlace (h.members_pass hHolder) l

omit [DecidableEq T] in
/-- Whoever asks is last in one queue and in no other. -/
theorem members_join (h : g.Serves places) (k : K) (t : T) (l : LockId) :
    (g.join k t).2.members l =
      if l = (g.join k t).1 then g.members l ++ [t] else g.members l := by
  obtain ⟨hOf, hTable⟩ := h.lockOf k
  have hFst : (g.join k t).1 = (g.lockOf k).1 := rfl
  rw [hFst, join_snd, members, members, ← lock_lockOf g k]
  by_cases hl : l = (g.lockOf k).1
  · subst l
    rw [if_pos rfl, lock_onLock (hOf.bounded k _ hTable), Gate.members_join]
  · rw [if_neg hl, lock_onLock_of_ne _ hl]

omit [DecidableEq T] in
/-- Whoever asks for a gate takes it from nobody. -/
theorem holder?_join (h : g.Serves places) (k : K) (t : T) {l : LockId} {u : T}
    (hHolder : g.holder? l = some u) : (g.join k t).2.holder? l = some u := by
  obtain ⟨hOf, hTable⟩ := h.lockOf k
  rw [holder?, ← lock_lockOf g k] at hHolder
  by_cases hl : l = (g.lockOf k).1
  · subst l
    rw [Gate.holder?_eq_head?] at hHolder
    obtain ⟨ws, hMembers⟩ := List.head?_eq_some_iff.1 hHolder
    rw [join_snd, holder?, lock_onLock (hOf.bounded k _ hTable), Gate.holder?_eq_head?,
      Gate.members_join, hMembers]
    rfl
  · rw [join_snd, holder?, lock_onLock_of_ne _ hl]
    exact hHolder

/-- Whoever gives a place up takes the gate from nobody else. -/
theorem holder?_abandon (h : g.Serves places) {t : T} {p : Pass K} (hPlace : places t = some p)
    {l : LockId} {u : T} (hu : u ≠ t) (hHolder : g.holder? l = some u) :
    (g.abandon p.lock t).holder? l = some u := by
  by_cases hl : l = p.lock
  · subst l
    have hBounded := h.bounded p.key _ (h.shared t p hPlace)
    rw [holder?_eq_head?] at hHolder
    obtain ⟨ws, hMembers⟩ := List.head?_eq_some_iff.1 hHolder
    rw [holder?, Gates.abandon, lock_onLock hBounded, Gate.holder?_eq_head?,
      Gate.members_leave (h.nodup _)]
    rw [members] at hMembers
    rw [hMembers, List.filter_cons_of_pos (by simpa using hu)]
    rfl
  · rw [holder?, Gates.abandon, lock_onLock_of_ne _ hl]
    exact hHolder

end Serves

end Gates

end Tollgate
