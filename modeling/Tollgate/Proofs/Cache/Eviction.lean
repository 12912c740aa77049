import Tollgate.Proofs.Cache.Conservation

/-!
What gives way to a value that is put. Nothing does if its key is stored or there is room for it.
Otherwise what has expired goes; and only where all that is stored lives does one entry go that
lives, the one whose key was last put or hit the longest ago.
-/

namespace Tollgate.Cache

variable {K V : Type}

/-- Where nothing has expired there is nothing to purge. -/
theorem purge_of_living {c : Cache K V} {now : Nat}
    (h : ∀ p ∈ c.entries, !p.2.isExpired now) : c.purge now = c := by
  have hEntries : c.entries.filter (fun p => !p.2.isExpired now) = c.entries :=
    List.filter_eq_self.2 h
  have hNone : c.entries.countP (fun p => p.2.isExpired now) = 0 := by
    apply List.countP_eq_zero.2
    intro p hp
    simpa using h p hp
  rw [purge, hEntries, hNone, Nat.add_zero]

variable [DecidableEq K]

/-- Whether a mark is that of a put or a hit of a key. -/
def Mark.uses (k : K) : Mark K V → Bool
  | .put j _ _ | .hit j => j = k
  | .remove _ | .clear => false

/-- How many marks ago a key was last put or hit. -/
def sinceUse (k : K) (marks : List (Mark K V)) : Nat :=
  marks.findIdx (Mark.uses k)

theorem sinceUse_cons (k : K) (m : Mark K V) (marks : List (Mark K V)) :
    sinceUse k (m :: marks) = if m.uses k then 0 else sinceUse k marks + 1 := by
  rw [sinceUse, List.findIdx_cons, sinceUse]
  cases m.uses k <;> rfl

/-- What was in use since a key last was, was so the shorter time ago. -/
theorem sinceUse_lt_of_touchedSince {j k : K} {marks : List (Mark K V)}
    (h : j ∈ touchedSince k marks) : sinceUse j marks < sinceUse k marks := by
  induction marks with
  | nil => simp [touchedSince] at h
  | cons m marks ih =>
      cases m with
      | put i _ _ | hit i =>
          rw [touchedSince] at h
          split_ifs at h with hKey
          · simp at h
          · simp only [sinceUse_cons, Mark.uses, hKey, decide_false, Bool.false_eq_true, if_false,
              decide_eq_true_eq]
            rcases Finset.mem_insert.1 h with rfl | h
            · simp
            · have hLess := ih h
              split <;> omega
      | remove i | clear =>
          have hLess := ih h
          simp only [sinceUse_cons, Mark.uses, Bool.false_eq_true, if_false]
          omega

/-- The entries stand in the order in which their keys were last put or hit, the latest first. -/
theorem Explained.inOrderOfUse {ttl capacity now : Nat} {c : Cache K V} {marks : List (Mark K V)}
    (h : Explained ttl capacity c now marks) :
    c.entries.Pairwise fun p q => sinceUse p.1 marks < sinceUse q.1 marks :=
  h.ordered.imp sinceUse_lt_of_touchedSince

variable {c : Cache K V} {k : K} {now : Nat}

/-- Without a key that is not stored all entries are there. -/
theorem others_of_new (h : c.peek? k = none) : c.others k = c.entries := by
  apply List.filter_eq_self.2
  intro p hp
  simpa using peek?_eq_none_iff.1 h p hp

/-- The entries behind one that is put in front are those of all other keys. -/
theorem others_front {e : Entry V} {kept : List (K × Entry V)} (hKept : kept.Sublist (c.others k))
    {c' : Cache K V} (hEntries : c'.entries = (k, e) :: kept) : c'.others k = kept := by
  rw [others, hEntries, List.filter_cons_of_neg (by simp)]
  apply List.filter_eq_self.2
  intro p hp
  simpa using (mem_others.1 (hKept.subset hp)).2

/-- Nothing has to make room for a key that is stored, nor where there is room. -/
theorem madeRoom_of_spared (h : (c.peek? k).isSome ∨ c.size < c.capacity) :
    c.madeRoom k now = c := by
  apply if_neg
  rintro ⟨hNew, hFull⟩
  rcases h with hStored | hRoom
  · rw [Option.isNone_iff_eq_none.1 hNew] at hStored
    cases hStored
  · omega

/-- A new key makes what has expired leave a full cache. -/
theorem madeRoom_of_full (hNew : c.peek? k = none) (hFull : c.size = c.capacity) :
    c.madeRoom k now = c.purge now :=
  if_pos ⟨by simp [hNew], Nat.le_of_eq hFull.symm⟩

theorem others_purge_of_new (h : c.peek? k = none) : (c.purge now).others k = c.living now := by
  have hStill : (c.purge now).peek? k = none :=
    peek?_eq_none_iff.2 fun p hp => peek?_eq_none_iff.1 h p (List.mem_of_mem_filter hp)
  exact others_of_new hStill

theorem push_of_room {e : Entry V} (h : (c.others k).length < c.capacity) :
    c.push k e = { c with entries := (k, e) :: c.others k } :=
  if_pos h

theorem push_of_no_room {e : Entry V} (h : c.capacity ≤ (c.others k).length) :
    c.push k e = { c with
      entries := (k, e) :: (c.others k).dropLast
      evictions := c.evictions + 1 } :=
  if_neg (Nat.not_lt.2 h)

/-- What gives way when a key is put at an instant: how the cache `c`, whose history these marks
tell, compares to the cache `c'` after it. Of the entries that stay none changes, nor does their
order. -/
structure GivesWay (c c' : Cache K V) (k : K) (v : V) (now : Nat) (marks : List (Mark K V)) :
    Prop where
  bounded : c.size ≤ c.capacity
  front : c'.entries = (k, entryAt c.ttl v now) :: c'.others k
  recent : c'.entries.Pairwise fun p q =>
    sinceUse p.1 (.put k v now :: marks) < sinceUse q.1 (.put k v now :: marks)
  hits : c'.hits = c.hits
  misses : c'.misses = c.misses
  spared : (c.peek? k).isSome ∨ c.size < c.capacity →
    c'.others k = c.others k ∧ c'.expirations = c.expirations ∧ c'.evictions = c.evictions
  purged : c.peek? k = none → c.size = c.capacity → (∃ p ∈ c.entries, p.2.isExpired now) →
    c'.others k = c.living now ∧ c'.expirations = c.expirations + c.expiredCount now ∧
      c'.evictions = c.evictions
  evicted : c.peek? k = none → c.size = c.capacity → (∀ p ∈ c.entries, !p.2.isExpired now) →
    ∃ victim, c.entries = c'.others k ++ [victim] ∧
      (∀ p ∈ c'.others k, sinceUse p.1 marks < sinceUse victim.1 marks) ∧
      c'.expirations = c.expirations ∧ c'.evictions = c.evictions + 1

namespace Proper

/-- A key that is stored, or for which there is room, makes no entry of another key go. -/
theorem put_of_spared (h : c.Proper) (v : V) (hSpared : (c.peek? k).isSome ∨ c.size < c.capacity) :
    c.put k v now = { c with entries := (k, entryAt c.ttl v now) :: c.others k } := by
  have hRoom : (c.others k).length < c.capacity := by
    rcases hSpared with hStored | hRoom
    · obtain ⟨e, hEntry⟩ := Option.isSome_iff_exists.1 hStored
      exact h.length_others_lt hEntry
    · exact Nat.lt_of_le_of_lt (List.length_filter_le _ _) hRoom
  rw [put_eq_push, madeRoom_of_spared hSpared, push_of_room hRoom]

end Proper

/-- A new key makes what has expired in a full cache go, and nothing else if there is such. -/
theorem put_of_expired (v : V) (hNew : c.peek? k = none) (hFull : c.size = c.capacity)
    (hExpired : ∃ p ∈ c.entries, p.2.isExpired now) :
    c.put k v now = { c.purge now with
      entries := (k, entryAt c.ttl v now) :: c.living now } := by
  have hRoom : (c.living now).length < c.capacity := by
    rw [← hFull]
    apply List.length_filter_lt_length_iff_exists.2
    simpa using hExpired
  have hOthers : (c.purge now).others k = c.living now := others_purge_of_new hNew
  rw [put_eq_push, madeRoom_of_full hNew hFull, push_of_room (by rwa [hOthers]), hOthers]

/-- A new key makes the last entry of a full cache go if all that is stored lives. -/
theorem put_of_living (v : V) (hNew : c.peek? k = none) (hFull : c.size = c.capacity)
    (hLiving : ∀ p ∈ c.entries, !p.2.isExpired now) :
    c.put k v now = { c with
      entries := (k, entryAt c.ttl v now) :: c.entries.dropLast
      evictions := c.evictions + 1 } := by
  have hOthers := others_of_new hNew
  rw [put_eq_push, madeRoom_of_full hNew hFull, purge_of_living hLiving, push_of_no_room, hOthers]
  rw [hOthers]
  exact Nat.le_of_eq hFull.symm

/-- A `put` on a cache that its history explains makes way as it has to. -/
theorem Explained.givesWay {ttl capacity : Nat} {marks : List (Mark K V)}
    (h : Explained ttl capacity c now marks) (hProper : c.Proper) (hNow : now ≤ lastInstant)
    (v : V) : GivesWay c (c.put k v now) k v now marks where
  bounded := hProper.size_le
  front := by
    obtain ⟨kept, hEntries, hKept⟩ := put_entries c k v now
    rw [others_front hKept hEntries, hEntries]
  recent := (h.put hNow k v).inOrderOfUse
  hits := hits_put c k v now
  misses := misses_put c k v now
  spared hSpared := by
    rw [hProper.put_of_spared v hSpared]
    exact ⟨others_front (List.Sublist.refl _) rfl, rfl, rfl⟩
  purged hNew hFull hExpired := by
    rw [put_of_expired v hNew hFull hExpired]
    have hKept : (c.living now).Sublist (c.others k) := by
      rw [others_of_new hNew]
      exact List.filter_sublist
    exact ⟨others_front hKept rfl, rfl, rfl⟩
  evicted hNew hFull hLiving := by
    have hKept : c.entries.dropLast.Sublist (c.others k) := by
      rw [others_of_new hNew]
      exact List.dropLast_sublist _
    have hSome : c.entries ≠ [] := by
      apply List.ne_nil_of_length_pos
      have hPos := hProper.pos
      rw [size] at hFull
      omega
    have hSplit := List.dropLast_concat_getLast hSome
    have hOrder := h.inOrderOfUse
    rw [← hSplit, List.pairwise_append] at hOrder
    rw [put_of_living v hNew hFull hLiving, others_front hKept rfl]
    refine ⟨c.entries.getLast hSome, hSplit.symm, ?_, rfl, rfl⟩
    intro p hp
    exact hOrder.2.2 p hp _ List.mem_cons_self

namespace Session

theorem proper_perform {s : Session K V} (h : s.cache.Proper) (a : Act K V) :
    (s.perform a).cache.Proper := by
  cases a with
  | put k v => exact h.put k v _
  | get k => exact h.get k _
  | remove k => exact h.remove k s.clock.now
  | clear => exact h.clear
  | purge => exact h.purge _
  | advance span => exact h

theorem proper_foldl {s : Session K V} (h : s.cache.Proper) (acts : List (Act K V)) :
    (acts.foldl perform s).cache.Proper := by
  induction acts generalizing s with
  | nil => exact h
  | cons a acts ih => exact ih (proper_perform h a)

end Session

/-- What gives way to a value, at every moment of every run of an empty cache, also within nested
loaders. -/
theorem put_gives_way (ttl capacity : Nat) (clock : Clock) (ops : List (Op K V)) (n : Nat) (k : K)
    (v : V) :
    let start : Session K V := .opening ttl capacity clock
    let c := chronicle start ((Session.unrollAll ops start).take n)
    GivesWay c.session.cache (Session.step (.put k v) c.session).2.cache k v c.session.clock.now
      c.marks := by
  intro start c
  have hStart : Chronicle.Holds ttl (max capacity 1) { session := start } :=
    Explained.empty ttl capacity clock.now
  have hProper : c.session.cache.Proper := by
    have hRun : c.session = ((Session.unrollAll ops start).take n).foldl Session.perform start :=
      Chronicle.session_recordAll _ _
    rw [hRun]
    exact Session.proper_foldl (.empty ttl capacity) _
  exact (hStart.recordAll _).givesWay hProper c.session.clock.now_le_lastInstant v

-- Key 1 was stored before key 2 but hit after it, so the live entry that goes is that of key 2.
example :
    let ops : List (Op Nat Nat) := [.put 1 5, .put 2 5, .get 1]
    let s := (Session.run ops (.opening 10 2 {})).2
    (Session.step (.put 3 5) s).2.cache.entries.map Prod.fst = [3, 1] :=
  rfl

end Tollgate.Cache
