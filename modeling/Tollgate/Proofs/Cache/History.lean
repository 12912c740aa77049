import Mathlib.Data.Finset.Card
import Mathlib.Data.List.Pairwise
import Tollgate.Proofs.Cache.Entries

/-!
What a cache answers, by the history of its run alone. A history tells the stores, hits and removals
of a run, the newest first. It determines which value a lookup may yield, and, as long as fewer
other keys were in use since than the cache holds, that it yields it.

A load of a nested run is unrolled into the single acts that it comes to, so that what holds after
every act also holds between the acts of a loader.
-/

namespace Tollgate.Cache

variable {K V : Type}

/-- What a run leaves in the history of its cache. Lookups that miss, purges and the clock leave
nothing. -/
inductive Mark (K V : Type)
  | put (k : K) (v : V) (time : Nat)
  | hit (k : K)
  | remove (k : K)
  | clear

/-- A single act on a cache and its clock. -/
inductive Act (K V : Type)
  | put (k : K) (v : V)
  | get (k : K)
  | remove (k : K)
  | clear
  | purge
  | advance (span : Nat)

variable [DecidableEq K]

/-- The value stored by the last mark that concerns a key, with its time, unless that mark is a
removal. -/
def lastWrite (k : K) : List (Mark K V) → Option (V × Nat)
  | [] => none
  | .put j v time :: marks => if j = k then some (v, time) else lastWrite k marks
  | .hit _ :: marks => lastWrite k marks
  | .remove j :: marks => if j = k then none else lastWrite k marks
  | .clear :: _ => none

/-- The other keys that were stored or hit since a key last was. -/
def touchedSince (k : K) : List (Mark K V) → Finset K
  | [] => ∅
  | .put j _ _ :: marks | .hit j :: marks =>
    if j = k then ∅ else insert j (touchedSince k marks)
  | .remove _ :: marks | .clear :: marks => touchedSince k marks

namespace Session

/-- What a lookup would yield now. -/
def read? (s : Session K V) (k : K) : Option V :=
  (s.cache.get k s.clock.now).1

/-- Does a single act. -/
def perform (s : Session K V) : Act K V → Session K V
  | .put k v => { s with cache := s.cache.put k v s.clock.now }
  | .get k => { s with cache := (s.cache.get k s.clock.now).2 }
  | .remove k => { s with cache := (s.cache.remove k s.clock.now).2 }
  | .clear => { s with cache := s.cache.clear }
  | .purge => { s with cache := s.cache.purge s.clock.now }
  | .advance span => { s with clock := s.clock.advance span }

/-- The mark that an act leaves, if it leaves one. -/
def mark? (s : Session K V) : Act K V → Option (Mark K V)
  | .put k v => some (.put k v s.clock.now)
  | .get k => if (s.read? k).isSome then some (.hit k) else none
  | .remove k => some (.remove k)
  | .clear => some .clear
  | .purge | .advance _ => none

mutual

/-- The single acts that an operation comes to. A load is a lookup, and after a miss the acts of its
loader and the store of what it yields. -/
def unroll : Op K V → Session K V → List (Act K V)
  | .put k v, _ => [.put k v]
  | .get k, _ => [.get k]
  | .remove k, _ => [.remove k]
  | .clear, _ => [.clear]
  | .purge, _ => [.purge]
  | .advance span, _ => [.advance span]
  | .contains _, _ | .age _, _ | .isEmpty, _ | .info, _ => []
  | .load k loader result, s =>
    match s.cache.get k s.clock.now with
    | (some _, _) => [.get k]
    | (none, c) =>
      .get k :: (unrollAll loader { s with cache := c } ++ (result.map (Act.put k)).toList)

/-- The single acts that operations come to. -/
def unrollAll : List (Op K V) → Session K V → List (Act K V)
  | [], _ => []
  | op :: ops, s => unroll op s ++ unrollAll ops (step op s).2

end

mutual

/-- The acts of an operation do what the operation does. -/
theorem foldl_unroll (op : Op K V) (s : Session K V) :
    (unroll op s).foldl perform s = (step op s).2 := by
  cases op with
  | put | get | remove | clear | purge | advance | contains | age | isEmpty | info =>
      simp only [unroll, step, perform, List.foldl_cons, List.foldl_nil]
  | load k loader result =>
      simp only [unroll, step]
      split
      · next v c hGet => simp only [List.foldl_cons, List.foldl_nil, perform, hGet]
      · next c hGet =>
          have hLoader := foldl_unrollAll loader { s with cache := c }
          simp only [List.foldl_cons, List.foldl_append, perform, hGet, hLoader]
          cases result with
          | none => rfl
          | some v => rfl

theorem foldl_unrollAll (ops : List (Op K V)) (s : Session K V) :
    (unrollAll ops s).foldl perform s = (run ops s).2 := by
  cases ops with
  | nil => rfl
  | cons op ops =>
      simp only [unrollAll, run, List.foldl_append]
      rw [foldl_unroll op s]
      exact foldl_unrollAll ops (step op s).2

end

end Session

/-- The history explains the entries of a cache: each is the last write of its key, they stand in
the order in which their keys were last in use, and what was written less than the time to live ago
is still there unless as many other keys as the cache holds were in use since. -/
structure Explained (ttl capacity : Nat) (c : Cache K V) (now : Nat) (marks : List (Mark K V)) :
    Prop where
  ttl_eq : c.ttl = ttl
  capacity_eq : c.capacity = capacity
  nodup : c.keys.Nodup
  timed : ∀ p ∈ c.entries, p.2.Timed ttl
  written : ∀ p ∈ c.entries,
    lastWrite p.1 marks = some (p.2.value, p.2.insertedAt) ∧ p.2.insertedAt ≤ now
  ordered : c.entries.Pairwise fun p q => p.1 ∈ touchedSince q.1 marks
  kept : ∀ k v time, lastWrite k marks = some (v, time) → now < time + ttl →
    (touchedSince k marks).card < capacity → ∃ e, (k, e) ∈ c.entries

theorem lastWrite_put_of_ne {k j : K} (h : j ≠ k) (v : V) (time : Nat) (marks : List (Mark K V)) :
    lastWrite j (.put k v time :: marks) = lastWrite j marks :=
  if_neg h.symm

theorem touchedSince_put_of_ne {k j : K} (h : j ≠ k) (v : V) (time : Nat)
    (marks : List (Mark K V)) :
    touchedSince j (.put k v time :: marks) = insert k (touchedSince j marks) :=
  if_neg h.symm

theorem touchedSince_hit_of_ne {k j : K} (h : j ≠ k) (marks : List (Mark K V)) :
    touchedSince j (.hit k :: marks) = insert k (touchedSince j marks) :=
  if_neg h.symm

namespace Explained

variable {ttl capacity now : Nat} {c : Cache K V} {marks : List (Mark K V)}

theorem empty (ttl capacity now : Nat) :
    Explained ttl (max capacity 1) (Cache.empty ttl capacity : Cache K V) now [] where
  ttl_eq := rfl
  capacity_eq := rfl
  nodup := List.nodup_nil
  timed _ h := by cases h
  written _ h := by cases h
  ordered := List.Pairwise.nil
  kept _ _ _ h := by cases h

/-- An entry has expired exactly when the time to live has passed since its key was last written. -/
theorem isExpired_iff (h : Explained ttl capacity c now marks) (hNow : now ≤ lastInstant)
    {p : K × Entry V} (hp : p ∈ c.entries) :
    p.2.isExpired now = true ↔ p.2.insertedAt + ttl ≤ now :=
  (h.timed p hp).isExpired_iff hNow

theorem mono (h : Explained ttl capacity c now marks) {later : Nat} (hLater : now ≤ later) :
    Explained ttl capacity c later marks :=
  { h with
    written := fun p hp => ⟨(h.written p hp).1, Nat.le_trans (h.written p hp).2 hLater⟩
    kept := fun k v time hWrite hYoung =>
      h.kept k v time hWrite (Nat.lt_of_le_of_lt hLater hYoung) }

/-- Entries may be dropped if they have expired. -/
theorem of_sublist (h : Explained ttl capacity c now marks) {c' : Cache K V}
    (hTtl : c'.ttl = c.ttl) (hCapacity : c'.capacity = c.capacity)
    (hSub : c'.entries.Sublist c.entries)
    (hAlive : ∀ p ∈ c.entries, now < p.2.insertedAt + ttl → p ∈ c'.entries) :
    Explained ttl capacity c' now marks where
  ttl_eq := hTtl.trans h.ttl_eq
  capacity_eq := hCapacity.trans h.capacity_eq
  nodup := h.nodup.sublist (hSub.map Prod.fst)
  timed p hp := h.timed p (hSub.subset hp)
  written p hp := h.written p (hSub.subset hp)
  ordered := h.ordered.sublist hSub
  kept k v time hWrite hYoung hCard := by
    obtain ⟨e, hMem⟩ := h.kept k v time hWrite hYoung hCard
    have hSame := hWrite.symm.trans (h.written _ hMem).1
    cases hSame
    exact ⟨e, hAlive _ hMem hYoung⟩

theorem clear (h : Explained ttl capacity c now marks) :
    Explained ttl capacity c.clear now (.clear :: marks) where
  ttl_eq := h.ttl_eq
  capacity_eq := h.capacity_eq
  nodup := List.nodup_nil
  timed _ hp := by cases hp
  written _ hp := by cases hp
  ordered := List.Pairwise.nil
  kept _ _ _ hWrite := by cases hWrite

theorem purge (h : Explained ttl capacity c now marks) (hNow : now ≤ lastInstant) :
    Explained ttl capacity (c.purge now) now marks := by
  refine h.of_sublist rfl rfl List.filter_sublist fun p hp hYoung => ?_
  refine List.mem_filter.2 ⟨hp, ?_⟩
  have hExpired := h.isExpired_iff hNow hp
  cases hAlive : p.2.isExpired now with
  | false => rfl
  | true =>
      have := hExpired.1 hAlive
      omega

theorem remove (h : Explained ttl capacity c now marks) (k : K) :
    Explained ttl capacity (c.remove k now).2 now (.remove k :: marks) where
  ttl_eq := h.ttl_eq
  capacity_eq := h.capacity_eq
  nodup := h.nodup.sublist (List.filter_sublist.map Prod.fst)
  timed p hp := h.timed p (mem_others.1 hp).1
  written p hp := by
    obtain ⟨hp, hKey⟩ := mem_others.1 hp
    rw [lastWrite, if_neg hKey.symm]
    exact h.written p hp
  ordered := h.ordered.sublist List.filter_sublist
  kept j v time hWrite hYoung hCard := by
    unfold lastWrite at hWrite
    split_ifs at hWrite with hKey
    obtain ⟨e, hMem⟩ := h.kept j v time hWrite hYoung hCard
    exact ⟨e, mem_others.2 ⟨hMem, Ne.symm hKey⟩⟩

/-- The key of a put or a hit goes in front of what is kept of the others. -/
theorem front (h : Explained ttl capacity c now marks) {c' : Cache K V} {k : K} {e : Entry V}
    {kept : List (K × Entry V)} {m : Mark K V} (hTtl : c'.ttl = c.ttl)
    (hCapacity : c'.capacity = c.capacity) (hEntries : c'.entries = (k, e) :: kept)
    (hKept : kept.Sublist (c.others k)) (hTimed : e.Timed ttl)
    (hWritten : lastWrite k (m :: marks) = some (e.value, e.insertedAt) ∧ e.insertedAt ≤ now)
    (hLast : ∀ j ≠ k, lastWrite j (m :: marks) = lastWrite j marks)
    (hTouched : ∀ j ≠ k, touchedSince j (m :: marks) = insert k (touchedSince j marks))
    (hAlive : ∀ p ∈ c.entries, p.1 ≠ k → now < p.2.insertedAt + ttl →
      (touchedSince p.1 (m :: marks)).card < capacity → p ∈ kept) :
    Explained ttl capacity c' now (m :: marks) where
  ttl_eq := hTtl.trans h.ttl_eq
  capacity_eq := hCapacity.trans h.capacity_eq
  nodup := by
    rw [keys, hEntries]
    exact nodup_front h.nodup hKept
  timed p hp := by
    rw [hEntries] at hp
    rcases List.mem_cons.1 hp with rfl | hp
    · exact hTimed
    · exact h.timed p (mem_others.1 (hKept.subset hp)).1
  written p hp := by
    rw [hEntries] at hp
    rcases List.mem_cons.1 hp with rfl | hp
    · exact hWritten
    · obtain ⟨hp, hKey⟩ := mem_others.1 (hKept.subset hp)
      rw [hLast p.1 hKey]
      exact h.written p hp
  ordered := by
    rw [hEntries, List.pairwise_cons]
    refine ⟨fun q hq => ?_, ?_⟩
    · rw [hTouched q.1 (mem_others.1 (hKept.subset hq)).2]
      exact Finset.mem_insert_self k _
    · refine (h.ordered.sublist (hKept.trans List.filter_sublist)).imp_of_mem ?_
      intro p q _ hq hp
      rw [hTouched q.1 (mem_others.1 (hKept.subset hq)).2]
      exact Finset.mem_insert_of_mem hp
  kept j v time hWrite hYoung hCard := by
    rw [hEntries]
    by_cases hKey : j = k
    · subst j
      exact ⟨e, List.mem_cons_self⟩
    · rw [hLast j hKey] at hWrite
      have hBefore : (touchedSince j marks).card < capacity := by
        rw [hTouched j hKey] at hCard
        exact Nat.lt_of_le_of_lt (Finset.card_le_card (Finset.subset_insert k _)) hCard
      obtain ⟨e', hMem⟩ := h.kept j v time hWrite hYoung hBefore
      have hSame := hWrite.symm.trans (h.written _ hMem).1
      cases hSame
      exact ⟨e', List.mem_cons_of_mem _ (hAlive _ hMem hKey hYoung hCard)⟩

theorem get_of_none (h : Explained ttl capacity c now marks) (hNow : now ≤ lastInstant) {k : K}
    (hMiss : (c.get k now).1 = none) : Explained ttl capacity (c.get k now).2 now marks := by
  unfold get at hMiss ⊢
  cases hEntry : c.peek? k with
  | none => exact h.of_sublist rfl rfl (List.Sublist.refl _) fun _ hp _ => hp
  | some e =>
      simp only [hEntry] at hMiss ⊢
      split_ifs at hMiss ⊢ with hExpired
      refine h.of_sublist rfl rfl List.filter_sublist fun p hp hYoung => ?_
      refine mem_others.2 ⟨hp, fun hKey => ?_⟩
      -- The key has one entry, and that one has expired.
      have hSame : c.peek? k = some p.2 := peek?_of_mem h.nodup (hKey ▸ hp)
      rw [hEntry] at hSame
      cases hSame
      have := (h.isExpired_iff hNow hp).1 hExpired
      omega

theorem get_of_some (h : Explained ttl capacity c now marks) {k : K} {v : V}
    (hHit : (c.get k now).1 = some v) :
    Explained ttl capacity (c.get k now).2 now (.hit k :: marks) := by
  rw [get_fst, live?_eq_some_iff] at hHit
  obtain ⟨e, hEntry, hAlive, rfl⟩ := hHit
  have hMem := mem_of_peek? hEntry
  have hGet : (c.get k now).2 = { c with entries := (k, e) :: c.others k, hits := c.hits + 1 } := by
    simp [get, hEntry, hAlive]
  rw [hGet]
  refine h.front rfl rfl rfl (List.Sublist.refl _) (h.timed _ hMem) (h.written _ hMem)
    (fun _ _ => rfl) (fun j hKey => touchedSince_hit_of_ne hKey marks) fun p hp hKey _ _ => ?_
  exact mem_others.2 ⟨hp, hKey⟩

theorem mem_madeRoom (h : Explained ttl capacity c now marks) (hNow : now ≤ lastInstant) (k : K)
    {p : K × Entry V} (hp : p ∈ c.entries) (hYoung : now < p.2.insertedAt + ttl) :
    p ∈ (c.madeRoom k now).entries := by
  unfold madeRoom
  split
  · refine List.mem_filter.2 ⟨hp, ?_⟩
    have hExpired := h.isExpired_iff hNow hp
    cases hAlive : p.2.isExpired now with
    | false => rfl
    | true =>
        have := hExpired.1 hAlive
        omega
  · exact hp

/-- The entry that is pushed out is the one of the key least recently in use, and as many others as
the cache holds were in use since. -/
theorem capacity_le_of_last (h : Explained ttl capacity c now marks) {k : K}
    {kept : List (K × Entry V)} (hKept : kept.Sublist (c.others k))
    (hFull : capacity ≤ kept.length) {p : K × Entry V} (hp : p ∈ kept) (hLast : p ∉ kept.dropLast) :
    capacity ≤ (insert k (touchedSince p.1 marks)).card := by
  obtain ⟨init, rfl⟩ : ∃ init, kept = init ++ [p] := by
    have hSplit := List.dropLast_concat_getLast (List.ne_nil_of_mem hp)
    rw [← hSplit] at hp
    rcases List.mem_append.1 hp with hInit | hEnd
    · exact absurd hInit hLast
    · exact ⟨kept.dropLast, by rw [List.mem_singleton.1 hEnd, hSplit]⟩
  have hInit : init.Sublist (c.others k) := (List.sublist_append_left init [p]).trans hKept
  have hNodup : (k :: init.map Prod.fst).Nodup := nodup_front (e := p.2) h.nodup hInit
  have hOrdered := List.pairwise_append.1 (h.ordered.sublist (hKept.trans List.filter_sublist))
  have hSubset : (k :: init.map Prod.fst).toFinset ⊆ insert k (touchedSince p.1 marks) := by
    intro j hj
    rcases List.mem_cons.1 (List.mem_toFinset.1 hj) with rfl | hj
    · exact Finset.mem_insert_self _ _
    · obtain ⟨q, hq, rfl⟩ := List.mem_map.1 hj
      exact Finset.mem_insert_of_mem (hOrdered.2.2 q hq p List.mem_cons_self)
  have hCard := Finset.card_le_card hSubset
  rw [List.toFinset_card_of_nodup hNodup, List.length_cons, List.length_map] at hCard
  rw [List.length_append, List.length_singleton] at hFull
  omega

theorem put (h : Explained ttl capacity c now marks) (hNow : now ≤ lastInstant) (k : K) (v : V) :
    Explained ttl capacity (c.put k v now) now (.put k v now :: marks) := by
  have hOthers : ((c.madeRoom k now).others k).Sublist (c.others k) :=
    (c.madeRoom_sublist k now).filter _
  refine h.front (ttl_put c k v now) (capacity_put c k v now) (put_kept c k v now) ?_ ?_ ?_
    (fun j hKey => lastWrite_put_of_ne hKey v now marks)
    (fun j hKey => touchedSince_put_of_ne hKey v now marks) ?_
  · split
    · exact hOthers
    · exact (List.dropLast_sublist _).trans hOthers
  · rw [h.ttl_eq]
    exact entryAt_timed ttl v now
  · exact ⟨if_pos rfl, Nat.le_refl now⟩
  · intro p hp hKey hYoung hCard
    have hMem : p ∈ (c.madeRoom k now).others k :=
      mem_others.2 ⟨h.mem_madeRoom hNow k hp hYoung, hKey⟩
    split
    · exact hMem
    · next hFull =>
        rw [touchedSince_put_of_ne hKey] at hCard
        rw [h.capacity_eq, Nat.not_lt] at hFull
        by_contra hLast
        have := h.capacity_le_of_last hOthers hFull hMem hLast
        omega

end Explained

/-- A session with the history of the acts that led to it. -/
structure Chronicle (K V : Type) where
  session : Session K V
  marks : List (Mark K V) := []

namespace Chronicle

/-- Does one act and keeps the mark that it leaves. -/
def record (c : Chronicle K V) (a : Act K V) : Chronicle K V where
  session := c.session.perform a
  marks := (c.session.mark? a).toList ++ c.marks

/-- Does acts one after another. -/
def recordAll (c : Chronicle K V) (acts : List (Act K V)) : Chronicle K V :=
  acts.foldl record c

theorem session_recordAll (c : Chronicle K V) (acts : List (Act K V)) :
    (c.recordAll acts).session = acts.foldl Session.perform c.session := by
  induction acts generalizing c with
  | nil => rfl
  | cons a acts ih => exact ih (c.record a)

/-- The history of a chronicle explains its cache. -/
def Holds (ttl capacity : Nat) (c : Chronicle K V) : Prop :=
  Explained ttl capacity c.session.cache c.session.clock.now c.marks

theorem Holds.record {ttl capacity : Nat} {c : Chronicle K V} (h : c.Holds ttl capacity)
    (a : Act K V) : (c.record a).Holds ttl capacity := by
  have hNow := c.session.clock.now_le_lastInstant
  cases a with
  | put k v => exact Explained.put h hNow k v
  | get k =>
      unfold Holds Chronicle.record
      simp only [Session.mark?]
      cases hRead : c.session.read? k with
      | none => exact Explained.get_of_none h hNow hRead
      | some v => exact Explained.get_of_some h hRead
  | remove k => exact Explained.remove h k
  | clear => exact Explained.clear h
  | purge => exact Explained.purge h hNow
  | advance span => exact Explained.mono h (c.session.clock.now_le_now_advance span)

theorem Holds.recordAll {ttl capacity : Nat} {c : Chronicle K V} (h : c.Holds ttl capacity)
    (acts : List (Act K V)) : (c.recordAll acts).Holds ttl capacity := by
  induction acts generalizing c with
  | nil => exact h
  | cons a acts ih => exact ih (h.record a)

/-- A lookup answers by the history: it yields what was last written less than the time to live ago,
and nothing else; and it does yield it while fewer other keys than the cache holds were in use since
the key last was. To ask whether a key is there is to ask whether a lookup would yield a value. -/
structure AnswersByHistory (ttl capacity : Nat) (c : Chronicle K V) : Prop where
  written : ∀ k v, c.session.read? k = some v →
    ∃ time, lastWrite k c.marks = some (v, time) ∧ time ≤ c.session.clock.now ∧
      c.session.clock.now < time + ttl
  found : ∀ k v time, lastWrite k c.marks = some (v, time) → c.session.clock.now < time + ttl →
    (touchedSince k c.marks).card < max capacity 1 → c.session.read? k = some v
  contains : ∀ k, c.session.cache.contains k c.session.clock.now = (c.session.read? k).isSome

theorem Holds.answersByHistory {ttl capacity : Nat} {c : Chronicle K V}
    (h : c.Holds ttl (max capacity 1)) : c.AnswersByHistory ttl capacity := by
  have hNow := c.session.clock.now_le_lastInstant
  constructor
  case written =>
    intro k v hRead
    rw [Session.read?, get_fst, live?_eq_some_iff] at hRead
    obtain ⟨e, hEntry, hAlive, rfl⟩ := hRead
    have hMem := mem_of_peek? hEntry
    obtain ⟨hWrite, hPast⟩ := h.written _ hMem
    have hExpired := h.isExpired_iff hNow hMem
    rw [hAlive, Bool.false_eq_true, false_iff, Nat.not_le] at hExpired
    exact ⟨e.insertedAt, hWrite, hPast, hExpired⟩
  case found =>
    intro k v time hWrite hYoung hCard
    obtain ⟨e, hMem⟩ := h.kept k v time hWrite hYoung hCard
    have hSame := hWrite.symm.trans (h.written _ hMem).1
    cases hSame
    rw [Session.read?, get_fst, live?_eq_some_iff]
    refine ⟨e, peek?_of_mem h.nodup hMem, ?_, rfl⟩
    rw [← Bool.not_eq_true, h.isExpired_iff hNow hMem]
    exact Nat.not_le.2 hYoung
  case contains =>
    intro k
    rw [contains_eq_isSome, Session.read?, get_fst]

end Chronicle

/-- An empty cache with a clock. -/
def Session.opening (ttl capacity : Nat) (clock : Clock) : Session K V where
  cache := .empty ttl capacity
  clock := clock

-- A load that misses first looks its key up and stores what it was given after its loader is done.
example : Session.unrollAll [.load 1 [.put 2 5, .get 2] (some 7)]
    (.opening 10 1 {} : Session Nat Nat) = [.get 1, .put 2 5, .get 2, .put 1 7] :=
  rfl

/-- The chronicle of the acts into which a run is unrolled. -/
def chronicle (start : Session K V) (acts : List (Act K V)) : Chronicle K V :=
  Chronicle.recordAll { session := start } acts

/-- The exact meaning of a lookup at every moment of every run of an empty cache, also within nested
loaders. The acts into which a run is unrolled come to what the run comes to. -/
theorem answers_by_history (ttl capacity : Nat) (clock : Clock) (ops : List (Op K V)) :
    (chronicle (.opening ttl capacity clock)
        (Session.unrollAll ops (.opening ttl capacity clock))).session =
      (Session.run ops (.opening ttl capacity clock)).2 ∧
    ∀ n, (chronicle (.opening ttl capacity clock)
      ((Session.unrollAll ops (.opening ttl capacity clock)).take n)).AnswersByHistory ttl
        capacity := by
  refine ⟨?_, fun n => ?_⟩
  · rw [chronicle, Chronicle.session_recordAll]
    exact Session.foldl_unrollAll ops _
  · have hStart : Chronicle.Holds ttl (max capacity 1)
        { session := (Session.opening ttl capacity clock : Session K V) } :=
      Explained.empty ttl capacity clock.now
    exact (hStart.recordAll _).answersByHistory

end Tollgate.Cache
