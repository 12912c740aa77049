import Tollgate.Proofs.Cache.History
import Tollgate.Proofs.Cache.Living

/-!
Purges that are slipped into a run. A purge drops what no longer lives, and nothing that a caller is
told of a key hangs on it. So a run answers as it would without its purges, and counts as many hits,
misses and evictions at every step: a cache that keeps expired entries until something meets them
cannot be told from one that drops them at once, but by its size, the ages of its entries and its
count of expirations.
-/

namespace Tollgate.Cache

variable {K V : Type}

/-- The counters that a purge leaves as they are. -/
structure Counters where
  hits : Nat := 0
  misses : Nat := 0
  evictions : Nat := 0
deriving DecidableEq, Repr

/-- The counters after one more miss. -/
def Counters.missed (n : Counters) : Counters :=
  { n with misses := n.misses + 1 }

/-- The counters among the figures of a cache. -/
def Stats.counters (s : Stats) : Counters where
  hits := s.hits
  misses := s.misses
  evictions := s.evictions

/-- The counters of a cache. -/
def counters (c : Cache K V) : Counters :=
  c.stats.counters

section

variable [DecidableEq K]

/-- A lookup counts as a hit or as a miss. -/
theorem counters_get (c : Cache K V) (k : K) (now : Nat) :
    (c.get k now).2.counters =
      if (c.get k now).1.isSome then { c.counters with hits := c.counters.hits + 1 }
      else c.counters.missed := by
  have hHits := hits_get c k now
  have hMisses := misses_get c k now
  unfold counters Stats.counters stats Counters.missed
  rw [hHits, hMisses, evictions_get]
  split <;> rfl

theorem Proper.counters_put {c : Cache K V} (h : c.Proper) (k : K) (v : V) (now : Nat) :
    (c.put k v now).counters =
      { c.counters with
        evictions := c.counters.evictions +
          if (c.livingOthers k now).length < c.capacity then 0 else 1 } := by
  unfold counters Stats.counters stats
  rw [hits_put, misses_put, h.evictions_put]

end

/-- Two caches of the same settings and counters in which the same entries live, in the same order
of use. What is stored in either and has expired may differ. -/
structure Alike (c d : Cache K V) (now : Nat) : Prop where
  left : c.Proper
  right : d.Proper
  ttl : c.ttl = d.ttl
  capacity : c.capacity = d.capacity
  living : c.living now = d.living now
  counters : c.counters = d.counters

namespace Alike

variable {c d : Cache K V} {now : Nat}

theorem refl (h : c.Proper) (now : Nat) : Alike c c now :=
  ⟨h, h, rfl, rfl, rfl, rfl⟩

theorem later (h : Alike c d now) {later : Nat} (hLater : now ≤ later) : Alike c d later :=
  { h with
    living := by rw [living_later c hLater, living_later d hLater, h.living] }

/-- A purge of one of two caches keeps them alike. -/
theorem purge (h : Alike c d now) : Alike (c.purge now) d now :=
  { h with
    left := h.left.purge now
    living := (living_purge c now).trans h.living }

theorem clear (h : Alike c d now) : Alike c.clear d.clear now :=
  { h with
    left := h.left.clear
    right := h.right.clear
    living := rfl }

variable [DecidableEq K]

/-- What lives decides what a lookup yields. -/
theorem live? (h : Alike c d now) (k : K) : c.live? k now = d.live? k now := by
  ext v
  rw [h.left.live?_eq_some_iff, h.right.live?_eq_some_iff, h.living]

theorem get_fst (h : Alike c d now) (k : K) : (c.get k now).1 = (d.get k now).1 := by
  rw [Cache.get_fst, Cache.get_fst, h.live?]

theorem contains (h : Alike c d now) (k : K) : c.contains k now = d.contains k now := by
  rw [contains_eq_isSome, contains_eq_isSome, h.live?]

theorem livingOthers (h : Alike c d now) (k : K) :
    c.livingOthers k now = d.livingOthers k now := by
  unfold Cache.livingOthers
  rw [h.living]

theorem remove (h : Alike c d now) (k : K) :
    Alike (c.remove k now).2 (d.remove k now).2 now :=
  { h with
    left := h.left.remove k now
    right := h.right.remove k now
    living := by rw [living_remove, living_remove, h.livingOthers] }

theorem living_get (h : Alike c d now) (k : K) :
    (c.get k now).2.living now = (d.get k now).2.living now := by
  cases hFound : (c.get k now).1 with
  | some v =>
      obtain ⟨e, hMem⟩ := h.left.exists_mem_living_of_get hFound
      rw [h.left.living_get_of_mem hMem, h.right.living_get_of_mem (h.living ▸ hMem),
        h.livingOthers]
  | none =>
      have hFound' : (d.get k now).1 = none := (h.get_fst k).symm.trans hFound
      rw [h.left.living_get_of_none hFound, h.right.living_get_of_none hFound', h.living]

theorem get (h : Alike c d now) (k : K) : Alike (c.get k now).2 (d.get k now).2 now where
  left := h.left.get k now
  right := h.right.get k now
  ttl := by rw [ttl_get, ttl_get, h.ttl]
  capacity := by rw [capacity_get, capacity_get, h.capacity]
  living := h.living_get k
  counters := by rw [counters_get, counters_get, h.counters, h.get_fst]

theorem put (h : Alike c d now) (k : K) (v : V) : Alike (c.put k v now) (d.put k v now) now where
  left := h.left.put k v now
  right := h.right.put k v now
  ttl := by rw [ttl_put, ttl_put, h.ttl]
  capacity := by rw [capacity_put, capacity_put, h.capacity]
  living := by rw [h.left.living_put, h.right.living_put, h.ttl, h.capacity, h.livingOthers]
  counters := by
    rw [h.left.counters_put, h.right.counters_put, h.counters, h.livingOthers, h.capacity]

end Alike

mutual

/-- The operation without the purges of its loader, if it has one. -/
def Op.withoutPurges : Op K V → Op K V
  | .load k loader result => .load k (withoutPurges loader) result
  | op => op

/-- A run without its purges, those of loaders included. -/
def withoutPurges : List (Op K V) → List (Op K V)
  | [] => []
  | .purge :: ops => withoutPurges ops
  | op :: ops => op.withoutPurges :: withoutPurges ops

end

mutual

/-- An operation that starts with these counters has the same answer in two runs, as far as that is
not about the size of the cache, the age of an entry or expirations. The same loads run their
loaders, and every operation of a loader has the same answer as well. -/
def Op.SameAnswer (before : Counters) : Op K V → Reply V → Reply V → Prop
  | .age _, .age _, .age _ => True
  | .isEmpty, .flag _, .flag _ => True
  | .info, .info ttl stats, .info ttl' stats' =>
    ttl = ttl' ∧ stats.counters = stats'.counters ∧ stats.capacity = stats'.capacity
  | .load _ loader _, .loaded v (some log), .loaded v' (some log') =>
    v = v' ∧ SameAnswers before.missed loader log log'
  | _, reply, reply' => reply = reply'

/-- The operations of a run that starts with these counters have the same answers, and the same
counters after them, as those of the run without its purges. A purge leaves the counters alone. -/
def SameAnswers (before : Counters) :
    List (Op K V) → List (Reply V × Stats) → List (Reply V × Stats) → Prop
  | [], [], [] => True
  | .purge :: ops, (.count _, stats) :: log, log' =>
    stats.counters = before ∧ SameAnswers before ops log log'
  | op :: ops, (reply, stats) :: log, (reply', stats') :: log' =>
    op.SameAnswer before reply reply' ∧ stats.counters = stats'.counters ∧
      SameAnswers stats.counters ops log log'
  | _, _, _ => False

end

theorem withoutPurges_cons {op : Op K V} (h : op ≠ .purge) (ops : List (Op K V)) :
    withoutPurges (op :: ops) = op.withoutPurges :: withoutPurges ops := by
  cases op with
  | purge => exact absurd rfl h
  | _ => rfl

theorem sameAnswers_cons {op : Op K V} (h : op ≠ .purge) {before : Counters}
    {ops : List (Op K V)} {reply reply' : Reply V} {stats stats' : Stats}
    {log log' : List (Reply V × Stats)} (hReply : op.SameAnswer before reply reply')
    (hStats : stats.counters = stats'.counters) (hLog : SameAnswers stats.counters ops log log') :
    SameAnswers before (op :: ops) ((reply, stats) :: log) ((reply', stats') :: log') := by
  cases op with
  | purge => exact absurd rfl h
  | _ => exact ⟨hReply, hStats, hLog⟩

namespace Session

/-- Sessions by the same clock whose caches are alike. -/
structure Alike (s t : Session K V) : Prop where
  clock : s.clock = t.clock
  cache : Cache.Alike s.cache t.cache s.clock.now

/-- A purge in one of two sessions is not seen. -/
theorem Alike.purge {s t : Session K V} (h : Alike s t) :
    Alike { s with cache := s.cache.purge s.clock.now } t :=
  ⟨h.clock, h.cache.purge⟩

variable [DecidableEq K]

mutual

theorem Alike.step {s t : Session K V} (h : Alike s t) (op : Op K V) (hOp : op ≠ .purge) :
    op.SameAnswer s.cache.counters (step op s).1 (step op.withoutPurges t).1 ∧
      Alike (step op s).2 (step op.withoutPurges t).2 := by
  obtain ⟨c, clock⟩ := s
  obtain ⟨d, clock'⟩ := t
  obtain ⟨rfl, hCache⟩ := h
  cases op with
  | put k v => exact ⟨rfl, rfl, hCache.put k v⟩
  | get k => exact ⟨congrArg Reply.value (hCache.get_fst k), rfl, hCache.get k⟩
  | contains k => exact ⟨congrArg Reply.flag (hCache.contains k), rfl, hCache⟩
  | age k => exact ⟨trivial, rfl, hCache⟩
  | remove k => exact ⟨congrArg Reply.value (hCache.live? k), rfl, hCache.remove k⟩
  | clear => exact ⟨rfl, rfl, hCache.clear⟩
  | purge => exact absurd rfl hOp
  | isEmpty => exact ⟨trivial, rfl, hCache⟩
  | info => exact ⟨⟨hCache.ttl, hCache.counters, hCache.capacity⟩, rfl, hCache⟩
  | advance span => exact ⟨rfl, rfl, hCache.later (clock.now_le_now_advance span)⟩
  | load k loader result =>
      have hGet := hCache.get k
      have hFound := hCache.get_fst k
      have hCounters := counters_get c k clock.now
      simp only [Session.step, Op.withoutPurges]
      generalize c.get k clock.now = found at hGet hFound hCounters ⊢
      generalize d.get k clock.now = found' at hGet hFound ⊢
      obtain ⟨v, c'⟩ := found
      obtain ⟨v', d'⟩ := found'
      obtain rfl : v = v' := hFound
      cases v with
      | some v => exact ⟨rfl, rfl, hGet⟩
      | none =>
          -- Both loads miss, so both loaders run, from caches that are alike after the miss.
          have hMissed : c'.counters = c.counters.missed := hCounters
          obtain ⟨hAnswers, hLoader⟩ :=
            Alike.run (s := ⟨c', clock⟩) (t := ⟨d', clock⟩) ⟨rfl, hGet⟩ loader
          rw [hMissed] at hAnswers
          cases result with
          | none => exact ⟨⟨rfl, hAnswers⟩, hLoader⟩
          | some v =>
              refine ⟨⟨rfl, hAnswers⟩, hLoader.clock, ?_⟩
              have hPut := hLoader.cache.put k v
              simp only [← hLoader.clock]
              exact hPut

theorem Alike.run {s t : Session K V} (h : Alike s t) (ops : List (Op K V)) :
    SameAnswers s.cache.counters ops (run ops s).1 (run (withoutPurges ops) t).1 ∧
      Alike (run ops s).2 (run (withoutPurges ops) t).2 := by
  cases ops with
  | nil => exact ⟨trivial, h⟩
  | cons op ops =>
      by_cases hOp : op = .purge
      · subst hOp
        obtain ⟨hAnswers, hRun⟩ := Alike.run (h.purge) ops
        exact ⟨⟨rfl, hAnswers⟩, hRun⟩
      · obtain ⟨hAnswer, hStep⟩ := h.step op hOp
        obtain ⟨hAnswers, hRun⟩ := Alike.run hStep ops
        rw [withoutPurges_cons hOp]
        exact ⟨sameAnswers_cons hOp hAnswer hStep.cache.counters hAnswers, hRun⟩

end

end Session

variable [DecidableEq K]

/-- Purges at any places of a run of an empty cache, within loaders of any depth too, change no
answer to a lookup or a removal and no decision whether a loader runs. The hits, misses and
evictions are the same at every step. -/
theorem purges_invisible (ttl capacity : Nat) (clock : Clock) (ops : List (Op K V)) :
    SameAnswers {} ops (Session.run ops (.opening ttl capacity clock)).1
      (Session.run (withoutPurges ops) (.opening ttl capacity clock)).1 := by
  have hStart : Session.Alike (.opening ttl capacity clock : Session K V)
      (.opening ttl capacity clock) := ⟨rfl, .refl (.empty ttl capacity) clock.now⟩
  exact (hStart.run ops).1

-- What a purge does change is whether an expired entry is still there.
example :
    (Session.run [.put 1 5, .advance 10, .purge, .isEmpty, .get 1]
        (.opening 10 2 {} : Session Nat Nat)).1.map (·.1) =
      [.done, .elapsed 10, .count 1, .flag true, .value none] ∧
    (Session.run [.put 1 5, .advance 10, .isEmpty, .get 1]
        (.opening 10 2 {} : Session Nat Nat)).1.map (·.1) =
      [.done, .elapsed 10, .flag false, .value none] :=
  ⟨rfl, rfl⟩

end Tollgate.Cache
