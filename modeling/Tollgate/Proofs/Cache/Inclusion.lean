import Tollgate.Proofs.Cache.History
import Tollgate.Proofs.Cache.Living

/-!
Two caches of different capacity that are told the same. The larger one finds all that the smaller
one finds: what lives in the smaller one lives in the larger one, in the same order of use, though
hits on keys that only the larger one holds reorder it alone. And the larger one holds at most as
many entries more as it has more room, so that it pushes an entry out only where the smaller one
does too.
-/

namespace Tollgate.Cache

variable {K V : Type}

theorem dropLast_sublist_dropLast {α : Type} {l m : List α} (h : l.Sublist m) :
    l.dropLast.Sublist m.dropLast := by
  have hReverse := h.reverse.tail.reverse
  rwa [List.tail_reverse, List.tail_reverse, List.reverse_reverse, List.reverse_reverse] at hReverse

/-- The entries of a smaller cache are among those of a larger one, in the same order, and there are
at most as many more of the latter as there is more room. -/
structure Beneath {α : Type} (small large : List α) (capacity larger : Nat) : Prop where
  sublist : small.Sublist large
  surplus : large.length + capacity ≤ small.length + larger

namespace Beneath

variable {α : Type} {small large : List α} {capacity larger : Nat}

/-- Dropping entries drops no fewer of the larger cache. -/
theorem filter (h : Beneath small large capacity larger) (p : α → Bool) :
    Beneath (small.filter p) (large.filter p) capacity larger where
  sublist := h.sublist.filter p
  surplus := by
    have hDropped := h.sublist.countP_le (p := fun a => decide ¬p a = true)
    have hSmall := List.length_eq_countP_add_countP p (l := small)
    have hLarge := List.length_eq_countP_add_countP p (l := large)
    have hSurplus := h.surplus
    rw [← List.countP_eq_length_filter, ← List.countP_eq_length_filter]
    omega

theorem append_left (h : Beneath small large capacity larger) (first : List α) :
    Beneath (first ++ small) (first ++ large) capacity larger where
  sublist := h.sublist.append_left first
  surplus := by
    have hSurplus := h.surplus
    rw [List.length_append, List.length_append]
    omega

/-- The larger cache is full only where the smaller one is. -/
theorem full (h : Beneath small large capacity larger) (hFull : ¬large.length < larger) :
    ¬small.length < capacity := by
  have hSurplus := h.surplus
  omega

theorem trimmed (h : Beneath small large capacity larger) :
    Beneath (trimmed capacity small) (trimmed larger large) capacity larger := by
  have hSurplus := h.surplus
  unfold Cache.trimmed
  by_cases hSmall : small.length < capacity
  · have hLarge : large.length < larger := by
      by_contra hFull
      exact h.full hFull hSmall
    rw [if_pos hSmall, if_pos hLarge]
    exact h
  · rw [if_neg hSmall]
    split_ifs with hLarge
    · -- Only the smaller one is full, so the surplus grows by one: there was room for that.
      refine ⟨(List.dropLast_sublist small).trans h.sublist, ?_⟩
      rw [List.length_dropLast]
      omega
    · have hLength := h.sublist.length_le
      refine ⟨dropLast_sublist_dropLast h.sublist, ?_⟩
      rw [List.length_dropLast, List.length_dropLast]
      omega

/-- The larger cache may bring forward an entry that the smaller one does not hold. -/
theorem bring (h : Beneath small large capacity larger) {p : α → Bool} {a : α} (hMem : a ∈ large)
    (hTaken : ¬p a) (hKept : small.filter p = small) :
    Beneath small (a :: large.filter p) capacity larger where
  sublist := by
    have hOthers := h.sublist.filter p
    rw [hKept] at hOthers
    exact hOthers.cons a
  surplus := by
    have hSurplus := h.surplus
    have hLess : (large.filter p).length < large.length :=
      List.length_filter_lt_length_iff_exists.2 ⟨a, hMem, hTaken⟩
    rw [List.length_cons]
    omega

end Beneath

/-- Of two caches that were told the same, the larger one includes the smaller one, and has found
more and pushed out less. -/
structure Included (s l : Cache K V) (now : Nat) : Prop where
  small : s.Proper
  large : l.Proper
  ttl : s.ttl = l.ttl
  living : Beneath (s.living now) (l.living now) s.capacity l.capacity
  hits : s.hits ≤ l.hits
  evictions : l.evictions ≤ s.evictions

namespace Included

variable {s l : Cache K V} {now : Nat}

theorem empty (ttl : Nat) {capacity larger : Nat} (h : capacity ≤ larger) (now : Nat) :
    Included (.empty ttl capacity : Cache K V) (.empty ttl larger) now where
  small := .empty ttl capacity
  large := .empty ttl larger
  ttl := rfl
  living := by
    refine ⟨List.Sublist.refl _, ?_⟩
    have hMax : max capacity 1 ≤ max larger 1 := max_le_max_right 1 h
    simpa [Cache.living, Cache.empty] using hMax
  hits := Nat.le_refl _
  evictions := Nat.le_refl _

theorem later (h : Included s l now) {later : Nat} (hLater : now ≤ later) :
    Included s l later :=
  { h with
    living := by
      rw [living_later s hLater, living_later l hLater]
      exact h.living.filter _ }

theorem clear (h : Included s l now) : Included s.clear l.clear now :=
  { h with
    small := h.small.clear
    large := h.large.clear
    living := by
      have hSurplus := h.living.surplus
      have hLength := h.living.sublist.length_le
      refine ⟨List.Sublist.refl _, ?_⟩
      rw [living_clear, living_clear]
      show 0 + s.capacity ≤ 0 + l.capacity
      omega }

theorem purge (h : Included s l now) : Included (s.purge now) (l.purge now) now :=
  { h with
    small := h.small.purge now
    large := h.large.purge now
    living := by
      rw [living_purge, living_purge]
      exact h.living }

variable [DecidableEq K]

theorem livingOthers (h : Included s l now) (k : K) :
    Beneath (s.livingOthers k now) (l.livingOthers k now) s.capacity l.capacity :=
  h.living.filter _

theorem remove (h : Included s l now) (k : K) :
    Included (s.remove k now).2 (l.remove k now).2 now :=
  { h with
    small := h.small.remove k now
    large := h.large.remove k now
    living := by
      rw [living_remove, living_remove]
      exact h.livingOthers k }

/-- What lives in the smaller cache lives in the larger one. -/
theorem live? (h : Included s l now) {k : K} {v : V} (hLive : s.live? k now = some v) :
    l.live? k now = some v := by
  obtain ⟨e, hMem, hValue⟩ := h.small.live?_eq_some_iff.1 hLive
  exact h.large.live?_eq_some_iff.2 ⟨e, h.living.sublist.subset hMem, hValue⟩

theorem contains (h : Included s l now) {k : K} (hFound : s.contains k now = true) :
    l.contains k now = true := by
  rw [contains_eq_isSome, Option.isSome_iff_exists] at hFound ⊢
  obtain ⟨v, hLive⟩ := hFound
  exact ⟨v, h.live? hLive⟩

theorem put (h : Included s l now) (k : K) (v : V) :
    Included (s.put k v now) (l.put k v now) now where
  small := h.small.put k v now
  large := h.large.put k v now
  ttl := by rw [ttl_put, ttl_put, h.ttl]
  living := by
    rw [h.small.living_put, h.large.living_put, capacity_put, capacity_put, h.ttl]
    exact (h.livingOthers k).trimmed.append_left _
  hits := by
    rw [hits_put, hits_put]
    exact h.hits
  evictions := by
    have hFull := (h.livingOthers k).full
    have hEvictions := h.evictions
    rw [h.small.evictions_put, h.large.evictions_put]
    split_ifs with hLarge hSmall hSmall
    · exact hEvictions
    · omega
    · exact absurd hSmall (hFull hLarge)
    · omega

theorem get_fst (h : Included s l now) {k : K} {v : V} (hFound : (s.get k now).1 = some v) :
    (l.get k now).1 = some v := by
  rw [Cache.get_fst] at hFound ⊢
  exact h.live? hFound

/-- A key that the smaller cache finds comes to the front of both, and one that only the larger
cache finds comes to the front of that one alone. -/
theorem living_get (h : Included s l now) (k : K) :
    Beneath ((s.get k now).2.living now) ((l.get k now).2.living now) s.capacity l.capacity := by
  cases hSmall : (s.get k now).1 with
  | some v =>
      obtain ⟨e, hMem⟩ := h.small.exists_mem_living_of_get hSmall
      rw [h.small.living_get_of_mem hMem,
        h.large.living_get_of_mem (h.living.sublist.subset hMem)]
      exact (h.livingOthers k).append_left [(k, e)]
  | none =>
      rw [h.small.living_get_of_none hSmall]
      cases hLarge : (l.get k now).1 with
      | none =>
          rw [h.large.living_get_of_none hLarge]
          exact h.living
      | some v =>
          -- The entry changes its place in the larger cache alone, where the smaller one has none.
          obtain ⟨e, hMem⟩ := h.large.exists_mem_living_of_get hLarge
          rw [h.large.living_get_of_mem hMem]
          exact h.living.bring hMem (by simp) (h.small.livingOthers_of_get_eq_none hSmall)

theorem get (h : Included s l now) (k : K) :
    Included (s.get k now).2 (l.get k now).2 now where
  small := h.small.get k now
  large := h.large.get k now
  ttl := by rw [ttl_get, ttl_get, h.ttl]
  living := by
    rw [capacity_get, capacity_get]
    exact h.living_get k
  hits := by
    have hHits := h.hits
    rw [hits_get, hits_get]
    cases hSmall : (s.get k now).1 with
    | some v =>
        rw [h.get_fst hSmall]
        exact Nat.add_le_add_right hHits 1
    | none => exact Nat.le_trans hHits (Nat.le_add_right _ _)
  evictions := by
    rw [evictions_get, evictions_get]
    exact h.evictions

end Included

/-- Requests to a cache: all operations that find or change something, but loads. -/
inductive Request (K V : Type)
  | put (k : K) (v : V)
  | get (k : K)
  | contains (k : K)
  | remove (k : K)
  | clear
  | purge
  | advance (span : Nat)

/-- A request as an operation of a run. -/
def Request.op : Request K V → Op K V
  | put k v => .put k v
  | get k => .get k
  | contains k => .contains k
  | remove k => .remove k
  | clear => .clear
  | purge => .purge
  | advance span => .advance span

/-- Whatever the one answer has found, the other has found as well: the same value, or that there is
a live one. -/
def Reply.FoundBy : Reply V → Reply V → Prop
  | .value (some v), reply => reply = .value (some v)
  | .flag true, reply => reply = .flag true
  | _, _ => True

theorem Reply.foundBy_value {a b : Option V} (h : ∀ v, a = some v → b = some v) :
    (Reply.value a).FoundBy (.value b) := by
  cases a with
  | none => trivial
  | some v => exact congrArg Reply.value (h v rfl)

theorem Reply.foundBy_flag {a b : Bool} (h : a = true → b = true) :
    (Reply.flag a : Reply V).FoundBy (.flag b) := by
  cases a with
  | false => trivial
  | true => exact congrArg Reply.flag (h rfl)

/-- The answer of a larger cache has found all that the answer of a smaller one has, and its figures
show as many hits or more, and as many evictions or fewer. -/
def Outdone (small large : Reply V × Stats) : Prop :=
  small.1.FoundBy large.1 ∧ small.2.hits ≤ large.2.hits ∧ large.2.evictions ≤ small.2.evictions

namespace Session

variable [DecidableEq K]

/-- Two sessions by the same clock, of which the one includes the other. -/
structure Included (s l : Session K V) : Prop where
  clock : s.clock = l.clock
  cache : Cache.Included s.cache l.cache s.clock.now

theorem Included.step {s l : Session K V} (h : Included s l) (r : Request K V) :
    (Session.step r.op s).1.FoundBy (Session.step r.op l).1 ∧
      Included (Session.step r.op s).2 (Session.step r.op l).2 := by
  obtain ⟨c, clock⟩ := s
  obtain ⟨c', clock'⟩ := l
  obtain ⟨rfl, hCache⟩ := h
  cases r with
  | put k v => exact ⟨trivial, rfl, hCache.put k v⟩
  | get k => exact ⟨Reply.foundBy_value fun v => hCache.get_fst, rfl, hCache.get k⟩
  | contains k => exact ⟨Reply.foundBy_flag hCache.contains, rfl, hCache⟩
  | remove k => exact ⟨Reply.foundBy_value fun v => hCache.live?, rfl, hCache.remove k⟩
  | clear => exact ⟨trivial, rfl, hCache.clear⟩
  | purge => exact ⟨trivial, rfl, hCache.purge⟩
  | advance span => exact ⟨trivial, rfl, hCache.later (clock.now_le_now_advance span)⟩

theorem Included.run {s l : Session K V} (h : Included s l) (requests : List (Request K V)) :
    List.Forall₂ Outdone (Session.run (requests.map Request.op) s).1
        (Session.run (requests.map Request.op) l).1 ∧
      Included (Session.run (requests.map Request.op) s).2
        (Session.run (requests.map Request.op) l).2 := by
  induction requests generalizing s l with
  | nil => exact ⟨.nil, h⟩
  | cons r requests ih =>
      obtain ⟨hFound, hStep⟩ := h.step r
      obtain ⟨hLog, hRun⟩ := ih hStep
      exact ⟨.cons ⟨hFound, hStep.cache.hits, hStep.cache.evictions⟩ hLog, hRun⟩

end Session

variable [DecidableEq K]

/-- Capacity inclusion, in every run of requests of two empty caches that read the same clock: every
answer of the larger cache has found all that the answer of the smaller one has, with as many hits
or more and as many evictions or fewer at every step, and whatever a lookup would find in the end
in the smaller cache it would find in the larger one. -/
theorem larger_finds_all (ttl : Nat) {capacity larger : Nat} (h : capacity ≤ larger)
    (clock : Clock) (requests : List (Request K V)) :
    List.Forall₂ Outdone
        (Session.run (requests.map Request.op) (.opening ttl capacity clock)).1
        (Session.run (requests.map Request.op) (.opening ttl larger clock)).1 ∧
      ∀ k v, (Session.run (requests.map Request.op) (.opening ttl capacity clock)).2.read? k =
          some v →
        (Session.run (requests.map Request.op) (.opening ttl larger clock)).2.read? k = some v := by
  have hStart : Session.Included (.opening ttl capacity clock : Session K V)
      (.opening ttl larger clock) := ⟨rfl, .empty ttl h clock.now⟩
  obtain ⟨hLog, hRun⟩ := hStart.run requests
  refine ⟨hLog, fun k v hRead => ?_⟩
  rw [Session.read?, ← hRun.clock]
  exact hRun.cache.get_fst hRead

/-- Requests of which the smallest cache and one of twice the room make something different: the
lookup of the first key hits only in the larger one, and so it is another key that is pushed out
there. -/
def crowding : List (Request Nat Nat) :=
  [.put 1 5, .put 2 6, .get 1, .put 3 7, .contains 2, .advance 4, .remove 3]

theorem larger_finds_all_crowding :
    0 ≤ 2 ∧
      List.Forall₂ Outdone (Session.run (crowding.map Request.op) (.opening 10 0 {})).1
        (Session.run (crowding.map Request.op) (.opening 10 2 {})).1 :=
  ⟨by decide, (larger_finds_all 10 (by decide) {} crowding).1⟩

end Tollgate.Cache
