import Tollgate.Proofs.Cache.Eviction

/-!
How a cache stands for what happened to it, in every state that a run passes through: between its
operations, and within the run of a loader, at any depth. No key is stored twice and there is room
for all that is stored; the entries stand in the order of use; and an entry carries the time of the
last put of its key, from which its age and its end follow.
-/

namespace Tollgate.Cache

variable {K V : Type} [DecidableEq K]

/-- A run passes through a state: before its operations or after some of them, or within the run of
a loader, which a miss starts. -/
inductive Session.Passes : List (Op K V) → Session K V → Session K V → Prop
  | here (ops : List (Op K V)) (s : Session K V) : Passes ops s s
  | later {op : Op K V} {ops : List (Op K V)} {s t : Session K V}
      (h : Passes ops (step op s).2 t) : Passes (op :: ops) s t
  | within {k : K} {loader ops : List (Op K V)} {result : Option V} {s t : Session K V}
      (hMiss : s.read? k = none)
      (h : Passes loader { s with cache := (s.cache.get k s.clock.now).2 } t) :
      Passes (.load k loader result :: ops) s t

/-- The acts of a load that misses begin with those of its loader, behind the lookup. -/
theorem Session.unroll_load_of_miss {k : K} {s : Session K V} (hMiss : s.read? k = none)
    (loader : List (Op K V)) (result : Option V) :
    unroll (.load k loader result) s =
      .get k :: (unrollAll loader { s with cache := (s.cache.get k s.clock.now).2 } ++
        (result.map (Act.put k)).toList) := by
  rw [unroll]
  split
  · next v c hGet => simp [read?, hGet] at hMiss
  · next c hGet => rw [hGet]

/-- A state that a run passes through is reached by the first of the acts that the run comes to. -/
theorem Session.Passes.exists_acts {ops : List (Op K V)} {s t : Session K V} (h : Passes ops s t) :
    ∃ acts, acts <+: unrollAll ops s ∧ acts.foldl perform s = t := by
  induction h with
  | here ops s => exact ⟨[], List.nil_prefix, rfl⟩
  | @later op ops s t _ ih =>
      obtain ⟨acts, hActs, rfl⟩ := ih
      refine ⟨unroll op s ++ acts, (List.prefix_append_right_inj _).2 hActs, ?_⟩
      rw [List.foldl_append, foldl_unroll]
  | @within k loader ops result s t hMiss _ ih =>
      obtain ⟨acts, hActs, rfl⟩ := ih
      refine ⟨.get k :: acts, ?_, rfl⟩
      rw [unrollAll, unroll_load_of_miss hMiss, List.cons_append, List.append_assoc]
      exact (List.prefix_cons_inj _).2 (hActs.trans (List.prefix_append _ _))

/-- What was last written was in use since. -/
theorem sinceUse_lt_length_of_lastWrite {k : K} {marks : List (Mark K V)} {w : V × Nat}
    (h : lastWrite k marks = some w) : sinceUse k marks < marks.length := by
  induction marks with
  | nil => cases h
  | cons m marks ih =>
      rw [sinceUse_cons, List.length_cons]
      cases m with
      | put j v time =>
          by_cases hKey : j = k
          · simp [Mark.uses, hKey]
          · rw [lastWrite, if_neg hKey] at h
            simp [Mark.uses, hKey, ih h]
      | hit j =>
          have hLess := ih h
          split <;> omega
      | remove j =>
          rw [lastWrite] at h
          split_ifs at h
          simp [Mark.uses, ih h]
      | clear => cases h

/-- How a cache with a clock stands for its history. Its keys were all put or hit some marks ago,
and stand in that order, the latest first. An entry holds what was last put under its key and when;
its age is the time since then, it has expired when that age is the time to live or more, and so it
never does if the end of its time lies past the last instant of a clock. -/
structure Represents (ttl capacity : Nat) (s : Session K V) (marks : List (Mark K V)) : Prop where
  nodup : s.cache.keys.Nodup
  bounded : s.cache.size ≤ max capacity 1
  used : ∀ k ∈ s.cache.keys, sinceUse k marks < marks.length
  inOrder : s.cache.keys.Pairwise fun j k => sinceUse j marks < sinceUse k marks
  written : ∀ p ∈ s.cache.entries, lastWrite p.1 marks = some (p.2.value, p.2.insertedAt)
  past : ∀ p ∈ s.cache.entries, p.2.insertedAt ≤ s.clock.now
  age : ∀ p ∈ s.cache.entries,
    (Session.step (.age p.1) s).1 = .age (some (s.clock.now - p.2.insertedAt))
  expired : ∀ p ∈ s.cache.entries,
    p.2.isExpired s.clock.now = true ↔ ttl ≤ s.clock.now - p.2.insertedAt
  contains : ∀ p ∈ s.cache.entries,
    (Session.step (.contains p.1) s).1 = .flag (decide (s.clock.now - p.2.insertedAt < ttl))
  lasting : ∀ p ∈ s.cache.entries, lastInstant < p.2.insertedAt + ttl →
    ∀ clock : Clock, p.2.isExpired clock.now = false

/-- A history that explains the entries of a cache is one that the cache stands for. -/
theorem Explained.represents {ttl capacity : Nat} {s : Session K V} {marks : List (Mark K V)}
    (h : Explained ttl (max capacity 1) s.cache s.clock.now marks) (hProper : s.cache.Proper) :
    Represents ttl capacity s marks := by
  have hNow := s.clock.now_le_lastInstant
  have hExpired {p : K × Entry V} (hp : p ∈ s.cache.entries) :
      p.2.isExpired s.clock.now = true ↔ ttl ≤ s.clock.now - p.2.insertedAt := by
    have hPast := (h.written p hp).2
    rw [h.isExpired_iff hNow hp]
    omega
  constructor
  case nodup => exact h.nodup
  case bounded => exact h.capacity_eq ▸ hProper.size_le
  case used =>
    intro k hk
    obtain ⟨p, hp, rfl⟩ := List.mem_map.1 hk
    exact sinceUse_lt_length_of_lastWrite (h.written p hp).1
  case inOrder => exact List.pairwise_map.2 h.inOrderOfUse
  case written => exact fun p hp => (h.written p hp).1
  case past => exact fun p hp => (h.written p hp).2
  case age =>
    intro p hp
    simp only [Session.step, age?, peek?_of_mem h.nodup hp, Option.map_some]
  case expired => exact fun p hp => hExpired hp
  case contains =>
    intro p hp
    have hAlive : (!p.2.isExpired s.clock.now) = decide (s.clock.now - p.2.insertedAt < ttl) := by
      rw [Bool.eq_iff_iff, Bool.not_eq_true', decide_eq_true_iff, ← Bool.not_eq_true, hExpired hp,
        Nat.not_le]
    simp only [Session.step, Cache.contains, peek?_of_mem h.nodup hp, Option.any_some, hAlive]
  case lasting =>
    intro p hp hEnd clock
    rw [← Bool.not_eq_true, (h.timed p hp).isExpired_iff clock.now_le_lastInstant]
    have := clock.now_le_lastInstant
    omega

/-- A cache stands for its history in every state that a run of an empty cache passes through,
within the loaders of loads at any depth too. The history is that of the first of the acts that the
run comes to. -/
theorem represents_history (ttl capacity : Nat) (clock : Clock) (ops : List (Op K V))
    {s : Session K V} (hPasses : Session.Passes ops (.opening ttl capacity clock) s) :
    ∃ acts, acts <+: Session.unrollAll ops (.opening ttl capacity clock) ∧
      (chronicle (.opening ttl capacity clock) acts).session = s ∧
      Represents ttl capacity s (chronicle (.opening ttl capacity clock) acts).marks := by
  obtain ⟨acts, hActs, rfl⟩ := hPasses.exists_acts
  have hStart : Chronicle.Holds ttl (max capacity 1)
      { session := (Session.opening ttl capacity clock : Session K V) } :=
    Explained.empty ttl capacity clock.now
  have hSession := Chronicle.session_recordAll
    { session := (Session.opening ttl capacity clock : Session K V) } acts
  refine ⟨acts, hActs, hSession, ?_⟩
  rw [← hSession]
  refine (hStart.recordAll acts).represents ?_
  rw [hSession]
  exact Session.proper_foldl (.empty ttl capacity) acts

/-- Within a loader within a loader: the outer one has stored key 2 and is two nanoseconds on, the
inner one has found it. -/
theorem represents_history_nested :
    let inner : List (Op Nat Nat) := [.get 2, .purge]
    let outer : List (Op Nat Nat) := [.put 2 5, .advance 2, .load 3 inner (some 7)]
    let start : Session Nat Nat := .opening 10 2 {}
    ∃ s, Session.Passes [.load 1 outer none] start s ∧ s.cache.keys = [2] ∧
      ∃ acts, acts <+: Session.unrollAll [.load 1 outer none] start ∧
        (chronicle start acts).session = s ∧
        Represents 10 2 s (chronicle start acts).marks := by
  intro inner outer start
  have hPasses : Session.Passes [.load 1 outer none] start
      (Session.run [.get 1, .put 2 5, .advance 2, .get 3, .get 2] start).2 :=
    .within rfl (.later (.later (.within rfl (.later (.here [.purge] _)))))
  exact ⟨_, hPasses, rfl, represents_history 10 2 {} [.load 1 outer none] hPasses⟩

end Tollgate.Cache
