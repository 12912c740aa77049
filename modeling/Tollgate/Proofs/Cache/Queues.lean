import Mathlib.Data.List.Nodup
import Tollgate.Cache.Concern
import Tollgate.Proofs.Cache.Gates

/-!
The callers of one concern, queue by queue. The list of callers keeps the order in which they asked,
so those of a service stand in it as they stand at the gate: the first has the gate, and the others
wait. What an operation does to a queue, and what callers then do that were told to let go, can be
said of the queue alone.
-/

namespace Tollgate

namespace Caller

/-- A caller after whoever has this number is told to let go. -/
def tell (id : String) (a : Caller) : Caller :=
  if a.id = id then { a with told := true } else a

@[simp]
theorem id_tell (id : String) (a : Caller) : (a.tell id).id = a.id := by
  unfold tell
  split <;> rfl

@[simp]
theorem service_tell (id : String) (a : Caller) : (a.tell id).service = a.service := by
  unfold tell
  split <;> rfl

@[simp]
theorem lock_tell (id : String) (a : Caller) : (a.tell id).lock = a.lock := by
  unfold tell
  split <;> rfl

end Caller

namespace ConcernSession

variable {c : Concern}

/-- The place that a caller has at a gate. -/
def places (s : ConcernSession c) (id : String) : Option (Pass ServiceId) :=
  (s.callers.find? (·.id = id)).map fun caller => ⟨caller.service, caller.lock⟩

/-- Those at the gate of a service, in the order in which they asked. -/
def queue (s : ConcernSession c) (k : ServiceId) : List Caller :=
  s.callers.filter (·.service = k)

/-- Those who wait at the gate of a service, in the order in which they asked. -/
def waiters (s : ConcernSession c) (k : ServiceId) : List Caller :=
  (s.queue k).filter fun caller => !s.isHolding caller

/-- Who holds the gate of a service. -/
def holder? (s : ConcernSession c) (k : ServiceId) : Option Caller :=
  (s.queue k).find? s.isHolding

/-- The callers are at the gates in the order in which they asked, and a service has a lock only
while there is a caller for it. -/
structure Queued (s : ConcernSession c) : Prop where
  ids : (s.callers.map (·.id)).Nodup
  serves : s.gates.Serves s.places
  members : ∀ l, s.gates.members l = (s.callers.filter (·.lock = l)).map (·.id)
  used : ∀ k l, s.gates.table.get? k = some l → ∃ caller ∈ s.callers, caller.service = k

/-- Among callers with numbers of their own, each is found by its number. -/
theorem find?_id {callers : List Caller} (h : (callers.map (·.id)).Nodup) {caller : Caller}
    (hMem : caller ∈ callers) : callers.find? (·.id = caller.id) = some caller := by
  cases hFound : callers.find? (·.id = caller.id) with
  | none =>
      have hNone := List.find?_eq_none.1 hFound caller hMem
      simp at hNone
  | some found =>
      have hSame : found.id = caller.id := by simpa using List.find?_some hFound
      exact congrArg some (List.inj_on_of_nodup_map h (List.mem_of_find?_eq_some hFound) hMem hSame)

namespace Queued

variable {s : ConcernSession c}

theorem start (cache : ConcernCache c) (clock : Cache.Clock) :
    ({ cache, clock } : ConcernSession c).Queued where
  ids := List.nodup_nil
  serves := .empty
  members _ := rfl
  used _ _ h := by cases h

theorem eq_of_id (h : s.Queued) {a b : Caller} (ha : a ∈ s.callers) (hb : b ∈ s.callers)
    (hId : a.id = b.id) : a = b :=
  List.inj_on_of_nodup_map h.ids ha hb hId

theorem places_of_mem (h : s.Queued) {a : Caller} (ha : a ∈ s.callers) :
    s.places a.id = some ⟨a.service, a.lock⟩ := by
  rw [places, find?_id h.ids ha]
  rfl

/-- Callers are at one gate exactly if they have one lock. -/
theorem service_eq_iff (h : s.Queued) {a b : Caller} (ha : a ∈ s.callers) (hb : b ∈ s.callers) :
    a.service = b.service ↔ a.lock = b.lock := by
  have hA := h.places_of_mem ha
  have hB := h.places_of_mem hb
  constructor
  · intro hService
    exact congrArg Pass.lock (h.serves.lock_eq_of_key_eq hA hB hService)
  · intro hLock
    exact congrArg Pass.key (h.serves.key_eq_of_lock_eq hA hB hLock)

/-- Whoever has the gate of its service is first in the queue, and the other way round. -/
theorem isHolding_iff (h : s.Queued) {a : Caller} (ha : a ∈ s.callers) :
    s.isHolding a ↔ (s.queue a.service).head? = some a := by
  have hQueue : s.queue a.service = s.callers.filter (·.lock = a.lock) :=
    List.filter_congr fun b hb => decide_eq_decide.2 (h.service_eq_iff hb ha)
  have hHolder : s.gates.holder? a.lock = (s.queue a.service).head?.map (·.id) := by
    rw [Gates.holder?_eq_head?, h.members, hQueue, List.head?_map]
  rw [isHolding, Gates.isHeldBy, hHolder, decide_eq_true_iff, Option.map_eq_some_iff]
  constructor
  · rintro ⟨b, hHead, hId⟩
    have hb : b ∈ s.callers := List.mem_of_mem_filter (List.mem_of_head? hHead)
    rw [hHead, h.eq_of_id hb ha hId]
  · intro hHead
    exact ⟨a, hHead, rfl⟩

theorem isHolding_cons_iff (h : s.Queued) {k : ServiceId} {first a : Caller} {rest : List Caller}
    (hQueue : s.queue k = first :: rest) (ha : a ∈ first :: rest) :
    s.isHolding a ↔ a = first := by
  rw [← hQueue] at ha
  obtain ⟨hMem, hService⟩ := List.mem_filter.1 ha
  obtain rfl := of_decide_eq_true hService
  rw [h.isHolding_iff hMem, hQueue, List.head?_cons, Option.some_inj]
  exact eq_comm

theorem nodup_queue (h : s.Queued) (k : ServiceId) : ((s.queue k).map (·.id)).Nodup :=
  h.ids.sublist (List.filter_sublist.map _)

/-- The first in a queue holds the gate, and the others wait. -/
theorem holder?_waiters (h : s.Queued) (k : ServiceId) :
    s.holder? k = (s.queue k).head? ∧ s.waiters k = (s.queue k).tail := by
  unfold holder? waiters
  cases hQueue : s.queue k with
  | nil => exact ⟨rfl, rfl⟩
  | cons first rest =>
      have hIff : ∀ a ∈ first :: rest, s.isHolding a ↔ a = first :=
        fun a => h.isHolding_cons_iff hQueue
      have hFirst : s.isHolding first := (hIff first List.mem_cons_self).2 rfl
      have hRest : ∀ a ∈ rest, (!s.isHolding a) = true := by
        intro a ha
        rw [Bool.not_eq_true', ← Bool.not_eq_true, hIff a (List.mem_cons_of_mem _ ha)]
        rintro rfl
        have hNodup := h.nodup_queue k
        rw [hQueue] at hNodup
        exact (List.nodup_cons.1 hNodup.of_map).1 ha
      constructor
      · exact List.find?_cons_of_pos hFirst
      · rw [List.filter_cons_of_neg (by simp [hFirst]), List.filter_eq_self.2 hRest]
        rfl

/-- A caller goes away once its place at the gates is given up. -/
theorem forget (h : s.Queued) {a : Caller} {gates : Gates ServiceId String}
    (hServes : gates.Serves (Function.update s.places a.id none))
    (hMembers : ∀ l, gates.members l = (s.gates.members l).filter (· ≠ a.id))
    (hUsed : ∀ k l, gates.table.get? k = some l →
      ∃ b ∈ s.callers, b.id ≠ a.id ∧ b.service = k) :
    ({ s with gates := gates, callers := s.forget a.id } : ConcernSession c).Queued where
  ids := h.ids.sublist (List.filter_sublist.map _)
  serves := by
    refine (congrArg gates.Serves (funext fun id => ?_)).mp hServes
    simp only [places, ConcernSession.forget, List.find?_filter]
    by_cases hId : id = a.id
    · subst id
      rw [Function.update_self, List.find?_eq_none.2 (by simp)]
      rfl
    · rw [Function.update_of_ne hId, places]
      congr 2
      funext b
      by_cases hb : b.id = id <;> simp [hb, hId]
  members l := by
    rw [hMembers, h.members]
    simp only [ConcernSession.forget, List.filter_map, List.filter_filter, Function.comp_def,
      Bool.and_comm]
  used k l hTable := by
    obtain ⟨b, hb, hOther, hService⟩ := hUsed k l hTable
    exact ⟨b, List.mem_filter.2 ⟨hb, decide_eq_true hOther⟩, hService⟩

/-- A caller that has its gate lets go of it. If anybody else is there, the service keeps its lock.
-/
theorem release (h : s.Queued) {a : Caller} (ha : a ∈ s.callers) (hHolding : s.isHolding a) :
    ({ s with
      gates := s.gates.release a.service a.lock
      callers := s.forget a.id } : ConcernSession c).Queued := by
  have hPlace := h.places_of_mem ha
  have hHolder : s.gates.holder? a.lock = some a.id := of_decide_eq_true hHolding
  have hServes := h.serves.release hPlace hHolder
  have hMembers := h.serves.members_release hPlace hHolder
  refine h.forget hServes hMembers ?_
  intro k l hTable
  obtain ⟨hBefore, hHandles⟩ := Gates.get?_release hTable
  by_cases hk : k = a.service
  · -- The service of the caller keeps its lock only if somebody else is in the queue of the lock.
    have hLength : ((s.gates.release a.service a.lock).members l).length ≠ 0 := by
      rw [← hServes.handles]
      exact hHandles hk
    obtain ⟨id, hId⟩ := List.exists_mem_of_length_pos (Nat.pos_of_ne_zero hLength)
    rw [hMembers, h.members, List.mem_filter, List.mem_map] at hId
    obtain ⟨⟨b, hb, rfl⟩, hOther⟩ := hId
    obtain ⟨hb, hLock⟩ := List.mem_filter.1 hb
    have hOwn := h.serves.shared _ _ hPlace
    rw [hk, hOwn] at hBefore
    have hSame : b.lock = a.lock := (of_decide_eq_true hLock).trans (Option.some.inj hBefore).symm
    exact ⟨b, hb, of_decide_eq_true hOther, ((h.service_eq_iff hb ha).2 hSame).trans hk.symm⟩
  · obtain ⟨b, hb, rfl⟩ := h.used k l hBefore
    refine ⟨b, hb, ?_, rfl⟩
    intro hId
    exact hk (congrArg Caller.service (h.eq_of_id hb ha hId))

/-- A caller that waits goes away. The service keeps its lock, as somebody has the gate. -/
theorem abandon (h : s.Queued) {a : Caller} (ha : a ∈ s.callers) (hWaits : ¬s.isHolding a) :
    ({ s with
      gates := s.gates.abandon a.lock a.id
      callers := s.forget a.id } : ConcernSession c).Queued := by
  have hPlace := h.places_of_mem ha
  refine h.forget (h.serves.abandon hPlace) (h.serves.members_abandon hPlace) ?_
  intro k l hTable
  obtain ⟨b, hb, rfl⟩ := h.used k l hTable
  by_cases hId : b.id = a.id
  · obtain rfl := h.eq_of_id hb ha hId
    have hMem : b ∈ s.queue b.service := List.mem_filter.2 ⟨hb, decide_eq_true rfl⟩
    obtain ⟨first, hFirst⟩ : ∃ first, (s.queue b.service).head? = some first := by
      cases hQueue : s.queue b.service with
      | nil => rw [hQueue] at hMem; cases hMem
      | cons first rest => exact ⟨first, rfl⟩
    obtain ⟨hOther, hService⟩ := List.mem_filter.1 (List.mem_of_head? hFirst)
    refine ⟨first, hOther, ?_, of_decide_eq_true hService⟩
    intro hSame
    rw [h.eq_of_id hOther hb hSame] at hFirst
    exact hWaits ((h.isHolding_iff hb).2 hFirst)
  · exact ⟨b, hb, hId, rfl⟩

/-- Somebody new asks for a gate. -/
theorem ask (h : s.Queued) {id : String} (hNew : id ∉ s.callers.map (·.id)) (k : ServiceId) :
    (s.apply (.ask id k)).2.Queued := by
  have hAbsent : s.callers.find? (·.id = id) = none := by
    refine List.find?_eq_none.2 fun b hb hId => hNew ?_
    exact List.mem_map.2 ⟨b, hb, of_decide_eq_true hId⟩
  have hNone : s.places id = none := by rw [places, hAbsent]; rfl
  constructor
  case ids =>
    simp only [apply, List.map_append, List.map_cons, List.map_nil]
    rw [← List.concat_eq_append]
    exact h.ids.concat hNew
  case serves =>
    refine (congrArg (Gates.Serves _) (funext fun id' => ?_)).mp (h.serves.join k hNone)
    simp only [places, apply, List.find?_append]
    by_cases hId : id' = id
    · subst id'
      simp [hAbsent]
    · rw [Function.update_of_ne hId, places]
      cases s.callers.find? (·.id = id') with
      | some b => rfl
      | none => simp [Ne.symm hId]
  case members =>
    intro l
    refine (h.serves.members_join k id l).trans ?_
    simp only [apply, List.filter_append, List.map_append, h.members]
    split_ifs with hl
    · simp [hl]
    · simp [Ne.symm hl]
  case used =>
    intro j l hTable
    simp only [apply] at hTable ⊢
    rw [Gates.get?_join] at hTable
    by_cases hj : j = k
    · exact ⟨_, List.mem_append_right _ (List.mem_singleton.2 rfl), hj.symm⟩
    · rw [if_neg hj] at hTable
      obtain ⟨b, hb, hService⟩ := h.used j l hTable
      exact ⟨b, List.mem_append_left _ hb, hService⟩

/-- A caller is told to let go, which moves nobody. -/
theorem tell (h : s.Queued) (id : String) :
    ({ s with callers := s.callers.map (Caller.tell id) } : ConcernSession c).Queued where
  ids := by
    rw [List.map_map]
    exact (congrArg List.Nodup (List.map_congr_left fun a _ => a.id_tell id)).mpr h.ids
  serves := by
    refine (congrArg s.gates.Serves (funext fun id' => ?_)).mp h.serves
    simp [places, List.find?_map, Function.comp_def]
  members l := by
    rw [h.members, List.filter_map, List.map_map]
    simp [Function.comp_def]
  used k l hTable := by
    obtain ⟨a, ha, hService⟩ := h.used k l hTable
    exact ⟨a.tell id, List.mem_map_of_mem ha, (a.service_tell id).trans hService⟩

/-- An operation without a caller moves nobody. -/
theorem same (h : s.Queued) (cache : ConcernCache c) (clock : Cache.Clock) :
    ({ s with cache := cache, clock := clock } : ConcernSession c).Queued :=
  { h with }

end Queued

theorem queue_forget (s : ConcernSession c) (gates : Gates ServiceId String) (id : String)
    (k : ServiceId) :
    ({ s with gates := gates, callers := s.forget id } : ConcernSession c).queue k =
      (s.queue k).filter (·.id ≠ id) := by
  simp only [queue, ConcernSession.forget, List.filter_filter, Bool.and_comm]

/-- The state after a caller that has its gate and is told to let go does so, if there is one. -/
def letGo? (s : ConcernSession c) : Option (ConcernSession c) :=
  (s.callers.find? fun caller => caller.told && s.isHolding caller).map fun caller =>
    { s with
      gates := s.gates.release caller.service caller.lock
      callers := s.forget caller.id }

theorem settle_succ (s : ConcernSession c) (n : Nat) :
    s.settle (n + 1) = s.letGo?.elim s (settle n) := by
  simp only [settle, letGo?]
  cases s.callers.find? fun caller => caller.told && s.isHolding caller <;> rfl

/-- Nobody that is first in a queue is told to let go. -/
def Quiet (s : ConcernSession c) : Prop :=
  ∀ k a, (s.queue k).head? = some a → a.told = false

theorem Quiet.dropWhile_queue {s : ConcernSession c} (h : s.Quiet) (k : ServiceId) :
    (s.queue k).dropWhile (·.told) = s.queue k := by
  cases hQueue : s.queue k with
  | nil => rfl
  | cons first rest =>
      have hFirst : first.told = false := h k first (by rw [hQueue]; rfl)
      exact List.dropWhile_cons_of_neg (by simp [hFirst])

namespace Queued

variable {s : ConcernSession c}

/-- A caller that has its gate is first in its queue, and going away leaves the rest. -/
theorem queue_of_isHolding (h : s.Queued) {a : Caller} (ha : a ∈ s.callers)
    (hHolding : s.isHolding a) :
    s.queue a.service = a :: (s.queue a.service).filter (·.id ≠ a.id) := by
  obtain ⟨rest, hQueue⟩ := List.head?_eq_some_iff.1 ((h.isHolding_iff ha).1 hHolding)
  have hNodup := h.nodup_queue a.service
  rw [hQueue, List.map_cons, List.nodup_cons] at hNodup
  have hRest : ∀ b ∈ rest, b.id ≠ a.id := by
    intro b hb hId
    exact hNodup.1 (hId ▸ List.mem_map_of_mem hb)
  rw [hQueue, List.filter_cons_of_neg (by simp),
    List.filter_eq_self.2 fun b hb => decide_eq_true (hRest b hb)]

/-- Whoever goes away was in the queue of one service. -/
theorem filter_queue_of_ne (h : s.Queued) {a : Caller} (ha : a ∈ s.callers) {k : ServiceId}
    (hk : a.service ≠ k) : (s.queue k).filter (·.id ≠ a.id) = s.queue k := by
  refine List.filter_eq_self.2 fun b hb => decide_eq_true fun hId => hk ?_
  obtain ⟨hMem, hService⟩ := List.mem_filter.1 hb
  rw [← h.eq_of_id hMem ha hId]
  exact of_decide_eq_true hService

/-- To let go is to leave the head of one queue. -/
theorem letGo (h : s.Queued) {s' : ConcernSession c} (hLet : s.letGo? = some s') :
    s'.Queued ∧ s'.callers.length < s.callers.length ∧
      ∀ k, s'.queue k = s.queue k ∨ ∃ a, a.told ∧ s.queue k = a :: s'.queue k := by
  obtain ⟨a, hFound, rfl⟩ := Option.map_eq_some_iff.1 hLet
  have ha := List.mem_of_find?_eq_some hFound
  have hFits := List.find?_some hFound
  rw [Bool.and_eq_true] at hFits
  obtain ⟨hTold, hHolding⟩ := hFits
  refine ⟨h.release ha hHolding, ?_, ?_⟩
  · exact List.length_filter_lt_length_iff_exists.2 ⟨a, ha, by simp⟩
  · intro k
    rw [queue_forget]
    by_cases hk : a.service = k
    · subst k
      exact Or.inr ⟨a, hTold, h.queue_of_isHolding ha hHolding⟩
    · exact Or.inl (h.filter_queue_of_ne ha hk)

theorem quiet_of_letGo? (h : s.Queued) (hNone : s.letGo? = none) : s.Quiet := by
  intro k a hHead
  obtain ⟨ha, hService⟩ := List.mem_filter.1 (List.mem_of_head? hHead)
  obtain rfl := of_decide_eq_true hService
  have hHolding := (h.isHolding_iff ha).2 hHead
  have hNot := List.find?_eq_none.1 (Option.map_eq_none_iff.1 hNone) a ha
  simpa [hHolding] using hNot

/-- Callers let go until no queue begins with one that is told to. -/
theorem settle (h : s.Queued) {n : Nat} (hn : s.callers.length ≤ n) :
    (s.settle n).Queued ∧ (s.settle n).Quiet ∧
      ∀ k, (s.settle n).queue k = (s.queue k).dropWhile (·.told) := by
  induction n generalizing s with
  | zero =>
      have hNone : s.callers = [] := List.length_eq_zero_iff.1 (Nat.le_zero.1 hn)
      have hQueue : ∀ k, s.queue k = [] := by simp [queue, hNone]
      refine ⟨h, ?_, ?_⟩
      · intro k a hHead
        rw [ConcernSession.settle, hQueue] at hHead
        cases hHead
      · intro k
        rw [ConcernSession.settle, hQueue]
        rfl
  | succ n ih =>
      rw [settle_succ]
      cases hLet : s.letGo? with
      | none =>
          have hQuiet := h.quiet_of_letGo? hLet
          exact ⟨h, hQuiet, fun k => (hQuiet.dropWhile_queue k).symm⟩
      | some s' =>
          obtain ⟨h', hLength, hQueues⟩ := h.letGo hLet
          obtain ⟨hEnd, hQuiet, hSettled⟩ := ih h' (by omega)
          refine ⟨hEnd, hQuiet, ?_⟩
          intro k
          rw [Option.elim_some, hSettled]
          obtain hSame | ⟨a, hTold, hQueue⟩ := hQueues k
          · rw [hSame]
          · rw [hQueue, List.dropWhile_cons_of_pos hTold]

end Queued

end ConcernSession

end Tollgate
