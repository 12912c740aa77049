import Tollgate.Proofs.Cache.Gates

/-!
Which keys keep a lock. Tasks ask for gates, act on the locks that they are handed, let go of them
and are dropped, one single step after the other in any order. A key has a lock while there is a
task at its gate, and in one more case: the last task at the gate was handed the lock and dropped
before it acted on it. Then the key keeps a lock that nobody has a handle on, until somebody asks
for the gate again.
-/

namespace Tollgate

/-- A single step of a task at the gates. -/
inductive GateMove (K T : Type)
  | ask (t : T) (k : K)
  | resume (t : T)
  | release (t : T)
  | drop (t : T)

/-- The gates and the tasks at them: the place of each, and whether it has acted on its lock. -/
structure GateTraffic (K T : Type) where
  gates : Gates K T := {}
  places : T → Option (Pass K) := fun _ => none
  entered : T → Bool := fun _ => false

/-- Whoever lets go takes the lock from no other key. -/
theorem Gates.get?_release_of_ne {K T : Type} [DecidableEq K] (g : Gates K T) {k j : K} (l : LockId)
    (h : j ≠ k) : (g.release k l).table.get? j = g.table.get? j := by
  unfold release tidy
  split
  · rfl
  · split_ifs
    · exact (Table.get?_erase _ _ _).trans (if_neg h)
    · rfl

namespace GateTraffic

variable {K T : Type} [DecidableEq K] [DecidableEq T]

/-- A task comes to the gate of a key. If that is free, it has acted on the lock at once. -/
def arrive (s : GateTraffic K T) (t : T) (k : K) : GateTraffic K T :=
  let (l, gates) := s.gates.join k t
  { gates := gates
    places := Function.update s.places t (some ⟨k, l⟩)
    entered := Function.update s.entered t (gates.isHeldBy l t) }

/-- A task is gone, and leaves these gates. -/
def leave (s : GateTraffic K T) (t : T) (gates : Gates K T) : GateTraffic K T where
  gates := gates
  places := Function.update s.places t none
  entered := Function.update s.entered t false

/-- Lets a task make a step. A task is at one gate at most and gets a free one at once; one that
waits acts on its lock some time after it was handed it; and one that has acted lets go of the lock
when it is done or dropped. A step that a task cannot make changes nothing. -/
def step (s : GateTraffic K T) : GateMove K T → GateTraffic K T
  | .ask t k =>
    match s.places t with
    | some _ => s
    | none => s.arrive t k
  | .resume t =>
    match s.places t with
    | none => s
    | some p =>
      if s.gates.isHeldBy p.lock t then { s with entered := Function.update s.entered t true } else s
  | .release t =>
    match s.places t with
    | none => s
    | some p => if s.entered t then s.leave t (s.gates.release p.key p.lock) else s
  | .drop t =>
    match s.places t with
    | none => s
    | some p =>
      s.leave t
        (if s.entered t then s.gates.release p.key p.lock else s.gates.abandon p.lock t)

/-- Lets tasks make steps, one after the other. -/
def run (s : GateTraffic K T) : List (GateMove K T) → GateTraffic K T
  | [] => s
  | m :: ms => (s.step m).run ms

/-- Whether a step leaves a key with a lock and nobody there: its task is the last at the gate of the
key, has been handed the lock, and is dropped before it acts on it. -/
def strands (s : GateTraffic K T) (k : K) : GateMove K T → Bool
  | .drop t =>
    match s.places t with
    | none => false
    | some p => p.key = k && !s.entered t && s.gates.members p.lock = [t]
  | .ask _ _ | .resume _ | .release _ => false

/-- Whether a step brings a task to the gate of a key. -/
def visits (s : GateTraffic K T) (k : K) : GateMove K T → Bool
  | .ask t k' => k' = k && (s.places t).isNone
  | .resume _ | .release _ | .drop _ => false

/-- The keys that a run leaves with a lock and nobody there, given those that were left so before. -/
def stranded (before : K → Bool) (s : GateTraffic K T) : List (GateMove K T) → K → Bool
  | [] => before
  | m :: ms => (s.step m).stranded (fun k => !s.visits k m && (before k || s.strands k m)) ms

/-- The gates are in order for the tasks at them, those that have acted on a lock hold it, and the
keys of which a lock is kept for nobody are the stranded ones. -/
structure Kept (s : GateTraffic K T) (stranded : K → Bool) : Prop where
  serves : s.gates.Serves s.places
  holds : ∀ t, s.entered t → ∃ p, s.places t = some p ∧ s.gates.holder? p.lock = some t
  unused : ∀ k l, s.gates.table.get? k = some l → (s.gates.members l = [] ↔ stranded k)
  keeps : ∀ k, stranded k → (s.gates.table.get? k).isSome

namespace Kept

variable {s : GateTraffic K T} {stranded : K → Bool} {t : T} {p : Pass K}

omit [DecidableEq T] in
theorem start : ({} : GateTraffic K T).Kept fun _ => false where
  serves := .empty
  holds _ h := by cases h
  unused _ _ h := by cases h
  keeps _ h := by cases h

omit [DecidableEq T] in
/-- A key at whose gate there is a task is not stranded. -/
theorem not_stranded (h : s.Kept stranded) (hPlace : s.places t = some p) :
    stranded p.key = false := by
  rw [← Bool.not_eq_true, ← h.unused p.key p.lock (h.serves.shared t p hPlace)]
  exact List.ne_nil_of_mem ((h.serves.mem_members p.lock t).2 ⟨p.key, hPlace⟩)

omit [DecidableEq T] in
/-- A task is at no gate but its own. -/
theorem not_mem_members (h : s.Kept stranded) (hPlace : s.places t = some p) {k : K} {l : LockId}
    (hTable : s.gates.table.get? k = some l) (hKey : k ≠ p.key) : t ∉ s.gates.members l := by
  intro hMem
  obtain ⟨k', hAt⟩ := (h.serves.mem_members l t).1 hMem
  have hShared := h.serves.shared t _ hAt
  have hSame : p = ⟨k', l⟩ := Option.some.inj (hPlace.symm.trans hAt)
  exact hKey (hSame ▸ h.serves.injective k k' l hTable hShared)

/-- Whoever asks finds the lock that the key has kept, or gets a new one. -/
theorem arrive (h : s.Kept stranded) (hPlace : s.places t = none) (k : K) :
    (s.arrive t k).Kept fun j => !decide (k = j) && stranded j := by
  have hServes := h.serves.join k hPlace
  have hTable := s.gates.get?_join k t
  have hMembers := h.serves.members_join k t
  constructor
  case serves => exact hServes
  case holds =>
    intro u hEntered
    change Function.update s.entered t _ u = true at hEntered
    show ∃ p, Function.update s.places t _ u = some p ∧ (s.gates.join k t).2.holder? p.lock = some u
    by_cases hu : u = t
    · subst u
      rw [Function.update_self] at hEntered ⊢
      exact ⟨_, rfl, of_decide_eq_true hEntered⟩
    · rw [Function.update_of_ne hu] at hEntered ⊢
      obtain ⟨q, hq, hHolder⟩ := h.holds u hEntered
      exact ⟨q, hq, h.serves.holder?_join k t hHolder⟩
  case unused =>
    intro j l hj
    show (s.gates.join k t).2.members l = [] ↔ _
    change (s.gates.join k t).2.table.get? j = some l at hj
    have hOwn := (hTable k).trans (if_pos rfl)
    rw [hMembers]
    by_cases hKey : j = k
    · subst j
      obtain rfl := Option.some.inj (hj.symm.trans hOwn)
      simp
    · have hLock : l ≠ (s.gates.join k t).1 := by
        rintro rfl
        exact hKey (hServes.injective j k _ hj hOwn)
      rw [hTable, if_neg hKey] at hj
      rw [if_neg hLock, h.unused j l hj]
      simp [Ne.symm hKey]
  case keeps =>
    intro j hj
    show ((s.gates.join k t).2.table.get? j).isSome
    rw [hTable]
    split_ifs with hKey
    · rfl
    · exact h.keeps j (Bool.and_eq_true_iff.1 hj).2

/-- Whoever goes leaves the queue of its lock. `left` says whether the key of its gate then has a
lock that nobody is at. -/
theorem leave (h : s.Kept stranded) (hPlace : s.places t = some p) {gates : Gates K T}
    (hServes : gates.Serves (Function.update s.places t none))
    (hMembers : ∀ l, gates.members l = (s.gates.members l).filter (· ≠ t))
    (hTable : ∀ k, k ≠ p.key → gates.table.get? k = s.gates.table.get? k) (left : Bool)
    (hUnused : ∀ l, gates.table.get? p.key = some l → (gates.members l = [] ↔ left))
    (hLeft : left → (gates.table.get? p.key).isSome) :
    (s.leave t gates).Kept fun k => stranded k || (p.key = k && left) := by
  constructor
  case serves => exact hServes
  case holds =>
    intro u hEntered
    change Function.update s.entered t false u = true at hEntered
    show ∃ q, Function.update s.places t none u = some q ∧ gates.holder? q.lock = some u
    have hu : u ≠ t := by
      rintro rfl
      rw [Function.update_self] at hEntered
      cases hEntered
    rw [Function.update_of_ne hu] at hEntered ⊢
    obtain ⟨q, hq, hHolder⟩ := h.holds u hEntered
    refine ⟨q, hq, ?_⟩
    rw [Gates.holder?_eq_head?] at hHolder ⊢
    obtain ⟨waiting, hQueue⟩ := List.head?_eq_some_iff.1 hHolder
    rw [hMembers, hQueue, List.filter_cons_of_pos (by simpa using hu), List.head?_cons]
  case unused =>
    intro k l hk
    show gates.members l = [] ↔ _
    change gates.table.get? k = some l at hk
    by_cases hKey : k = p.key
    · subst k
      simpa [h.not_stranded hPlace] using hUnused l hk
    · rw [hTable k hKey] at hk
      have hOthers : (s.gates.members l).filter (· ≠ t) = s.gates.members l := by
        refine List.filter_eq_self.2 fun u hu => decide_eq_true ?_
        rintro rfl
        exact h.not_mem_members hPlace hk hKey hu
      rw [hMembers, hOthers, h.unused k l hk]
      simp [Ne.symm hKey]
  case keeps =>
    intro k hk
    show (gates.table.get? k).isSome
    by_cases hKey : k = p.key
    · subst k
      refine hLeft ?_
      simpa [h.not_stranded hPlace] using hk
    · rw [hTable k hKey]
      refine h.keeps k ?_
      simpa [Ne.symm hKey] using hk

/-- Whoever lets go of a lock leaves no key with a lock that nobody is at. -/
theorem release (h : s.Kept stranded) (hPlace : s.places t = some p) (hEntered : s.entered t) :
    (s.leave t (s.gates.release p.key p.lock)).Kept stranded := by
  obtain ⟨q, hq, hHolder⟩ := h.holds t hEntered
  obtain rfl := Option.some.inj (hPlace.symm.trans hq)
  have hServes := h.serves.release hPlace hHolder
  have hLeave := h.leave hPlace hServes (h.serves.members_release hPlace hHolder)
    (fun k hk => s.gates.get?_release_of_ne p.lock hk) false ?_ nofun
  · simpa using hLeave
  · intro l hTable
    have hUsed := (Gates.get?_release hTable).2 rfl
    rw [hServes.handles, Ne, List.length_eq_zero_iff] at hUsed
    simpa using hUsed

/-- Whoever gives up before it acts on a lock leaves the key of its gate with it. -/
theorem abandon (h : s.Kept stranded) (hPlace : s.places t = some p) :
    (s.leave t (s.gates.abandon p.lock t)).Kept fun k =>
      stranded k || (p.key = k && decide (s.gates.members p.lock = [t])) := by
  have hShared := h.serves.shared t p hPlace
  have hMembers := h.serves.members_abandon hPlace
  refine h.leave hPlace (h.serves.abandon hPlace) hMembers (fun _ _ => rfl) _ ?_ ?_
  · intro l hTable
    obtain rfl := Option.some.inj (hShared.symm.trans hTable)
    have hMem : t ∈ s.gates.members p.lock := (h.serves.mem_members _ t).2 ⟨p.key, hPlace⟩
    rw [hMembers, decide_eq_true_iff]
    constructor
    · intro hEmpty
      have hSame : ∀ u ∈ s.gates.members p.lock, u = t := by
        simpa using List.filter_eq_nil_iff.1 hEmpty
      exact List.perm_singleton.1 <|
        (List.perm_ext_iff_of_nodup (h.serves.nodup p.lock) (List.nodup_singleton t)).2 fun u =>
          ⟨fun hu => List.mem_singleton.2 (hSame u hu), fun hu => List.mem_singleton.1 hu ▸ hMem⟩
    · intro hAlone
      simp [hAlone]
  · intro _
    exact Option.isSome_of_eq_some hShared

/-- A step keeps the gates in order, and strands a key only by dropping the last at its gate between
being handed the lock and acting on it. -/
theorem step (h : s.Kept stranded) (m : GateMove K T) :
    (s.step m).Kept fun k => !s.visits k m && (stranded k || s.strands k m) := by
  cases m with
  | ask t k =>
      cases hPlace : s.places t with
      | some p => simpa [GateTraffic.step, visits, strands, hPlace] using h
      | none => simpa [GateTraffic.step, visits, strands, hPlace] using h.arrive hPlace k
  | resume t =>
      cases hPlace : s.places t with
      | none => simpa [GateTraffic.step, visits, strands, hPlace] using h
      | some p =>
          simp only [GateTraffic.step, visits, strands, hPlace, Bool.not_false, Bool.true_and,
            Bool.or_false]
          split_ifs with hHeld
          · refine ⟨h.serves, fun u hEntered => ?_, h.unused, h.keeps⟩
            change Function.update s.entered t true u = true at hEntered
            by_cases hu : u = t
            · subst u
              exact ⟨p, hPlace, of_decide_eq_true hHeld⟩
            · rw [Function.update_of_ne hu] at hEntered
              exact h.holds u hEntered
          · exact h
  | release t =>
      cases hPlace : s.places t with
      | none => simpa [GateTraffic.step, visits, strands, hPlace] using h
      | some p =>
          simp only [GateTraffic.step, visits, strands, hPlace, Bool.not_false, Bool.true_and,
            Bool.or_false]
          split_ifs with hEntered
          · exact h.release hPlace hEntered
          · exact h
  | drop t =>
      cases hPlace : s.places t with
      | none => simpa [GateTraffic.step, visits, strands, hPlace] using h
      | some p =>
          simp only [GateTraffic.step, visits, strands, hPlace, Bool.not_false, Bool.true_and]
          split_ifs with hEntered
          · simpa [hEntered] using h.release hPlace hEntered
          · simpa [hEntered] using h.abandon hPlace

theorem run (h : s.Kept stranded) (ms : List (GateMove K T)) :
    (s.run ms).Kept (s.stranded stranded ms) := by
  induction ms generalizing s stranded with
  | nil => exact h
  | cons m ms ih => exact ih (h.step m)

omit [DecidableEq T] in
/-- A key has a lock while there is a task at its gate, or if it is stranded. -/
theorem isSome_iff (h : s.Kept stranded) (k : K) :
    (s.gates.table.get? k).isSome ↔
      (∃ t l, s.places t = some ⟨k, l⟩) ∨ stranded k := by
  constructor
  · intro hSome
    obtain ⟨l, hTable⟩ := Option.isSome_iff_exists.1 hSome
    rw [← h.unused k l hTable, or_iff_not_imp_right]
    intro hUsed
    obtain ⟨t, ht⟩ := List.exists_mem_of_ne_nil _ hUsed
    obtain ⟨k', hPlace⟩ := (h.serves.mem_members l t).1 ht
    obtain rfl := h.serves.injective k k' l hTable (h.serves.shared t _ hPlace)
    exact ⟨t, l, hPlace⟩
  · rintro (⟨t, l, hPlace⟩ | hStranded)
    · exact Option.isSome_of_eq_some (h.serves.shared t _ hPlace)
    · exact h.keeps k hStranded

end Kept

/-- Which keys have a lock after any steps of any tasks: those at whose gates there are tasks, and
those that are stranded. -/
theorem locked_iff (ms : List (GateMove K T)) (k : K) :
    let start : GateTraffic K T := {}
    let s := start.run ms
    (s.gates.table.get? k).isSome ↔
      (∃ t l, s.places t = some ⟨k, l⟩) ∨ start.stranded (fun _ => false) ms k := by
  intro start s
  exact (Kept.start.run ms).isSome_iff k

/-- One task has the gate of a key and another waits for it. The first lets go, and the other is
dropped before it acts on the lock that it was handed. Nobody is at the gate, and the key has a
lock. -/
theorem locked_without_tasks :
    let s := ({} : GateTraffic Bool Bool).run
      [.ask false true, .ask true true, .release false, .drop true]
    (s.gates.table.get? true).isSome ∧ ∀ t, s.places t = none := by
  decide

end GateTraffic

end Tollgate
