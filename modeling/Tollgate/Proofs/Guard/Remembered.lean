import Tollgate.Proofs.Guard.Course
import Tollgate.Proofs.Guard.SingleFlight
import Tollgate.Store.Memory

/-!
What is remembered of services, alive or not, and what comes of it: looks and invalidations take
something away, only a call that learns a fact adds it, and what happens around calls adds nothing.
-/

namespace Tollgate.Guard

variable {C S B A D : Type}

/-- A cache holds a fact about a service, alive or not. -/
def Scene.Remembers (x : Scene C S B) (c : Concern) (s : ServiceId) (fact : c.Fact) : Prop :=
  ∃ e, (s, e) ∈ (x.memory.cache c).entries ∧ e.value = fact

namespace Scene

variable {x y : Scene C S B} {c d : Concern} {s r : ServiceId}

/-- What is remembered is held in memory and nowhere else. -/
theorem remembers_of_memory {fact : c.Fact} (hMemory : y.memory = x.memory)
    (h : y.Remembers c s fact) : x.Remembers c s fact := by
  unfold Remembers at h ⊢
  rwa [hMemory] at h

theorem remembers_of_live {fact : c.Fact} (h : x.live? c s = some fact) : x.Remembers c s fact := by
  obtain ⟨e, hEntry, _, hValue⟩ := Cache.live?_eq_some_iff.1 h
  exact ⟨e, Cache.mem_of_peek? hEntry, hValue⟩

theorem remembers_of_look {fact : d.Fact} (h : (x.look c s).2.Remembers d r fact) :
    x.Remembers d r fact := by
  obtain ⟨e, hEntry, hValue⟩ := h
  refine ⟨e, ?_, hValue⟩
  by_cases hd : d = c
  · subst d
    rw [cache_look] at hEntry
    exact Cache.mem_entries_get hEntry
  · rwa [cache_look_of_ne x s hd] at hEntry

/-- A look that finds no live fact drops the one whose time is up, so nothing is left. -/
theorem not_remembers_look (h : x.live? c s = none) (fact : c.Fact) :
    ¬(x.look c s).2.Remembers c s fact := by
  rintro ⟨e, hEntry, _⟩
  rw [cache_look] at hEntry
  exact Cache.not_mem_entries_get h _ hEntry

/-- A fact that is learnt takes the place of what was remembered before. -/
theorem eq_of_remembers_learn {fact other : c.Fact} (h : (x.learn c s fact).Remembers c s other) :
    other = fact := by
  obtain ⟨e, hEntry, rfl⟩ := h
  rw [cache_learn] at hEntry
  rcases Cache.mem_entries_put hEntry with hNew | ⟨_, hKey⟩
  · cases hNew
    rfl
  · exact absurd rfl hKey

/-- Nothing else is remembered because a fact is learnt. -/
theorem remembers_of_learn {fact : c.Fact} {other : d.Fact} (hKey : (d, r) ≠ (c, s))
    (h : (x.learn c s fact).Remembers d r other) : x.Remembers d r other := by
  obtain ⟨e, hEntry, hValue⟩ := h
  refine ⟨e, ?_, hValue⟩
  by_cases hd : d = c
  · subst d
    rw [cache_learn] at hEntry
    rcases Cache.mem_entries_put hEntry with hNew | ⟨hOld, _⟩
    · cases hNew
      exact absurd rfl hKey
    · exact hOld
  · rwa [cache_learn_of_ne x s fact hd] at hEntry

theorem remembers_of_invalidate {fact : c.Fact} (h : (x.invalidate s).Remembers c r fact) :
    x.Remembers c r fact ∧ r ≠ s := by
  obtain ⟨e, hEntry, hValue⟩ := h
  rw [invalidate, Memory.cache_invalidate] at hEntry
  obtain ⟨hOld, hKey⟩ := Cache.mem_entries_remove.1 hEntry
  exact ⟨⟨e, hOld, hValue⟩, hKey⟩

theorem not_remembers_clear (fact : c.Fact) : ¬x.clear.Remembers c s fact := by
  rintro ⟨e, hEntry, _⟩
  rw [clear, Memory.cache_clear] at hEntry
  cases hEntry

theorem not_remembers_opening (settings : CachesSettings) (clock : Cache.Clock) (stores : S)
    (counts : B) (fact : c.Fact) :
    ¬(opening settings clock stores counts : Scene C S B).Remembers c s fact := by
  rintro ⟨e, hEntry, _⟩
  have hEmpty : ((Memory.ofSettings settings).cache c).entries = [] := by
    rw [Memory.cache_ofSettings]
    rfl
  have hMem : (s, e) ∈ ((Memory.ofSettings settings).cache c).entries := hEntry
  rw [hEmpty] at hMem
  cases hMem

end Scene

@[simp]
theorem Floor.scene_release (f : Floor C S B) (holds : Option (Pass GateKey)) :
    (f.release holds).scene = f.scene := by
  cases holds <;> rfl

@[simp]
theorem Floor.scene_abandon (f : Floor C S B) (l : LockId) (id : TaskId) :
    (f.abandon l id).scene = f.scene := by
  unfold abandon
  simp only
  split <;> rfl

/-- Whoever is dropped changes nothing but gates. -/
theorem scene_drop (id : TaskId) (t : Task C A) (f : Floor C S B) :
    (Guard.drop id t f).2.scene = f.scene := by
  unfold drop
  split <;> simp

/-- A guard that reads from a store in memory and counts nothing. -/
def ofMemory : Guard Unit MemoryStore Unit where
  binds := (Binds.new ()).withReplica ()
  authority _ := MemoryStore.fetch
  counters := .disabled
  hasReplica := by decide +kernel

end Tollgate.Guard
